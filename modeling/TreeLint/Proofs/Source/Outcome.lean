import TreeLint.Proofs.Source.Calling

/-!
# The outcome of a sequence of calls

A builder goes on after a mistake and reports the first one in the end. So the outcome depends on
the calls that make and close nodes only, and can be read off the sequence: it must close no node
when none is open, make one node outside all others, and leave none open.

**Results.**
* `firstMistake_concat`: the first mistake after one more call.
* `Builder.tracks_run`: what a sequence of calls does to the nesting and to the mistakes.
* `Builder.finish_run_iff`: when a sequence gives a unit, and which mistake it ends with else.
-/

namespace TreeLint
namespace Source

open Symbols Syntax

/-! ## What sequences say by themselves -/

section Sequences

variable {calls : List Call} {call : Call} {k : Nat} {e : ShapeError} {kind : String}

@[simp] theorem openCount_concat (calls : List Call) (call : Call) :
    openCount (calls ++ [call]) = call.openAfter (openCount calls) := by
  simp [openCount]

@[simp] theorem creations_concat (calls : List Call) (call : Call) :
    creations (calls ++ [call]) = creations calls ++ call.creation?.toList := by
  cases h : call.creation? <;> simp [creations, h]

theorem MakesRoot.lt_length (h : MakesRoot calls k kind) : k < calls.length := by
  obtain ⟨⟨call, -, hcall, -⟩, -⟩ := h
  exact (List.getElem?_eq_some_iff.mp hcall).1

theorem MistakeAt.lt_length (h : MistakeAt calls k e) : k < calls.length := by
  cases h with
  | closedWithoutOpen h => exact (List.getElem?_eq_some_iff.mp h.1).1
  | secondRoot hj hfirst h => exact h.lt_length

theorem makesRoot_append (hk : k < calls.length) (rest : List Call) :
    MakesRoot (calls ++ rest) k kind ↔ MakesRoot calls k kind := by
  rw [MakesRoot, MakesRoot, List.getElem?_append_left hk,
    List.take_append_of_le_length (by omega)]

theorem closesNothing_append (hk : k < calls.length) (rest : List Call) :
    ClosesNothing (calls ++ rest) k ↔ ClosesNothing calls k := by
  rw [ClosesNothing, ClosesNothing, List.getElem?_append_left hk,
    List.take_append_of_le_length (by omega)]

/-- Whether a call is a mistake does not depend on what comes after it. -/
theorem mistakeAt_append (hk : k < calls.length) (rest : List Call) :
    MistakeAt (calls ++ rest) k e ↔ MistakeAt calls k e := by
  constructor
  · intro h
    cases h with
    | closedWithoutOpen h =>
        exact .closedWithoutOpen ((closesNothing_append hk rest).mp h)
    | secondRoot hj hfirst h =>
        exact .secondRoot hj ((makesRoot_append (by omega) rest).mp hfirst)
          ((makesRoot_append hk rest).mp h)
  · intro h
    cases h with
    | closedWithoutOpen h =>
        exact .closedWithoutOpen ((closesNothing_append hk rest).mpr h)
    | secondRoot hj hfirst h =>
        exact .secondRoot hj ((makesRoot_append (by omega) rest).mpr hfirst)
          ((makesRoot_append hk rest).mpr h)

theorem makesRoot_concat_length :
    MakesRoot (calls ++ [call]) calls.length kind ↔
      (∃ node, call.creation? = some node ∧ node.kind = kind) ∧ openCount calls = 0 := by
  simp [MakesRoot]

theorem exists_makesRoot_concat (calls : List Call) (call : Call) :
    (∃ k kind, MakesRoot (calls ++ [call]) k kind) ↔
      (∃ k kind, MakesRoot calls k kind) ∨ (call.creation? ≠ none ∧ openCount calls = 0) := by
  constructor
  · rintro ⟨k, kind, h⟩
    have hlt := h.lt_length
    rw [List.length_append, List.length_singleton] at hlt
    rcases Nat.lt_or_eq_of_le (Nat.lt_succ_iff.mp hlt) with hk | rfl
    · exact Or.inl ⟨k, kind, (makesRoot_append hk _).mp h⟩
    · obtain ⟨⟨node, hnode, -⟩, hclosed⟩ := makesRoot_concat_length.mp h
      exact Or.inr ⟨by simp [hnode], hclosed⟩
  · rintro (⟨k, kind, h⟩ | ⟨hcreation, hclosed⟩)
    · exact ⟨k, kind, (makesRoot_append h.lt_length _).mpr h⟩
    · obtain ⟨node, hnode⟩ := Option.ne_none_iff_exists'.mp hcreation
      exact ⟨calls.length, node.kind, makesRoot_concat_length.mpr ⟨⟨node, hnode, rfl⟩, hclosed⟩⟩

/-- Of calls that are mistakes one is the earliest. -/
theorem faultless_iff : Faultless calls ↔ ∀ e, ¬FirstMistake calls e := by
  constructor
  · rintro h e ⟨k, hk, -⟩
    exact h k e hk
  · intro h k
    induction k using Nat.strongRecOn with
    | ind k ih =>
        intro e hk
        exact h e ⟨k, hk, ih⟩

theorem firstMistake_concat :
    FirstMistake (calls ++ [call]) e ↔
      FirstMistake calls e ∨
        (Faultless calls ∧ MistakeAt (calls ++ [call]) calls.length e) := by
  constructor
  · rintro ⟨k, hk, hfirst⟩
    have hlt := hk.lt_length
    rw [List.length_append, List.length_singleton] at hlt
    rcases Nat.lt_or_eq_of_le (Nat.lt_succ_iff.mp hlt) with hk' | rfl
    · refine Or.inl ⟨k, (mistakeAt_append hk' _).mp hk, ?_⟩
      intro j hj other h
      exact hfirst j hj other ((mistakeAt_append (by omega) _).mpr h)
    · refine Or.inr ⟨?_, hk⟩
      intro j other h
      exact hfirst j h.lt_length other ((mistakeAt_append h.lt_length _).mpr h)
  · rintro (⟨k, hk, hfirst⟩ | ⟨hfaultless, h⟩)
    · have hlt := hk.lt_length
      refine ⟨k, (mistakeAt_append hlt _).mpr hk, ?_⟩
      intro j hj other h
      exact hfirst j hj other ((mistakeAt_append (by omega) _).mp h)
    · refine ⟨calls.length, h, ?_⟩
      intro j hj other hother
      exact hfaultless j other ((mistakeAt_append hj _).mp hother)

end Sequences

namespace Builder

variable {b c : Builder} {calls : List Call}

/-! ## What a sequence of calls does -/

/-- A builder has the nodes, the nesting and the mistakes that calls say. -/
structure Tracks (calls : List Call) (b : Builder) : Prop where
  opened : b.opened.length = openCount calls
  isVoid : b.IsVoid ↔ ∀ k kind, ¬MakesRoot calls k kind
  fault : ∀ e, b.fault = some e ↔ FirstMistake calls e
  made : b.made = creations calls

namespace Tracks

theorem opened_eq_nil_iff (h : Tracks calls b) : b.opened = [] ↔ openCount calls = 0 := by
  rw [← h.opened, List.length_eq_zero_iff]

theorem fault_eq_none_iff (h : Tracks calls b) : b.fault = none ↔ Faultless calls := by
  rw [faultless_iff, Option.eq_none_iff_forall_ne_some]
  exact forall_congr' fun e => not_congr (h.fault e)

/-- The next call is a mistake if the builder notes one. -/
theorem mistakeAt_iff (h : Tracks calls b) (call : Call) (e : ShapeError) :
    MistakeAt (calls ++ [call]) calls.length e ↔ b.flaw? call = some e := by
  have hnested : b.opened = [] → (b.roots ≠ [] ↔ ∃ k kind, MakesRoot calls k kind) := by
    intro hopened
    have hvoid := h.isVoid
    rw [IsVoid, hopened] at hvoid
    simp only [true_and] at hvoid
    rw [Ne, hvoid]
    push Not
    rfl
  constructor
  · intro hmistake
    cases hmistake with
    | closedWithoutOpen hcloses =>
        obtain ⟨hcall, hclosed⟩ := hcloses
        obtain rfl : call = .close := by simpa using hcall
        have hopened : b.opened = [] := h.opened_eq_nil_iff.mpr (by simpa using hclosed)
        simp [flaw?, hopened]
    | @secondRoot j first kind hj hfirst hmakes =>
        obtain ⟨⟨node, hnode, rfl⟩, hclosed⟩ := makesRoot_concat_length.mp hmakes
        have hopened : b.opened = [] := h.opened_eq_nil_iff.mpr hclosed
        have hroots : b.roots ≠ [] :=
          (hnested hopened).mpr ⟨j, first, (makesRoot_append hj _).mp hfirst⟩
        cases call <;> simp_all [flaw?, Call.creation?]
  · intro hflaw
    by_cases hclose : call = .close
    · subst hclose
      have hopened : b.opened = [] ∧ e = .closedWithoutOpen := by
        simp only [flaw?, List.isEmpty_iff] at hflaw
        split at hflaw
        · exact ⟨‹_›, (Option.some.inj hflaw).symm⟩
        · cases hflaw
      obtain ⟨hopened, rfl⟩ := hopened
      have hclosed := h.opened_eq_nil_iff.mp hopened
      exact .closedWithoutOpen ⟨by simp, by simpa using hclosed⟩
    · have hmakes : (b.opened = [] ∧ b.roots ≠ []) ∧
          ∃ node, call.creation? = some node ∧ e = .secondRoot node.kind := by
        cases call <;> simp_all [flaw?, Call.creation?]
      obtain ⟨⟨hopened, hroots⟩, node, hnode, rfl⟩ := hmakes
      obtain ⟨j, first, hfirst⟩ := (hnested hopened).mp hroots
      have hclosed := h.opened_eq_nil_iff.mp hopened
      exact .secondRoot hfirst.lt_length ((makesRoot_append hfirst.lt_length _).mpr hfirst)
        (makesRoot_concat_length.mpr ⟨⟨node, hnode, rfl⟩, hclosed⟩)

/-- One more call. -/
theorem perform (h : Tracks calls b) (call : Call) :
    Tracks (calls ++ [call]) (b.perform call) where
  opened := by
    simp [h.opened]
  isVoid := by
    have hconcat : (∀ k kind, ¬MakesRoot (calls ++ [call]) k kind) ↔
        (∀ k kind, ¬MakesRoot calls k kind) ∧
          ¬(call.creation? ≠ none ∧ openCount calls = 0) := by
      have hexists := not_congr (exists_makesRoot_concat calls call)
      push Not at hexists ⊢
      exact hexists
    rw [isVoid_perform, hconcat, ← h.isVoid]
    constructor
    · rintro ⟨hvoid, hcreation⟩
      exact ⟨hvoid, fun hmakes => hmakes.1 hcreation⟩
    · rintro ⟨hvoid, hmakes⟩
      refine ⟨hvoid, ?_⟩
      by_contra hcreation
      exact hmakes ⟨hcreation, h.opened_eq_nil_iff.mp hvoid.1⟩
  fault := by
    intro e
    simp [fault_perform, firstMistake_concat, h.fault, h.fault_eq_none_iff, h.mistakeAt_iff]
  made := by
    simp [h.made]

end Tracks

theorem tracks_new (path : String) (language : Language) (generated testProject : Bool) :
    Tracks [] (new path language generated testProject) where
  opened := rfl
  isVoid := by simp [IsVoid, new, MakesRoot]
  fault := by
    have hnone : Faultless [] := fun k e h => absurd h.lt_length (Nat.not_lt_zero k)
    intro e
    simp [new, faultless_iff.mp hnone e]
  made := rfl

/-- After a sequence of calls a new builder is as the calls say. -/
theorem tracks_run (path : String) (language : Language) (generated testProject : Bool)
    (calls : List Call) : Tracks calls ((new path language generated testProject).run calls) := by
  induction calls using List.reverseRecOn with
  | nil => exact tracks_new path language generated testProject
  | append_singleton calls call ih =>
      simpa [run] using ih.perform call

/-! ## The end -/

theorem finish_of_fault {e : ShapeError} (h : b.fault = some e) : b.finish = .error e := by
  rw [finish, h]

theorem finish_of_opened (hfault : b.fault = none) (hopened : b.opened ≠ []) :
    b.finish = .error (.leftOpen b.opened.length) := by
  cases h : b.opened with
  | nil => exact absurd h hopened
  | cons n rest => rw [finish, hfault, h]

theorem finish_of_isVoid (hfault : b.fault = none) (hvoid : b.IsVoid) :
    b.finish = .error .noRoot := by
  rw [finish, hfault, hvoid.1, hvoid.2]

theorem finish_of_root (hfault : b.fault = none) (hopened : b.opened = []) {root : Outline}
    {others : List Outline} (hroots : b.roots = root :: others) :
    b.finish =
      .ok ⟨b.path, b.language, b.generated, b.testProject, b.treeOf root, b.symbols⟩ := by
  rw [finish, hfault, hopened, hroots]

/-- A builder gives a unit if it has a root and there is neither a mistake nor an open node. -/
theorem exists_finish_iff :
    (∃ u, b.finish = .ok u) ↔ b.fault = none ∧ b.opened = [] ∧ b.roots ≠ [] := by
  constructor
  · rintro ⟨u, hu⟩
    cases hfault : b.fault with
    | some e =>
        rw [finish_of_fault hfault] at hu
        cases hu
    | none =>
        by_cases hopened : b.opened = []
        · refine ⟨rfl, hopened, fun hroots => ?_⟩
          rw [finish_of_isVoid hfault ⟨hopened, hroots⟩] at hu
          cases hu
        · rw [finish_of_opened hfault hopened] at hu
          cases hu
  · rintro ⟨hfault, hopened, hroots⟩
    obtain ⟨root, others, h⟩ := List.exists_cons_of_ne_nil hroots
    exact ⟨_, finish_of_root hfault hopened h⟩

/-- The error in the end is what is wrong with the calls. -/
theorem Tracks.finish_eq_error_iff (h : Tracks calls b) (e : ShapeError) :
    b.finish = .error e ↔ Fails calls e := by
  constructor
  · intro he
    cases hfault : b.fault with
    | some first =>
        rw [finish_of_fault hfault] at he
        cases he
        exact .mistake ((h.fault e).mp hfault)
    | none =>
        have hfaultless := h.fault_eq_none_iff.mp hfault
        by_cases hopened : b.opened = []
        · have hclosed := h.opened_eq_nil_iff.mp hopened
          by_cases hroots : b.roots = []
          · rw [finish_of_isVoid hfault ⟨hopened, hroots⟩] at he
            cases he
            exact .noRoot hfaultless hclosed (h.isVoid.mp ⟨hopened, hroots⟩)
          · obtain ⟨u, hu⟩ := exists_finish_iff.mpr ⟨hfault, hopened, hroots⟩
            rw [hu] at he
            cases he
        · rw [finish_of_opened hfault hopened, h.opened] at he
          cases he
          exact .leftOpen hfaultless
            (Nat.pos_of_ne_zero fun hclosed => hopened (h.opened_eq_nil_iff.mpr hclosed))
  · intro he
    cases he with
    | mistake hfirst => exact finish_of_fault ((h.fault e).mpr hfirst)
    | leftOpen hfaultless hopen =>
        have hopened : b.opened ≠ [] := fun hnone =>
          Nat.ne_of_gt hopen (h.opened_eq_nil_iff.mp hnone)
        rw [finish_of_opened (h.fault_eq_none_iff.mpr hfaultless) hopened, h.opened]
    | noRoot hfaultless hclosed hnone =>
        exact finish_of_isVoid (h.fault_eq_none_iff.mpr hfaultless) (h.isVoid.mpr hnone)

/-! ## Calls that do not matter -/

/-- Two builders are told the same in the end, whatever calls follow. -/
structure Alike (b c : Builder) : Prop where
  opened : c.opened.length = b.opened.length
  isVoid : c.IsVoid ↔ b.IsVoid
  fault : c.fault = b.fault

namespace Alike

theorem refl (b : Builder) : Alike b b :=
  ⟨rfl, Iff.rfl, rfl⟩

theorem trans {d : Builder} (h : Alike b c) (k : Alike c d) : Alike b d :=
  ⟨k.opened.trans h.opened, k.isVoid.trans h.isVoid, k.fault.trans h.fault⟩

theorem opened_eq_nil_iff (h : Alike b c) : c.opened = [] ↔ b.opened = [] := by
  rw [← List.length_eq_zero_iff, h.opened, List.length_eq_zero_iff]

theorem flaw?_eq (h : Alike b c) (call : Call) : c.flaw? call = b.flaw? call := by
  have hopened := h.opened_eq_nil_iff
  by_cases hnone : b.opened = []
  · have hvoid := h.isVoid
    simp only [IsVoid, hopened.mpr hnone, hnone, true_and] at hvoid
    have hroots : c.roots.isEmpty = b.roots.isEmpty := by
      rw [Bool.eq_iff_iff, List.isEmpty_iff, List.isEmpty_iff]
      exact hvoid
    cases call <;> simp [flaw?, hopened.mpr hnone, hnone, hroots]
  · have hsome : c.opened ≠ [] := fun hc => hnone (hopened.mp hc)
    cases call <;> simp [flaw?, hnone, hsome]

theorem perform (h : Alike b c) (call : Call) : Alike (b.perform call) (c.perform call) where
  opened := by rw [opened_perform, opened_perform, h.opened]
  isVoid := by rw [isVoid_perform, isVoid_perform, h.isVoid]
  fault := by rw [fault_perform, fault_perform, h.fault, h.flaw?_eq]

theorem outcome_eq (h : Alike b c) : c.outcome = b.outcome := by
  rw [outcome, outcome]
  cases hfault : b.fault with
  | some e =>
      rw [finish_of_fault hfault, finish_of_fault (h.fault.trans hfault)]
  | none =>
      have hfault' := h.fault.trans hfault
      by_cases hopened : b.opened = []
      · have hopened' := h.opened_eq_nil_iff.mpr hopened
        by_cases hvoid : b.IsVoid
        · rw [finish_of_isVoid hfault hvoid, finish_of_isVoid hfault' (h.isVoid.mpr hvoid)]
        · have hroots : b.roots ≠ [] := fun hr => hvoid ⟨hopened, hr⟩
          have hroots' : c.roots ≠ [] := fun hr => hvoid (h.isVoid.mp ⟨hopened', hr⟩)
          obtain ⟨u, hu⟩ := exists_finish_iff.mpr ⟨hfault, hopened, hroots⟩
          obtain ⟨v, hv⟩ := exists_finish_iff.mpr ⟨hfault', hopened', hroots'⟩
          rw [hu, hv]
          rfl
      · have hopened' : c.opened ≠ [] := fun hc => hopened (h.opened_eq_nil_iff.mp hc)
        rw [finish_of_opened hfault hopened, finish_of_opened hfault' hopened', h.opened]

end Alike

theorem alike_perform (b : Builder) {call : Call} (h : call.isStructural = false) :
    Alike b (b.perform call) := by
  have hshape := sameShape_perform b h
  exact ⟨by rw [hshape.opened], by rw [IsVoid, IsVoid, hshape.opened, hshape.roots], hshape.fault⟩

/-- Only the calls that make and close nodes count. -/
theorem Alike.run_filter (calls : List Call) :
    ∀ {b c : Builder}, Alike b c →
      Alike (b.run calls) (c.run (calls.filter Call.isStructural)) := by
  induction calls with
  | nil =>
      intro b c h
      exact h
  | cons call calls ih =>
      intro b c h
      by_cases hcall : call.isStructural = true
      · rw [List.filter_cons_of_pos hcall]
        exact ih (h.perform call)
      · rw [List.filter_cons_of_neg hcall]
        have hback : Alike (b.perform call) b := by
          have hforth := alike_perform b (Bool.eq_false_iff.mpr hcall)
          exact ⟨hforth.opened.symm, hforth.isVoid.symm, hforth.fault.symm⟩
        exact ih (hback.trans h)

/-- A sequence of calls gives a unit if and only if no call closes a node while none is open, one
node is made while none is open, and none is left open. Else it ends with what is wrong with it.
Calls that neither make nor close a node can be left out. -/
theorem finish_run_iff (path : String) (language : Language) (generated testProject : Bool)
    (calls : List Call) :
    let built := (new path language generated testProject).run
    ((∃ u, (built calls).finish = .ok u) ↔
      (∀ k, ¬ClosesNothing calls k) ∧ (∃! k, ∃ kind, MakesRoot calls k kind) ∧
        openCount calls = 0) ∧
    (∀ e, (built calls).finish = .error e ↔ Fails calls e) ∧
    (built calls).outcome = (built (calls.filter Call.isStructural)).outcome := by
  intro built
  have htracks : Tracks calls (built calls) :=
    tracks_run path language generated testProject calls
  refine ⟨?_, htracks.finish_eq_error_iff, ?_⟩
  · rw [exists_finish_iff, htracks.fault_eq_none_iff, htracks.opened_eq_nil_iff]
    constructor
    · rintro ⟨hfaultless, hclosed, hroots⟩
      have hroot : ∃ k kind, MakesRoot calls k kind := by
        by_contra hnone
        push Not at hnone
        exact hroots (htracks.isVoid.mpr hnone).2
      obtain ⟨k, kind, hk⟩ := hroot
      refine ⟨fun i hi => hfaultless i _ (.closedWithoutOpen hi), ⟨k, ⟨kind, hk⟩, ?_⟩, hclosed⟩
      rintro j ⟨other, hj⟩
      -- of two roots the later one would be a mistake
      rcases Nat.lt_trichotomy j k with hlt | rfl | hlt
      · exact absurd (.secondRoot hlt hj hk) (hfaultless k _)
      · rfl
      · exact absurd (.secondRoot hlt hk hj) (hfaultless j _)
    · rintro ⟨hcloses, ⟨k, ⟨kind, hk⟩, honly⟩, hclosed⟩
      refine ⟨?_, hclosed, ?_⟩
      · intro i e hi
        cases hi with
        | closedWithoutOpen h => exact hcloses i h
        | secondRoot hj hfirst h =>
            have hsame := (honly _ ⟨_, hfirst⟩).trans (honly _ ⟨_, h⟩).symm
            omega
      · intro hroots
        exact htracks.isVoid.mp ⟨htracks.opened_eq_nil_iff.mpr hclosed, hroots⟩ k kind hk
  · have halike := (Alike.refl (new path language generated testProject)).run_filter calls
    exact halike.outcome_eq.symm

end Builder
end Source
end TreeLint
