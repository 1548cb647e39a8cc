import Mathlib.Data.List.DropRight
import TreeLint.Proofs.Source.Numbering

/-!
# Where trivia goes

Trivia in front of the next token waits until that token is made. Trivia behind a token goes to the
last one that was made; as long as there is none, it waits too. Besides, a node is handed trivia by
its number. So what a node has can be read off the calls around the one that made it.

**Results.**
* `Builder.waits_run`: what waits after some calls.
* `Builder.leading_run`, `Builder.trailing_run`: what calls do to a node that is there.
* `Builder.perm_perform`: no call loses trivia or makes it up.
* `Builder.finish_keepsTrivia`: the trivia of a unit that is built.
-/

namespace TreeLint
namespace Source

open Syntax
open scoped List

/-! ## What calls say about trivia -/

namespace Call

def isToken : Call → Bool
  | .token .. => true
  | _ => false

/-- Trivia in front of the next token. -/
def before? : Call → Option Trivia
  | .leading t => some t
  | _ => none

/-- Trivia behind the last token. -/
def behind? : Call → Option Trivia
  | .trailing t => some t
  | _ => none

def item? (call : Call) : Option Trivia :=
  call.before? <|> call.behind?

/-- Trivia in front of the node with a number. -/
def beforeNode? (id : NodeId) : Call → Option Trivia
  | .addLeading node t => if node = id then some t else none
  | _ => none

/-- Trivia behind the node with a number. -/
def behindNode? (id : NodeId) : Call → Option Trivia
  | .addTrailing node t => if node = id then some t else none
  | _ => none

end Call

/-- The trivia that waits for the next token: what was given in front of it since the last token,
or everything as long as there is no token. -/
def waiting (calls : List Call) : List Trivia :=
  if calls.any Call.isToken then
    (calls.rtakeWhile fun call => !call.isToken).filterMap Call.before?
  else calls.filterMap Call.item?

/-- The trivia behind a token that calls give after it was made: what is given before there is
another one, and what is handed over by its number. -/
def behindToken (id : NodeId) (calls : List Call) : List Trivia :=
  (calls.takeWhile fun call => !call.isToken).filterMap
      (fun call => call.behind? <|> call.behindNode? id) ++
    (calls.dropWhile fun call => !call.isToken).filterMap (Call.behindNode? id)

/-- The trivia of a unit is what calls have given. A token has in front what waited when it was
made, and behind it what was given between it and the next token. Other nodes have none, save that
any node that is there takes what it is handed by its number. If nothing is handed over in that way,
the nodes have everything that was given, once, except what still waits. -/
structure SourceUnit.KeepsTrivia (u : SourceUnit) (calls : List Call) : Prop where
  tokens : ∀ n ∈ u.nodes, n.info.text ≠ none → ∃ before kind text role behind,
    calls = before ++ .token kind text role :: behind ∧ (creations before).length = n.id ∧
    n.info.leading = waiting before ++ behind.filterMap (Call.beforeNode? n.id) ∧
    n.info.trailing = behindToken n.id behind
  others : ∀ n ∈ u.nodes, n.info.text = none → ∃ before kind role behind,
    calls = before ++ .start kind role :: behind ∧ (creations before).length = n.id ∧
    n.info.leading = behind.filterMap (Call.beforeNode? n.id) ∧
    n.info.trailing = behind.filterMap (Call.behindNode? n.id)
  all : (∀ id t, .addLeading id t ∉ calls ∧ .addTrailing id t ∉ calls) →
    ((u.nodes.flatMap fun n => n.info.leading ++ n.info.trailing) ++ waiting calls).Perm
      (calls.filterMap Call.item?)

theorem filterMap_cons_eq {α β : Type} (f : α → Option β) (a : α) (l : List α) :
    (a :: l).filterMap f = (f a).toList ++ l.filterMap f := by
  rw [List.filterMap_cons]
  cases f a <;> rfl

/-- One more call ends the waiting, or gives something that waits. -/
@[simp] theorem waiting_concat (calls : List Call) (call : Call) :
    waiting (calls ++ [call]) =
      if call.isToken then []
      else waiting calls ++
        (if calls.any Call.isToken then call.before? else call.item?).toList := by
  cases hcall : call.isToken with
  | true =>
      have hany : (calls ++ [call]).any Call.isToken = true := by
        simp [hcall]
      simp [waiting, hany, hcall]
  | false =>
      have hany : (calls ++ [call]).any Call.isToken = calls.any Call.isToken := by
        simp [hcall]
      rw [waiting, waiting, hany]
      split <;> simp [hcall, filterMap_cons_eq]

theorem behindToken_cons_of_isToken (id : NodeId) {call : Call} (h : call.isToken = true)
    (calls : List Call) :
    behindToken id (call :: calls) = calls.filterMap (Call.behindNode? id) := by
  cases call with
  | token kind text role => rfl
  | _ => cases h

theorem behindToken_cons (id : NodeId) {call : Call} (h : call.isToken = false)
    (calls : List Call) :
    behindToken id (call :: calls) =
      (call.behind? <|> call.behindNode? id).toList ++ behindToken id calls := by
  simp [behindToken, h, filterMap_cons_eq]

/-- A call made the node with a number, and the calls in front of it those with lesser ones. -/
theorem exists_call_of_creation {calls : List Call} {id : NodeId} {node : Creation}
    (h : (creations calls)[id]? = some node) :
    ∃ before call behind, calls = before ++ call :: behind ∧ (creations before).length = id ∧
      call.creation? = some node := by
  obtain ⟨hlt, hnode⟩ := List.getElem?_eq_some_iff.mp h
  have hsplit : creations calls =
      (creations calls).take id ++ node :: (creations calls).drop (id + 1) := by
    rw [← hnode, ← List.drop_eq_getElem_cons hlt, List.take_append_drop]
  obtain ⟨first, rest, rfl, hfirst, hrest⟩ := List.filterMap_eq_append_iff.mp hsplit
  obtain ⟨quiet, call, behind, rfl, hquiet, hcall, -⟩ := List.filterMap_eq_cons_iff.mp hrest
  refine ⟨first ++ quiet, call, behind, by rw [List.append_assoc], ?_, hcall⟩
  rw [creations, List.filterMap_append, List.filterMap_eq_nil_iff.mpr hquiet, List.append_nil,
    hfirst, List.length_take, Nat.min_eq_left hlt.le]

namespace Builder

variable {b c : Builder} {id : NodeId}

/-! ## Waiting -/

theorem lastToken_perform (b : Builder) (call : Call) :
    (b.perform call).lastToken = if call.isToken then some b.nextNode else b.lastToken := by
  cases call with
  | start kind role =>
      rw [perform, start, admit?_eq]
      rfl
  | token kind text role =>
      rw [perform, token, admit?_eq, attach_eq]
      rfl
  | close =>
      rw [perform, close]
      split
      · rfl
      · rw [attach_eq]
        rfl
  | trailing t =>
      rw [perform, trailing]
      cases hlast : b.lastToken with
      | none => exact hlast
      | some token => exact hlast
  | _ => rfl

theorem pending_perform (b : Builder) (call : Call) :
    (b.perform call).pending =
      if call.isToken then []
      else b.pending ++ (if b.lastToken.isSome then call.before? else call.item?).toList := by
  cases call with
  | start kind role =>
      rw [perform, start, admit?_eq]
      cases b.lastToken <;> exact (List.append_nil _).symm
  | token kind text role =>
      rw [perform, token, admit?_eq, attach_eq]
      rfl
  | close =>
      rw [perform, close]
      split
      · cases b.lastToken <;> exact (List.append_nil _).symm
      · rw [attach_eq]
        cases b.lastToken <;> exact (List.append_nil _).symm
  | leading t => cases b.lastToken <;> rfl
  | trailing t =>
      rw [perform, trailing]
      cases b.lastToken with
      | none => rfl
      | some token => exact (List.append_nil _).symm
  | _ => cases b.lastToken <;> exact (List.append_nil _).symm

/-- A builder has the trivia that waits after some calls, and knows whether there was a token. -/
structure Waits (calls : List Call) (b : Builder) : Prop where
  late : b.lastToken.isSome = calls.any Call.isToken
  pending : b.pending = waiting calls
  last : ∀ i, b.lastToken = some i → i < b.nextNode

theorem Waits.perform {calls : List Call} (h : Waits calls b) (call : Call) :
    Waits (calls ++ [call]) (b.perform call) where
  late := by
    cases hcall : call.isToken <;> simp [lastToken_perform, hcall, h.late]
  pending := by rw [pending_perform, waiting_concat, h.pending, h.late]
  last := by
    intro i hi
    rw [lastToken_perform] at hi
    rw [nextNode_perform]
    split at hi
    · rename_i htoken
      obtain rfl := Option.some.inj hi
      cases call with
      | token kind text role => exact Nat.lt_succ_self _
      | _ => cases htoken
    · exact Nat.lt_add_right _ (h.last i hi)

theorem waits_run (path : String) (language : Language) (generated testProject : Bool)
    (calls : List Call) : Waits calls ((new path language generated testProject).run calls) := by
  induction calls using List.reverseRecOn with
  | nil => exact ⟨rfl, rfl, fun i hi => by cases hi⟩
  | append_singleton calls call ih =>
      simpa [run] using ih.perform call

/-! ## What is added to a node -/

/-- What a call puts behind a node, if some token was the last one. -/
def putBehind? (last : Option NodeId) (id : NodeId) : Call → Option Trivia
  | .trailing t => if last = some id then some t else none
  | .addTrailing node t => if node = id then some t else none
  | _ => none

theorem trivia_perform (hid : id < b.nextNode) (call : Call) :
    ((b.perform call).entryAt id).leading =
        (b.entryAt id).leading ++ (call.beforeNode? id).toList ∧
      ((b.perform call).entryAt id).trailing =
        (b.entryAt id).trailing ++ (putBehind? b.lastToken id call).toList := by
  have hsame : ∀ e : Entry, e.leading = e.leading ++ (none : Option Trivia).toList ∧
      e.trailing = e.trailing ++ (none : Option Trivia).toList := fun e =>
    ⟨(List.append_nil _).symm, (List.append_nil _).symm⟩
  cases call with
  | start kind role =>
      rw [perform, entryAt_of_push (entries_start b kind role), if_neg (Nat.ne_of_lt hid)]
      exact hsame _
  | token kind text role =>
      rw [perform, entryAt_of_push (entries_token b kind text role), if_neg (Nat.ne_of_lt hid)]
      exact hsame _
  | close =>
      cases hopened : b.opened with
      | nil =>
          rw [perform, close_of_nil hopened]
          exact hsame _
      | cons n outer =>
          rw [perform, entryAt_of_modify (entries_close hopened)]
          split
          · split
            · exact hsame _
            · exact hsame (b.entryAt id)
          · exact hsame _
  | trailing t =>
      rw [perform, trailing]
      cases b.lastToken with
      | none => exact hsame (b.entryAt id)
      | some token =>
          dsimp only
          rw [addTrailing, entryAt_modify, putBehind?]
          by_cases htoken : id = token
          · rw [if_pos ⟨htoken, htoken ▸ hid⟩, if_pos (congrArg some htoken.symm)]
            exact ⟨(List.append_nil _).symm, rfl⟩
          · rw [if_neg fun h => htoken h.1, if_neg fun h => htoken (Option.some.inj h).symm]
            exact hsame _
  | setSpan node s =>
      rw [perform, setSpan, entryAt_modify]
      split
      · exact hsame (b.entryAt id)
      · exact hsame _
  | addLeading node t =>
      rw [perform, addLeading, entryAt_modify, Call.beforeNode?]
      by_cases hnode : id = node
      · rw [if_pos ⟨hnode, hnode ▸ hid⟩, if_pos hnode.symm]
        exact ⟨rfl, (List.append_nil _).symm⟩
      · rw [if_neg fun h => hnode h.1, if_neg (Ne.symm hnode)]
        exact hsame _
  | addTrailing node t =>
      rw [perform, addTrailing, entryAt_modify, putBehind?]
      by_cases hnode : id = node
      · rw [if_pos ⟨hnode, hnode ▸ hid⟩, if_pos hnode.symm]
        exact ⟨(List.append_nil _).symm, rfl⟩
      · rw [if_neg fun h => hnode h.1, if_neg (Ne.symm hnode)]
        exact hsame _
  | _ => exact hsame (b.entryAt id)

/-- A token that is made takes what waits. -/
theorem trivia_nextNode (b : Builder) {call : Call} {node : Creation}
    (hcall : call.creation? = some node) :
    ((b.perform call).entryAt b.nextNode).leading = (if call.isToken then b.pending else []) ∧
      ((b.perform call).entryAt b.nextNode).trailing = [] := by
  cases call with
  | start kind role =>
      rw [perform, entryAt_of_push (entries_start b kind role), if_pos rfl]
      exact ⟨rfl, rfl⟩
  | token kind text role =>
      rw [perform, entryAt_of_push (entries_token b kind text role), if_pos rfl]
      exact ⟨rfl, rfl⟩
  | _ => cases hcall

/-- A node that is there stays there. -/
theorem lt_nextNode_perform (hid : id < b.nextNode) (call : Call) :
    id < (b.perform call).nextNode := by
  simpa using Nat.lt_add_right _ hid

theorem leading_run (calls : List Call) : ∀ {b : Builder}, id < b.nextNode →
    ((b.run calls).entryAt id).leading =
      (b.entryAt id).leading ++ calls.filterMap (Call.beforeNode? id) := by
  induction calls with
  | nil => exact fun _ => (List.append_nil _).symm
  | cons call calls ih =>
      intro b hid
      rw [run, List.foldl_cons, ← run, ih (lt_nextNode_perform hid call),
        (trivia_perform hid call).1, filterMap_cons_eq, List.append_assoc]

/-- A node that was not the last token is not told of trivia behind the last one. -/
theorem trailing_run_of_ne (calls : List Call) : ∀ {b : Builder}, id < b.nextNode →
    b.lastToken ≠ some id → ((b.run calls).entryAt id).trailing =
      (b.entryAt id).trailing ++ calls.filterMap (Call.behindNode? id) := by
  induction calls with
  | nil => exact fun _ _ => (List.append_nil _).symm
  | cons call calls ih =>
      intro b hid hlast
      have hnext : (b.perform call).lastToken ≠ some id := by
        rw [lastToken_perform]
        split
        · exact fun h => Nat.ne_of_gt hid (Option.some.inj h)
        · exact hlast
      have hput : putBehind? b.lastToken id call = call.behindNode? id := by
        cases call with
        | trailing t => exact if_neg hlast
        | _ => rfl
      rw [run, List.foldl_cons, ← run, ih (lt_nextNode_perform hid call) hnext,
        (trivia_perform hid call).2, hput, filterMap_cons_eq, List.append_assoc]

/-- The last token takes the trivia behind it until there is another one. -/
theorem trailing_run (calls : List Call) : ∀ {b : Builder}, id < b.nextNode →
    b.lastToken = some id → ((b.run calls).entryAt id).trailing =
      (b.entryAt id).trailing ++ behindToken id calls := by
  induction calls with
  | nil => exact fun _ _ => (List.append_nil _).symm
  | cons call calls ih =>
      intro b hid hlast
      have hstep := (trivia_perform hid call).2
      have hthere := lt_nextNode_perform hid call
      rw [run, List.foldl_cons, ← run]
      cases htoken : call.isToken with
      | true =>
          have hnext : (b.perform call).lastToken ≠ some id := by
            rw [lastToken_perform, if_pos htoken]
            exact fun h => Nat.ne_of_gt hid (Option.some.inj h)
          have hput : putBehind? b.lastToken id call = none := by
            cases call with
            | token kind text role => rfl
            | _ => cases htoken
          simp [trailing_run_of_ne calls hthere hnext, hstep, hput,
            behindToken_cons_of_isToken id htoken]
      | false =>
          have hnext : (b.perform call).lastToken = some id := by
            rw [lastToken_perform, htoken]
            exact hlast
          have hput :
              putBehind? b.lastToken id call = (call.behind? <|> call.behindNode? id) := by
            cases call with
            | trailing t => exact if_pos hlast
            | _ => rfl
          simp [ih hthere hnext, hstep, hput, behindToken_cons id htoken]

/-! ## All trivia -/

/-- The trivia of all nodes. -/
def attached (b : Builder) : List Trivia :=
  (List.range b.nextNode).flatMap fun i => (b.entryAt i).leading ++ (b.entryAt i).trailing

theorem attached_of_push {e : Entry} (h : c.entries = b.entries.push e) :
    c.attached = b.attached ++ (e.leading ++ e.trailing) := by
  have hnext : c.nextNode = b.nextNode + 1 := by
    rw [nextNode, h, Array.size_push]
    rfl
  have hold : ∀ i ∈ List.range b.nextNode, c.entryAt i = b.entryAt i := fun i hi => by
    rw [entryAt_of_push h, if_neg (Nat.ne_of_lt (List.mem_range.mp hi))]
  rw [attached, attached, hnext, List.range_succ, List.flatMap_append, List.flatMap_singleton,
    entryAt_of_push h, if_pos rfl]
  exact congrArg (· ++ _) (List.flatMap_congr fun i hi => by rw [hold i hi])

/-- Something is added at the end of one of some lists. -/
theorem perm_flatMap_concat {ids : List NodeId} (hids : ids.Nodup) (hid : id ∈ ids)
    {f g : NodeId → List Trivia} {t : Trivia} (hnew : g id = f id ++ [t])
    (hold : ∀ i ∈ ids, i ≠ id → g i = f i) : ids.flatMap g ~ ids.flatMap f ++ [t] := by
  have hfront := List.perm_cons_erase hid
  have hrest : (ids.erase id).flatMap g = (ids.erase id).flatMap f := by
    apply List.flatMap_congr
    intro i hi
    obtain ⟨hne, hi⟩ := hids.mem_erase_iff.mp hi
    exact hold i hi hne
  calc ids.flatMap g
    _ ~ (id :: ids.erase id).flatMap g := hfront.flatMap_right g
    _ = f id ++ ([t] ++ (ids.erase id).flatMap f) := by
        simp [hrest, hnew]
    _ ~ f id ++ ((ids.erase id).flatMap f ++ [t]) := List.perm_append_comm.append_left _
    _ = (id :: ids.erase id).flatMap f ++ [t] := by rw [List.flatMap_cons, List.append_assoc]
    _ ~ ids.flatMap f ++ [t] := (hfront.flatMap_right f).symm.append_right _

/-- A call that says nothing about trivia leaves all of it where it is. -/
theorem attached_eq_of_silent {call : Call} (hnone : call.creation? = none)
    (hcall : ∀ id, call.beforeNode? id = none ∧ putBehind? b.lastToken id call = none) :
    (b.perform call).attached = b.attached := by
  rw [attached, attached, nextNode_perform, hnone]
  apply List.flatMap_congr
  intro i hi
  obtain ⟨hleading, htrailing⟩ := trivia_perform (List.mem_range.mp hi) call
  simp [hleading, htrailing, (hcall i).1, (hcall i).2]

/-- Trivia behind the last token goes there. -/
theorem attached_trailing {token : NodeId} (hlast : b.lastToken = some token)
    (hthere : token < b.nextNode) (t : Trivia) :
    (b.perform (.trailing t)).attached ~ b.attached ++ [t] := by
  have hleading : ∀ i < b.nextNode,
      ((b.perform (.trailing t)).entryAt i).leading = (b.entryAt i).leading := fun i hi =>
    (trivia_perform hi _).1.trans (List.append_nil _)
  rw [attached, attached, nextNode_perform]
  refine perm_flatMap_concat List.nodup_range (List.mem_range.mpr hthere) ?_ ?_
  · simp [hleading token hthere, (trivia_perform hthere _).2, putBehind?, hlast]
  · intro i hi hne
    have hother : b.lastToken ≠ some i := by
      rw [hlast]
      exact fun h => hne (Option.some.inj h).symm
    simp [hleading i (List.mem_range.mp hi), (trivia_perform (List.mem_range.mp hi) _).2,
      putBehind?, hother]

/-- No call loses trivia or makes it up, if it does not hand it to a node by its number. -/
theorem perm_perform {calls : List Call} (h : Waits calls b) {call : Call}
    (hcall : ∀ id, call.beforeNode? id = none ∧ call.behindNode? id = none) :
    (b.perform call).attached ++ (b.perform call).pending ~
      b.attached ++ b.pending ++ call.item?.toList := by
  have hpending := b.pending_perform call
  cases call with
  | start kind role =>
      rw [hpending, perform, attached_of_push (entries_start b kind role)]
      cases b.lastToken <;> simp [Call.isToken, Call.before?, Call.behind?, Call.item?]
  | token kind text role =>
      rw [hpending, perform, attached_of_push (entries_token b kind text role)]
      simp [Call.isToken, Call.before?, Call.behind?, Call.item?]
  | trailing t =>
      cases hlast : b.lastToken with
      | none =>
        rw [hpending, hlast, attached_eq_of_silent rfl, List.append_assoc]
        · rfl
        · intro id
          rw [putBehind?, hlast]
          exact ⟨rfl, rfl⟩
      | some token =>
        rw [hpending, hlast]
        calc (b.perform (.trailing t)).attached ++ (b.pending ++ [])
          _ ~ b.attached ++ [t] ++ (b.pending ++ []) :=
              (attached_trailing hlast (h.last token hlast) t).append_right _
          _ = b.attached ++ ([t] ++ b.pending) := by rw [List.append_nil, List.append_assoc]
          _ ~ b.attached ++ (b.pending ++ [t]) := List.perm_append_comm.append_left _
          _ = b.attached ++ b.pending ++ [t] := (List.append_assoc ..).symm
  | addLeading node t => exact absurd (hcall node).1 (by simp [Call.beforeNode?])
  | addTrailing node t => exact absurd (hcall node).2 (by simp [Call.behindNode?])
  | _ =>
    rw [hpending, attached_eq_of_silent rfl fun _ => ⟨rfl, rfl⟩]
    cases b.lastToken <;> simp [Call.isToken, Call.before?, Call.behind?, Call.item?]

/-! ## Sequences of calls -/

section

variable (path : String) (language : Language) (generated testProject : Bool)

theorem perm_run {calls : List Call}
    (hcalls : ∀ id t, .addLeading id t ∉ calls ∧ .addTrailing id t ∉ calls) :
    ((new path language generated testProject).run calls).attached ++ waiting calls ~
      calls.filterMap Call.item? := by
  rw [← (waits_run path language generated testProject calls).pending]
  induction calls using List.reverseRecOn with
  | nil => exact List.Perm.refl _
  | append_singleton calls call ih =>
      have hbefore : ∀ id t, .addLeading id t ∉ calls ∧ .addTrailing id t ∉ calls := fun id t =>
        ⟨fun h => (hcalls id t).1 (List.mem_append_left _ h),
          fun h => (hcalls id t).2 (List.mem_append_left _ h)⟩
      have hcall : ∀ id, call.beforeNode? id = none ∧ call.behindNode? id = none := by
        intro id
        cases call with
        | addLeading node t => exact absurd (by simp) (hcalls node t).1
        | addTrailing node t => exact absurd (by simp) (hcalls node t).2
        | _ => exact ⟨rfl, rfl⟩
      have hperm := perm_perform (waits_run path language generated testProject calls) hcall
      simpa [run, filterMap_cons_eq] using hperm.trans ((ih hbefore).append_right _)

@[simp] theorem nextNode_run (calls : List Call) :
    ((new path language generated testProject).run calls).nextNode = (creations calls).length := by
  rw [← length_made, (tracks_run path language generated testProject calls).made]

theorem run_append_cons (b : Builder) (before : List Call) (call : Call) (behind : List Call) :
    b.run (before ++ call :: behind) = ((b.run before).perform call).run behind := by
  simp [run]

/-- A token has what waited for it in front, and what comes behind it; and any node has what it is
handed. -/
theorem trivia_of_creation {call : Call} {node : Creation} (hcall : call.creation? = some node)
    (before behind : List Call) :
    let id := (creations before).length
    let e := ((new path language generated testProject).run (before ++ call :: behind)).entryAt id
    e.leading = (if call.isToken then waiting before else []) ++
        behind.filterMap (Call.beforeNode? id) ∧
      e.trailing = if call.isToken then behindToken id behind
        else behind.filterMap (Call.behindNode? id) := by
  intro id e
  have hwaits := waits_run path language generated testProject before
  have hnext := nextNode_run path language generated testProject before
  have he : e = ((((new path language generated testProject).run before).perform call).run
      behind).entryAt id := by
    rw [← run_append_cons]
  generalize (new path language generated testProject).run before = b at *
  have hid : id = b.nextNode := hnext.symm
  have hthere : b.nextNode < (b.perform call).nextNode := by
    rw [nextNode_perform, hcall]
    exact Nat.lt_succ_self _
  obtain ⟨hleading, htrailing⟩ := trivia_nextNode b hcall
  have hlast := lastToken_perform b call
  rw [he, hid, leading_run behind hthere, hleading, ← hwaits.pending]
  refine ⟨rfl, ?_⟩
  cases htoken : call.isToken with
  | true =>
      rw [htoken] at hlast
      rw [trailing_run behind hthere hlast, htrailing]
      rfl
  | false =>
      rw [htoken] at hlast
      rw [trailing_run_of_ne behind hthere, htrailing]
      · rfl
      · rw [hlast]
        exact fun h => Nat.lt_irrefl _ (hwaits.last _ h)

end

/-! ## The unit -/

/-- The number of a node tells which creation it is. -/
theorem creation_of_mem {u : SourceUnit} {calls : List Call} (h : u.BuiltBy calls) {n : Node}
    (hn : n ∈ u.nodes) : (creations calls)[n.id]? = some (Creation.ofNode n) := by
  obtain ⟨i, hi⟩ := List.mem_iff_getElem?.mp hn
  have hid : (u.nodes.map Node.id)[i]? = some n.id := by rw [List.getElem?_map, hi]; rfl
  rw [h.ids] at hid
  obtain ⟨hlt, hnumber⟩ := List.getElem?_eq_some_iff.mp hid
  rw [List.getElem_range] at hnumber
  rw [← hnumber, ← h.creations, List.getElem?_map, hi]
  rfl

/-- The trivia of a unit is what the calls have given, each piece in its place. -/
theorem finish_keepsTrivia {path : String} {language : Language} {generated testProject : Bool}
    {calls : List Call} {u : SourceUnit}
    (h : ((new path language generated testProject).run calls).finish = .ok u) :
    u.KeepsTrivia calls := by
  have hbuilt := finish_builtBy h
  constructor
  case tokens =>
    intro n hn htext
    have hinfo := info_of_mem_nodes h hn
    obtain ⟨before, call, behind, rfl, hid, hcall⟩ :=
      exists_call_of_creation (creation_of_mem hbuilt hn)
    obtain ⟨hleading, htrailing⟩ :=
      trivia_of_creation path language generated testProject hcall before behind
    rw [hid] at hleading htrailing
    cases call with
    | token kind text role =>
        refine ⟨before, kind, text, role, behind, rfl, hid, ?_, ?_⟩
        · rw [hinfo]
          exact hleading
        · rw [hinfo]
          exact htrailing
    | start kind role => exact absurd (congrArg Creation.text (Option.some.inj hcall)).symm htext
    | _ => cases hcall
  case others =>
    intro n hn htext
    have hinfo := info_of_mem_nodes h hn
    obtain ⟨before, call, behind, rfl, hid, hcall⟩ :=
      exists_call_of_creation (creation_of_mem hbuilt hn)
    obtain ⟨hleading, htrailing⟩ :=
      trivia_of_creation path language generated testProject hcall before behind
    rw [hid] at hleading htrailing
    cases call with
    | start kind role =>
        refine ⟨before, kind, role, behind, rfl, hid, ?_, ?_⟩
        · rw [hinfo]
          exact hleading
        · rw [hinfo]
          exact htrailing
    | token kind text role =>
        have hsome : some text = n.info.text := congrArg Creation.text (Option.some.inj hcall)
        rw [htext] at hsome
        cases hsome
    | _ => cases hcall
  case all =>
    intro hcalls
    have hattached : (u.nodes.flatMap fun n => n.info.leading ++ n.info.trailing) =
        ((new path language generated testProject).run calls).attached := by
      have hids : u.nodes.map Node.id =
          List.range ((new path language generated testProject).run calls).nextNode := by
        rw [hbuilt.ids, (drafts_run path language generated testProject calls).size]
        rfl
      rw [attached, ← hids, List.flatMap_map]
      exact List.flatMap_congr fun n hn => by rw [info_of_mem_nodes h hn]; rfl
    rw [hattached]
    exact perm_run path language generated testProject hcalls

/-- Of trivia before the first token, between two tokens, and behind the last one. -/
theorem finish_keepsTrivia_around :
    let t (text : String) : Trivia := ⟨.other, text⟩
    let calls : List Call :=
      [.trailing (t "a"), .start "Block" none, .leading (t "b"),
        .token "OpenBraceToken" "\x7b" none, .leading (t "c"), .trailing (t "d"),
        .start "Empty" none, .close, .leading (t "e"), .token "CloseBraceToken" "\x7d" none,
        .trailing (t "f"), .close, .leading (t "g")]
    waiting calls = [t "g"] ∧
      ∃ u, ((new "a.cs" .csharp false false).run calls).finish = .ok u ∧
        (u.nodes.map fun n => (n.info.leading, n.info.trailing)) =
          [([], []), ([t "a", t "b"], [t "d"]), ([], []), ([t "c", t "e"], [t "f"])] ∧
        u.KeepsTrivia calls :=
  ⟨rfl, _, rfl, rfl, finish_keepsTrivia rfl⟩

end Builder
end Source
end TreeLint
