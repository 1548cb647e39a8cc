import TreeLint.Proofs.Source.Building
import TreeLint.Source.Call

/-!
# Single calls to a builder

A call makes a node, closes one, or leaves the nesting of nodes alone. What it does to a builder can
be said by what was open before, whatever else the builder has recorded.

**Results.**
* `Call.effect`: the kinds of calls.
* `Builder.opened_perform`, `Builder.isVoid_perform`: what a call does to the nesting.
* `Builder.fault_perform`: which mistake is noted.
* `Builder.made_perform`: which node is made.
-/

namespace TreeLint
namespace Source

open Symbols Syntax

namespace Call

/-- What a call may be. -/
inductive Effect : Call → Prop
  | start (kind : String) (role : Option String) : Effect (.start kind role)
  | token (kind text : String) (role : Option String) : Effect (.token kind text role)
  | close : Effect .close
  | other {call : Call} (h : call.isStructural = false) : Effect call

theorem effect (call : Call) : call.Effect := by
  cases call with
  | start kind role => exact .start kind role
  | token kind text role => exact .token kind text role
  | close => exact .close
  | _ => exact .other rfl

theorem creation?_eq_none {call : Call} (h : call.isStructural = false) :
    call.creation? = none := by
  cases call <;> simp_all [isStructural, creation?]

theorem openAfter_eq_self {call : Call} (h : call.isStructural = false) (n : Nat) :
    call.openAfter n = n := by
  cases call <;> simp_all [isStructural, openAfter]

end Call

/-- What is recorded of a node as it was made. -/
def Entry.creation (e : Entry) : Creation :=
  ⟨e.kind, e.role, e.text⟩

namespace Builder

variable {b c : Builder}

/-- The nodes made so far, as they were made. -/
def made (b : Builder) : List Creation :=
  b.entries.toList.map Entry.creation

/-- Two builders have the same nesting of the same nodes, and the same mistake. -/
structure SameShape (b c : Builder) : Prop where
  opened : c.opened = b.opened
  roots : c.roots = b.roots
  fault : c.fault = b.fault
  made : c.made = b.made

theorem sameShape_modify (b : Builder) (id : NodeId) (change : Entry → Entry)
    (h : ∀ e, (change e).creation = e.creation) :
    SameShape b { b with entries := b.entries.modify id change } where
  opened := rfl
  roots := rfl
  fault := rfl
  made := by
    show (b.entries.modify id change).toList.map Entry.creation =
      b.entries.toList.map Entry.creation
    apply List.ext_getElem?
    intro i
    rw [Array.toList_modify, List.getElem?_map, List.getElem?_map, List.getElem?_modify]
    cases b.entries.toList[i]? with
    | none => rfl
    | some e =>
        by_cases hi : id = i
        · simp [hi, h]
        · simp [hi]

/-- Trivia, lines, symbols, facts and spans do not touch the nesting of nodes. -/
theorem sameShape_perform (b : Builder) {call : Call} (h : call.isStructural = false) :
    SameShape b (b.perform call) := by
  cases call with
  | start kind role => simp [Call.isStructural] at h
  | token kind text role => simp [Call.isStructural] at h
  | close => simp [Call.isStructural] at h
  | trailing t =>
      cases hlast : b.lastToken with
      | none =>
          simp only [perform, trailing, hlast]
          exact ⟨rfl, rfl, rfl, rfl⟩
      | some token =>
          simp only [perform, trailing, hlast]
          have h := sameShape_modify (b.advance t.text) token
            (fun e => { e with trailing := e.trailing ++ [t] }) fun _ => rfl
          exact ⟨h.opened, h.roots, h.fault, h.made⟩
  | setSpan node span => exact sameShape_modify b node _ fun _ => rfl
  | addLeading node t => exact sameShape_modify b node _ fun _ => rfl
  | addTrailing node t => exact sameShape_modify b node _ fun _ => rfl
  | _ => exact ⟨rfl, rfl, rfl, rfl⟩

/-- There is no node yet. -/
def IsVoid (b : Builder) : Prop :=
  b.opened = [] ∧ b.roots = []

/-- The mistake that a call is, if it is one. -/
def flaw? (b : Builder) : Call → Option ShapeError
  | .close => if b.opened.isEmpty then some .closedWithoutOpen else none
  | call =>
    if b.opened.isEmpty && !b.roots.isEmpty then
      call.creation?.map fun node => .secondRoot node.kind
    else none

theorem flaw?_eq_none {call : Call} (h : call.isStructural = false) (b : Builder) :
    b.flaw? call = none := by
  cases call <;> simp_all [Call.isStructural, flaw?, Call.creation?]

/-! ## Making and closing nodes -/

theorem admit?_eq (b : Builder) (kind : String) :
    b.admit? kind = { b with fault := (b.admit? kind).fault } := by
  unfold admit?
  split <;> rfl

theorem fault_admit? (b : Builder) (kind : String) (role text : Option String) :
    (b.admit? kind).fault =
      b.fault.or
        (if b.opened.isEmpty && !b.roots.isEmpty then
          (some (⟨kind, role, text⟩ : Creation)).map fun node => .secondRoot node.kind
        else none) := by
  unfold admit?
  split <;> simp [mistake]

@[simp] theorem opened_start (b : Builder) (kind : String) (role : Option String) :
    (b.start kind role).opened = ⟨b.nextNode, []⟩ :: b.opened := by
  rw [start, admit?_eq]

@[simp] theorem roots_start (b : Builder) (kind : String) (role : Option String) :
    (b.start kind role).roots = b.roots := by
  rw [start, admit?_eq]

@[simp] theorem made_start (b : Builder) (kind : String) (role : Option String) :
    (b.start kind role).made = b.made ++ [⟨kind, role, none⟩] := by
  rw [start, admit?_eq]
  simp [made, Entry.creation]

/-- A token is handed over like any complete node. -/
theorem place_token (b : Builder) (kind text : String) (role : Option String) :
    (b.token kind text role).opened = (b.attach (.node b.nextNode [])).opened ∧
      (b.token kind text role).roots = (b.attach (.node b.nextNode [])).roots := by
  rw [token, admit?_eq]
  apply attach_congr
  · rfl
  · rfl

@[simp] theorem made_token (b : Builder) (kind text : String) (role : Option String) :
    (b.token kind text role).made = b.made ++ [⟨kind, role, some text⟩] := by
  rw [token, admit?_eq, attach_eq]
  simp [made, Entry.creation]

theorem close_of_nil (h : b.opened = []) : b.close = b.mistake .closedWithoutOpen := by
  rw [close, h]

/-- A node that is closed is handed over with the children it has. -/
theorem place_close {n : OpenNode} {rest : List OpenNode} (h : b.opened = n :: rest) :
    b.close.opened = (attach { b with opened := rest } (.node n.id n.children.reverse)).opened ∧
      b.close.roots = (attach { b with opened := rest } (.node n.id n.children.reverse)).roots :=
  ⟨(closes_close h).opened, (closes_close h).roots⟩

theorem fault_close_of_cons {n : OpenNode} {rest : List OpenNode} (h : b.opened = n :: rest) :
    b.close.fault = b.fault :=
  (closes_close h).fault

@[simp] theorem made_close (b : Builder) : b.close.made = b.made := by
  cases h : b.opened with
  | nil =>
      rw [close_of_nil h]
      rfl
  | cons n rest =>
      rw [close, h]
      dsimp only
      rw [attach_eq]
      refine (sameShape_modify b n.id _ ?_).made
      intro e
      split <;> rfl

@[simp] theorem length_opened_attach (b : Builder) (o : Outline) :
    (b.attach o).opened.length = b.opened.length := by
  cases h : b.opened with
  | nil => rw [attach_of_nil h, h]
  | cons p rest => rw [attach_of_cons h]; rfl

theorem not_isVoid_attach (b : Builder) (o : Outline) :
    ¬((b.attach o).opened = [] ∧ (b.attach o).roots = []) := by
  cases h : b.opened with
  | nil => simp [attach_of_nil h]
  | cons p rest => simp [attach_of_cons h]

/-! ## Cursor and entries -/

@[simp] theorem cursor_start (b : Builder) (kind : String) (role : Option String) :
    (b.start kind role).cursor = b.cursor := by
  rw [start, admit?_eq]

theorem entries_start (b : Builder) (kind : String) (role : Option String) :
    (b.start kind role).entries =
      b.entries.push ⟨kind, role, none, Span.point ⟨0, 0⟩, false, [], []⟩ := by
  rw [start, admit?_eq]

@[simp] theorem cursor_token (b : Builder) (kind text : String) (role : Option String) :
    (b.token kind text role).cursor = afterToken (b.cursor.after text.toList) := by
  rw [token, admit?_eq, attach_eq]

/-- A token spans its text and takes the trivia that waits. -/
theorem entries_token (b : Builder) (kind text : String) (role : Option String) :
    (b.token kind text role).entries =
      b.entries.push ⟨kind, role, some text, ⟨b.cursor, b.cursor.after text.toList⟩, false,
        b.pending, []⟩ := by
  rw [token, admit?_eq, attach_eq]

@[simp] theorem cursor_close (b : Builder) : b.close.cursor = b.cursor := by
  rw [close]
  split
  · rfl
  · rw [attach_eq]

/-- A node that is closed gets a span unless it was given one. -/
theorem entries_close {n : OpenNode} {rest : List OpenNode} (h : b.opened = n :: rest) :
    b.close.entries = b.entries.modify n.id fun e =>
      if e.spanGiven then e else { e with span := b.closingSpan n.children.reverse } := by
  rw [close, h]
  dsimp only
  rw [attach_eq]

/-- What is recorded under a number besides facts. -/
def entryAt (b : Builder) (id : NodeId) : Entry :=
  b.entries[id]?.getD blankEntry

theorem entryAt_of_le {i : NodeId} (h : b.nextNode ≤ i) : b.entryAt i = blankEntry := by
  rw [entryAt, Array.getElem?_eq_none h]
  rfl

theorem entryAt_of_push {e : Entry} (h : c.entries = b.entries.push e) (i : NodeId) :
    c.entryAt i = if i = b.nextNode then e else b.entryAt i := by
  rw [entryAt, h, Array.getElem?_push, nextNode]
  by_cases hi : i = b.entries.size
  · simp [hi]
  · rw [if_neg hi, if_neg hi, entryAt]

theorem entryAt_of_modify {id : NodeId} {change : Entry → Entry}
    (h : c.entries = b.entries.modify id change) (i : NodeId) :
    c.entryAt i = if i = id ∧ id < b.nextNode then change (b.entryAt i) else b.entryAt i := by
  rw [entryAt, entryAt, h, Array.getElem?_modify]
  by_cases hi : i = id
  · subst hi
    by_cases hlt : i < b.nextNode
    · rw [if_pos rfl, if_pos ⟨rfl, hlt⟩, Array.getElem?_eq_getElem hlt]
      rfl
    · rw [if_pos rfl, if_neg fun h => hlt h.2, Array.getElem?_eq_none (Nat.le_of_not_lt hlt)]
      rfl
  · rw [if_neg (Ne.symm hi), if_neg fun h => hi h.1]

theorem entryAt_modify (b : Builder) (id : NodeId) (change : Entry → Entry) (i : NodeId) :
    ({ b with entries := b.entries.modify id change } : Builder).entryAt i =
      if i = id ∧ id < b.nextNode then change (b.entryAt i) else b.entryAt i :=
  entryAt_of_modify rfl i

/-- What is recorded of a node that is there. -/
theorem info_of_lt {id : Nat} (h : id < b.entries.size) :
    b.info id = b.infoOf id b.entries[id] := by
  rw [info, Array.getElem?_eq_getElem h]
  rfl

theorem spansOf_eq_map {os : List Outline} (h : ∀ o ∈ os, o.id < b.entries.size) :
    b.spansOf os = os.map fun o => (b.info o.id).span := by
  rw [spansOf, ← List.filterMap_eq_map]
  apply List.filterMap_congr
  intro o ho
  have hid : (show Nat from o.id) < b.entries.size := h o ho
  rw [Function.comp_apply, info_of_lt hid, Array.getElem?_eq_getElem hid]
  rfl

/-- The span of a node that is closed covers those of its children. -/
theorem closingSpan_eq {os : List Outline} (h : ∀ o ∈ os, o.id < b.entries.size) :
    b.closingSpan os =
      (Span.coverAll? (os.map fun o => (b.info o.id).span)).getD (Span.point b.cursor) := by
  rw [closingSpan, spansOf_eq_map h]

theorem map_span_treesOf (b : Builder) (os : List Outline) :
    (b.treesOf os).map (fun t => t.info.span) = os.map fun o => (b.info o.id).span := by
  induction os with
  | nil =>
      rw [treesOf]
      rfl
  | cons o os ih =>
      cases o with
      | node id below =>
          rw [treesOf, List.map_cons, List.map_cons, ih, treeOf_node]
          rfl

/-! ## What calls do to the nesting -/

@[simp] theorem opened_perform (b : Builder) (call : Call) :
    (b.perform call).opened.length = call.openAfter b.opened.length := by
  cases call.effect with
  | start kind role =>
      rw [perform, opened_start]
      rfl
  | token kind text role =>
      rw [perform, (place_token b kind text role).1, length_opened_attach]
      rfl
  | close =>
      cases hopened : b.opened with
      | nil =>
          rw [perform, close_of_nil hopened]
          simp [mistake, hopened, Call.openAfter]
      | cons n rest =>
          rw [perform, (place_close hopened).1, length_opened_attach]
          rfl
  | other h => rw [(sameShape_perform b h).opened, Call.openAfter_eq_self h]

theorem isVoid_perform (b : Builder) (call : Call) :
    (b.perform call).IsVoid ↔ b.IsVoid ∧ call.creation? = none := by
  cases call.effect with
  | start kind role =>
      simp [IsVoid, perform, opened_start, Call.creation?]
  | token kind text role =>
      obtain ⟨hopened, hroots⟩ := place_token b kind text role
      rw [IsVoid, perform, hopened, hroots]
      simp [not_isVoid_attach, Call.creation?]
  | close =>
      cases hopened : b.opened with
      | nil =>
          rw [perform, close_of_nil hopened]
          simp [IsVoid, mistake, Call.creation?]
      | cons n rest =>
          rw [IsVoid, perform, (place_close hopened).1, (place_close hopened).2]
          simp [not_isVoid_attach, IsVoid, hopened]
  | other h =>
      have hshape := sameShape_perform b h
      rw [IsVoid, hshape.opened, hshape.roots, Call.creation?_eq_none h]
      simp [IsVoid]

/-- A call that is a mistake is noted unless there was one before. -/
theorem fault_perform (b : Builder) (call : Call) :
    (b.perform call).fault = b.fault.or (b.flaw? call) := by
  cases call.effect with
  | start kind role =>
      rw [perform, start]
      exact fault_admit? b kind role none
  | token kind text role =>
      rw [perform, token, attach_eq]
      exact fault_admit? b kind role (some text)
  | close =>
      cases hopened : b.opened with
      | nil =>
          rw [perform, close_of_nil hopened]
          simp [mistake, flaw?, hopened]
      | cons n rest =>
          rw [perform, fault_close_of_cons hopened]
          simp [flaw?, hopened]
  | other h => rw [(sameShape_perform b h).fault, flaw?_eq_none h, Option.or_none]

@[simp] theorem made_perform (b : Builder) (call : Call) :
    (b.perform call).made = b.made ++ call.creation?.toList := by
  cases call.effect with
  | start kind role => exact made_start b kind role
  | token kind text role => exact made_token b kind text role
  | close =>
      rw [perform, made_close]
      simp [Call.creation?]
  | other h =>
      rw [(sameShape_perform b h).made, Call.creation?_eq_none h]
      simp

end Builder
end Source
end TreeLint
