import TreeLint.Proofs.Source.Outcome

/-!
# The table that calls make

A table grows by one row with each node that a call makes, and only an open node gets a child. A
token is never open, so nothing comes below it.

**Results.**
* `Draft.length_perform`: how a table grows.
* `Draft.leafy_draftOf`: nodes with a text have no children.
-/

namespace TreeLint
namespace Source

open Syntax

namespace Draft

@[simp] theorem length_adopt (d : Draft) (child : NodeId) :
    (d.adopt child).length = d.slots.length := by
  unfold adopt
  split
  · rfl
  · exact List.length_modify ..

@[simp] theorem length_perform (d : Draft) (call : Call) :
    (d.perform call).slots.length = d.slots.length + call.creation?.toList.length := by
  cases call <;> simp [perform, add, length_adopt, Call.creation?]

theorem perform_eq_self (d : Draft) {call : Call} (h : call.isStructural = false) :
    d.perform call = d := by
  cases call <;> simp_all [Call.isStructural, perform]

/-- In a table that calls make, nodes with a text are neither open nor have children. -/
structure Leafy (calls : List Call) (d : Draft) : Prop where
  size : d.slots.length = (creations calls).length
  opened : ∀ p ∈ d.opened, ∃ node, (creations calls)[p]? = some node ∧ node.text = none
  leaves : ∀ (id : NodeId) (slot : Slot), d.slots[id]? = some slot →
    ∀ node, (creations calls)[id]? = some node → node.text ≠ none → slot.children = []

namespace Leafy

variable {calls : List Call} {d : Draft}

theorem lt_of_mem_opened (h : Leafy calls d) {p : NodeId} (hp : p ∈ d.opened) :
    p < (creations calls).length := by
  obtain ⟨node, hnode, -⟩ := h.opened p hp
  exact (List.getElem?_eq_some_iff.mp hnode).1

/-- Only an open node gets a child. -/
theorem adopt (h : Leafy calls d) (child id : NodeId) (slot : Slot)
    (hslot : (d.adopt child)[id]? = some slot) (node : Creation)
    (hnode : (creations calls)[id]? = some node) (htext : node.text ≠ none) :
    slot.children = [] := by
  unfold Draft.adopt at hslot
  split at hslot
  · exact h.leaves id slot hslot node hnode htext
  · rename_i p outer hopened
    by_cases hid : p = id
    · subst hid
      obtain ⟨other, hother, hnone⟩ := h.opened p (by rw [hopened]; exact List.mem_cons_self)
      rw [hother] at hnode
      cases hnode
      exact absurd hnone htext
    · rw [List.getElem?_modify_ne _ _ hid] at hslot
      exact h.leaves id slot hslot node hnode htext

theorem add (h : Leafy calls d) {call : Call} {made : Creation}
    (hcall : call.creation? = some made) : Leafy (calls ++ [call]) d.add := by
  have hcreations : creations (calls ++ [call]) = creations calls ++ [made] := by
    simp [hcall]
  have hsize : (d.adopt d.slots.length).length = (creations calls).length :=
    (d.length_adopt _).trans h.size
  constructor
  case size =>
    simp [hcreations, Draft.add, hsize]
  case opened =>
    intro p hp
    rw [hcreations, List.getElem?_append_left (h.lt_of_mem_opened hp)]
    exact h.opened p hp
  case leaves =>
    intro id slot hslot node hnode htext
    rw [hcreations] at hnode
    rw [Draft.add] at hslot
    rcases Nat.lt_or_ge id (creations calls).length with hlt | hge
    · rw [List.getElem?_append_left hlt] at hnode
      rw [List.getElem?_append_left (by omega)] at hslot
      exact h.adopt _ id slot hslot node hnode htext
    · rw [List.getElem?_append_right (by omega)] at hslot
      have hmem := List.mem_of_getElem? hslot
      rw [List.mem_singleton] at hmem
      rw [hmem]

theorem add_nothing (h : Leafy calls d) {call : Call} (hcall : call.creation? = none)
    {opened : List NodeId} (hopened : ∀ p ∈ opened, p ∈ d.opened) :
    Leafy (calls ++ [call]) { d with opened := opened } := by
  have hcreations : creations (calls ++ [call]) = creations calls := by
    rw [creations_concat, hcall]
    exact List.append_nil _
  constructor
  case size => rw [hcreations, h.size]
  case opened =>
    intro p hp
    rw [hcreations]
    exact h.opened p (hopened p hp)
  case leaves =>
    rw [hcreations]
    exact h.leaves

theorem perform (h : Leafy calls d) (call : Call) : Leafy (calls ++ [call]) (d.perform call) := by
  cases call.effect with
  | start kind role =>
      have hadd : Leafy (calls ++ [.start kind role]) d.add := h.add rfl
      refine ⟨hadd.size, ?_, hadd.leaves⟩
      intro p hp
      rcases List.mem_cons.mp hp with rfl | hp
      · rw [creations_concat, h.size, List.getElem?_append_right (by omega), Nat.sub_self]
        exact ⟨_, rfl, rfl⟩
      · exact hadd.opened p hp
  | token kind text role => exact h.add rfl
  | close => exact h.add_nothing rfl fun _ hp => List.mem_of_mem_tail hp
  | other hcall =>
      rw [d.perform_eq_self hcall]
      exact h.add_nothing (Call.creation?_eq_none hcall) fun _ hp => hp

end Leafy

theorem leafy_draftOf (calls : List Call) : Leafy calls (draftOf calls) := by
  induction calls using List.reverseRecOn with
  | nil => exact ⟨rfl, by simp [draftOf, Draft.empty], by simp [draftOf, Draft.empty]⟩
  | append_singleton calls call ih =>
      simpa [draftOf] using ih.perform call

end Draft
end Source
end TreeLint
