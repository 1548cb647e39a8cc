import TreeLint.Grammar.Assignment
import TreeLint.Proofs.Syntax.Nesting

/-!
# The targets of an assignment

The expressions that an assignment changes are found by taking its left side apart. They are nodes
at or below the left side, and they are found in the order of the walk, each of them once.

**Results.**
* `targetsIn_sublist_walk`: the targets in a tree are a part of the walk through it.
* `targets_sublist_descendants`: the targets of an assignment are at or below its left side.
-/

namespace TreeLint
namespace Grammar

open Syntax

variable (g : Grammar)

mutual

/-- The targets in a tree stand in the order of the walk. -/
theorem targetsIn_sublist_walk (above : List Tree) (t : Tree) :
    (targetsIn g above t).Sublist (t.walk above) := by
  cases t with
  | node info ts =>
      rw [targetsIn, Tree.walk]
      split
      · cases hfirst : targetsOfFirst? g (.node info ts :: above) ts with
        | none => exact (List.nil_sublist _).cons_cons _
        | some found => exact (targetsOfFirst?_sublist_walkAll hfirst).cons _
      · split
        · exact (targetsOfArguments_sublist_walkAll (.node info ts :: above) ts).cons _
        · split
          · exact List.filter_sublist
          · exact (List.nil_sublist _).cons_cons _

theorem targetsOfFirst?_sublist_walkAll {above ts : List Tree} {found : List Node}
    (h : targetsOfFirst? g above ts = some found) : found.Sublist (Tree.walkAll above ts) := by
  cases ts with
  | nil =>
      rw [targetsOfFirst?] at h
      cases h
  | cons t ts =>
      rw [targetsOfFirst?] at h
      rw [Tree.walkAll]
      split at h
      · exact (targetsOfFirst?_sublist_walkAll h).trans (List.sublist_append_right _ _)
      · cases h
        exact (targetsIn_sublist_walk above t).trans (List.sublist_append_left _ _)

theorem targetsOfArguments_sublist_walkAll (above ts : List Tree) :
    (targetsOfArguments g above ts).Sublist (Tree.walkAll above ts) := by
  cases ts with
  | nil =>
      rw [targetsOfArguments]
      exact List.nil_sublist _
  | cons t ts =>
      rw [targetsOfArguments, Tree.walkAll]
      refine List.Sublist.append ?_ (targetsOfArguments_sublist_walkAll above ts)
      split
      · exact targetsOfArgument_sublist_walk above t
      · exact List.nil_sublist _

theorem targetsOfArgument_sublist_walk (above : List Tree) (t : Tree) :
    (targetsOfArgument g above t).Sublist (t.walk above) := by
  cases t with
  | node info ts =>
      rw [targetsOfArgument, Tree.walk]
      cases hrole : targetsInRole? g (.node info ts :: above) ts with
      | some found => exact (targetsInRole?_sublist_walkAll hrole).cons _
      | none =>
          cases hlast : targetsOfLast? g (.node info ts :: above) ts with
          | some found => exact (targetsOfLast?_sublist_walkAll hlast).cons _
          | none => exact List.nil_sublist _

theorem targetsInRole?_sublist_walkAll {above ts : List Tree} {found : List Node}
    (h : targetsInRole? g above ts = some found) : found.Sublist (Tree.walkAll above ts) := by
  cases ts with
  | nil =>
      rw [targetsInRole?] at h
      cases h
  | cons t ts =>
      rw [targetsInRole?] at h
      rw [Tree.walkAll]
      split at h
      · cases h
        exact (targetsIn_sublist_walk above t).trans (List.sublist_append_left _ _)
      · exact (targetsInRole?_sublist_walkAll h).trans (List.sublist_append_right _ _)

theorem targetsOfLast?_sublist_walkAll {above ts : List Tree} {found : List Node}
    (h : targetsOfLast? g above ts = some found) : found.Sublist (Tree.walkAll above ts) := by
  cases ts with
  | nil =>
      rw [targetsOfLast?] at h
      cases h
  | cons t ts =>
      rw [targetsOfLast?] at h
      rw [Tree.walkAll]
      cases hlater : targetsOfLast? g above ts with
      | some later =>
          rw [hlater] at h
          cases h
          exact (targetsOfLast?_sublist_walkAll hlater).trans (List.sublist_append_right _ _)
      | none =>
          rw [hlater] at h
          dsimp only at h
          split at h
          · cases h
          · cases h
            exact (targetsIn_sublist_walk above t).trans (List.sublist_append_left _ _)

end

/-- The left side of an assignment is one of its children. -/
theorem mem_children_of_left? {n left : Node} (h : g.left? n = some left) : left ∈ n.children := by
  unfold left? at h
  split at h
  · rcases Option.or_eq_some_iff.mp h with hrole | ⟨-, hhead⟩
    · exact List.mem_of_find?_eq_some hrole
    · exact Node.mem_children_of_head?_childNodes hhead
  · cases h

theorem mem_children_of_right? {g : Grammar} {n right : Node} (h : g.right? n = some right) :
    right ∈ n.children := by
  unfold right? at h
  split at h
  · rcases Option.or_eq_some_iff.mp h with hrole | ⟨-, hlast⟩
    · exact List.mem_of_find?_eq_some hrole
    · exact List.filter_sublist.subset ((List.tail_sublist _).subset (List.mem_of_getLast? hlast))
  · cases h

theorem mem_children_of_argumentExpression? {a e : Node} (h : argumentExpression? a = some e) :
    e ∈ a.children := by
  rcases Option.or_eq_some_iff.mp h with hrole | ⟨-, hlast⟩
  · exact List.mem_of_find?_eq_some hrole
  · exact Node.mem_children_of_getLast?_childNodes hlast

/-- Only assignments have sides. -/
theorem isAny_assignment_of_left? {n left : Node} (h : g.left? n = some left) :
    n.isAny g.assignment = true := by
  unfold left? at h
  split at h
  · assumption
  · cases h

theorem isAny_assignment_of_right? {g : Grammar} {n right : Node} (h : g.right? n = some right) :
    n.isAny g.assignment = true := by
  unfold right? at h
  split at h
  · assumption
  · cases h

/-- The targets of an assignment stand in the order of the walk at and below its left side. -/
theorem targets_sublist_of_left? {n left : Node} (h : g.left? n = some left) :
    (g.targets n).Sublist left.descendants := by
  rw [targets, h]
  exact targetsIn_sublist_walk g left.above left.tree

theorem targets_sublist_descendants (n : Node) : (g.targets n).Sublist n.descendants := by
  cases h : g.left? n with
  | none =>
      rw [targets, h]
      exact List.nil_sublist _
  | some left =>
      have hbelow : left ∈ n.descendants :=
        Node.mem_descendants_of_mem_children (g.mem_children_of_left? h)
      exact (g.targets_sublist_of_left? h).trans (Tree.descendants_isInfix_walk hbelow).sublist

end Grammar
end TreeLint
