import TreeLint.Syntax.Arena

/-!
# The nesting of nodes

A walk through a tree yields the nodes with the trees around them, so a node can be asked for what
is above it and for what is below it. The two agree: the nodes below a node stand right behind it in
the walk, and a node is below exactly those nodes that are above it.

**Results.**
* `Tree.descendants_isInfix_walk`: a node and what is below it form a block of the walk.
* `Tree.eq_or_mem_children_of_mem_walk`: all nodes but the first one are children of nodes.
* `Tree.mem_ancestors_iff`: the nodes above a node are those it is below of.
-/

namespace TreeLint
namespace Syntax

theorem mem_enclosing_iff {n : Node} {l : List Tree} :
    n ∈ enclosing l ↔ (n.tree :: n.above) <:+ l := by
  induction l with
  | nil => simp [enclosing]
  | cons t rest ih =>
      rw [enclosing, List.mem_cons, List.suffix_cons_iff, ih]
      cases n
      simp

namespace Node

theorem parent?_eq_of_mem_children {n p : Node} (h : n ∈ p.children) : n.parent? = some p := by
  obtain ⟨t, -, rfl⟩ := List.mem_map.mp h
  rfl

theorem mem_children_of_head?_childNodes {n p : Node} (h : p.childNodes.head? = some n) :
    n ∈ p.children :=
  List.filter_sublist.subset (List.mem_of_head? h)

theorem mem_children_of_getLast?_childNodes {n p : Node} (h : p.childNodes.getLast? = some n) :
    n ∈ p.children :=
  List.filter_sublist.subset (List.mem_of_getLast? h)

theorem descendants_eq (n : Node) :
    n.descendants = n :: Tree.walkAll (n.tree :: n.above) n.tree.children := by
  obtain ⟨⟨info, ts⟩, above⟩ := n
  rw [descendants, Tree.walk]
  rfl

/-- What is below a node is what is at and below its children. -/
theorem descendants_eq_cons_flatMap (n : Node) :
    n.descendants = n :: n.children.flatMap descendants := by
  rw [descendants_eq, children, List.flatMap_map]
  congr 1
  induction n.tree.children with
  | nil => rfl
  | cons t ts ih => rw [Tree.walkAll, List.flatMap_cons, ih, descendants]

theorem mem_descendants_self (n : Node) : n ∈ n.descendants := by
  rw [descendants_eq]
  exact List.mem_cons_self

end Node

namespace Tree

theorem walk_eq (above : List Tree) (t : Tree) :
    t.walk above = ⟨t, above⟩ :: walkAll (t :: above) t.children := by
  cases t
  rw [walk]
  rfl

mutual

@[simp] theorem length_walk (above : List Tree) (t : Tree) : (t.walk above).length = t.size := by
  cases t with
  | node info ts =>
      rw [walk, List.length_cons, length_walkAll, size, Nat.add_comm]

@[simp] theorem length_walkAll (above ts : List Tree) : (walkAll above ts).length = sizes ts := by
  cases ts with
  | nil => rfl
  | cons t ts => rw [walkAll, List.length_append, length_walk, length_walkAll, sizes]

end

/-! ## What is below -/

mutual

/-- A node and all that is below it stand one behind the other in a walk. -/
theorem descendants_isInfix_walk {above : List Tree} {t : Tree} {n : Node}
    (h : n ∈ t.walk above) : n.descendants <:+: t.walk above := by
  cases t with
  | node info ts =>
      rw [walk, List.mem_cons] at h
      rcases h with rfl | h
      · exact List.infix_refl _
      · rw [walk]
        exact (descendants_isInfix_walkAll h).trans (List.suffix_cons _ _).isInfix

theorem descendants_isInfix_walkAll {above ts : List Tree} {n : Node}
    (h : n ∈ walkAll above ts) : n.descendants <:+: walkAll above ts := by
  cases ts with
  | nil => simp [walkAll] at h
  | cons t ts =>
      rw [walkAll] at h ⊢
      rcases List.mem_append.mp h with h | h
      · exact (descendants_isInfix_walk h).trans (List.prefix_append _ _).isInfix
      · exact (descendants_isInfix_walkAll h).trans (List.suffix_append _ _).isInfix

end

theorem map_sublist_walkAll (above ts : List Tree) :
    (ts.map fun t => (⟨t, above⟩ : Node)).Sublist (walkAll above ts) := by
  induction ts with
  | nil => exact List.Sublist.refl _
  | cons t ts ih =>
      rw [walkAll, walk_eq, List.map_cons, List.cons_append]
      exact (ih.trans (List.sublist_append_right _ _)).cons_cons _

end Tree

namespace Node

/-- The children of a node are met behind it, in order. -/
theorem cons_children_sublist_descendants (n : Node) :
    (n :: n.children).Sublist n.descendants := by
  rw [descendants_eq]
  exact (Tree.map_sublist_walkAll _ _).cons_cons _

theorem mem_descendants_of_mem_children {n p : Node} (h : n ∈ p.children) :
    n ∈ p.descendants :=
  p.cons_children_sublist_descendants.subset (List.mem_cons_of_mem p h)

theorem mem_descendants_trans {n m a : Node} (h : n ∈ m.descendants) (k : m ∈ a.descendants) :
    n ∈ a.descendants :=
  (Tree.descendants_isInfix_walk k).subset h

end Node

namespace Tree

/-! ## What is above -/

theorem suffix_of_cons_suffix_cons {above l : List Tree} {s t : Tree}
    (h : (s :: above) <:+ (t :: l)) : above <:+ l := by
  rcases List.suffix_cons_iff.mp h with heq | h
  · cases heq
    exact List.suffix_refl _
  · exact (List.suffix_cons s above).trans h

mutual

/-- The trees around a tree are around all of its nodes. -/
theorem suffix_of_mem_walk {above : List Tree} {t : Tree} {n : Node} (h : n ∈ t.walk above) :
    (t :: above) <:+ (n.tree :: n.above) := by
  cases t with
  | node info ts =>
      rw [walk, List.mem_cons] at h
      rcases h with rfl | h
      · exact List.suffix_refl _
      · exact (suffix_of_mem_walkAll h).trans (List.suffix_cons _ _)

theorem suffix_of_mem_walkAll {above ts : List Tree} {n : Node} (h : n ∈ walkAll above ts) :
    above <:+ n.above := by
  cases ts with
  | nil => simp [walkAll] at h
  | cons t ts =>
      rw [walkAll] at h
      rcases List.mem_append.mp h with h | h
      · exact suffix_of_cons_suffix_cons (suffix_of_mem_walk h)
      · exact suffix_of_mem_walkAll h

end

mutual

/-- Every node of a walk but the first one is the child of a node of the walk. -/
theorem eq_or_mem_children_of_mem_walk {above : List Tree} {t : Tree} {n : Node}
    (h : n ∈ t.walk above) : n = ⟨t, above⟩ ∨ ∃ p ∈ t.walk above, n ∈ p.children := by
  cases t with
  | node info ts =>
      rw [walk, List.mem_cons] at h
      rcases h with rfl | h
      · exact Or.inl rfl
      · right
        rw [walk]
        rcases mem_or_mem_children_of_mem_walkAll h with h | ⟨p, hp, h⟩
        · exact ⟨_, List.mem_cons_self, h⟩
        · exact ⟨p, List.mem_cons_of_mem _ hp, h⟩

theorem mem_or_mem_children_of_mem_walkAll {above ts : List Tree} {n : Node}
    (h : n ∈ walkAll above ts) :
    n ∈ ts.map (fun t => (⟨t, above⟩ : Node)) ∨ ∃ p ∈ walkAll above ts, n ∈ p.children := by
  cases ts with
  | nil => simp [walkAll] at h
  | cons t ts =>
      rw [walkAll] at h
      rcases List.mem_append.mp h with h | h
      · rcases eq_or_mem_children_of_mem_walk h with rfl | ⟨p, hp, h⟩
        · exact Or.inl List.mem_cons_self
        · exact Or.inr ⟨p, List.mem_append_left _ hp, h⟩
      · rcases mem_or_mem_children_of_mem_walkAll h with h | ⟨p, hp, h⟩
        · exact Or.inl (List.mem_cons_of_mem _ h)
        · exact Or.inr ⟨p, List.mem_append_right _ hp, h⟩

end

theorem mem_walk_of_mem_children {t : Tree} {above : List Tree} {n p : Node}
    (hp : p ∈ t.walk above) (h : n ∈ p.children) : n ∈ t.walk above :=
  (descendants_isInfix_walk hp).subset (Node.mem_descendants_of_mem_children h)

theorem mem_children_of_parent? {t : Tree} {n p : Node} (hn : n ∈ t.walk [])
    (h : n.parent? = some p) : p ∈ t.walk [] ∧ n ∈ p.children := by
  rcases eq_or_mem_children_of_mem_walk hn with rfl | ⟨q, hq, hchild⟩
  · cases h
  · rw [Node.parent?_eq_of_mem_children hchild] at h
    cases h
    exact ⟨hq, hchild⟩

/-- What is above a node in a tree is a node of the tree, and holds the node. -/
theorem mem_walk_of_mem_ancestors {t : Tree} {a : Node} :
    ∀ {above : List Tree} {s : Tree}, (⟨s, above⟩ : Node) ∈ t.walk [] →
      a ∈ enclosing above → a ∈ t.walk [] ∧ (⟨s, above⟩ : Node) ∈ a.descendants := by
  intro above
  induction above with
  | nil =>
      intro s _ ha
      simp [enclosing] at ha
  | cons p rest ih =>
      intro s h ha
      have hparent : Node.parent? ⟨s, p :: rest⟩ = some ⟨p, rest⟩ := rfl
      obtain ⟨hp, hchild⟩ := mem_children_of_parent? h hparent
      have hbelow := Node.mem_descendants_of_mem_children hchild
      rw [enclosing, List.mem_cons] at ha
      rcases ha with rfl | ha
      · exact ⟨hp, hbelow⟩
      · obtain ⟨hmem, habove⟩ := ih hp ha
        exact ⟨hmem, Node.mem_descendants_trans hbelow habove⟩

/-- A node is above all nodes at and below its children. -/
theorem mem_ancestors_of_mem_children {m c d : Node} (hc : c ∈ m.children)
    (hd : d ∈ c.descendants) : m ∈ d.ancestors := by
  obtain ⟨t, -, rfl⟩ := List.mem_map.mp hc
  exact mem_enclosing_iff.mpr (suffix_of_cons_suffix_cons (suffix_of_mem_walk hd))

/-- In a tree one node is above another if and only if the other is below it. -/
theorem mem_ancestors_iff {t : Tree} {a d : Node} (hd : d ∈ t.walk []) :
    a ∈ d.ancestors ↔ d ∈ a.descendants ∧ d ≠ a := by
  rw [Node.ancestors]
  constructor
  · intro ha
    refine ⟨(mem_walk_of_mem_ancestors hd ha).2, ?_⟩
    rintro rfl
    have hlength := (mem_enclosing_iff.mp ha).length_le
    rw [List.length_cons] at hlength
    omega
  · rintro ⟨hbelow, hne⟩
    rw [mem_enclosing_iff]
    rcases List.suffix_cons_iff.mp (suffix_of_mem_walk hbelow) with heq | h
    · exfalso
      apply hne
      obtain ⟨ta, aa⟩ := a
      obtain ⟨td, ad⟩ := d
      cases heq
      rfl
    · exact h

end Tree
end Syntax
end TreeLint
