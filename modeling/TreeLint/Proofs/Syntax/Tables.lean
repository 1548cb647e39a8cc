import TreeLint.Proofs.Syntax.Nesting

/-!
# The table of a numbered tree

If the numbers of a tree are the places of its nodes in pre-order, its table says the same as its
nodes. Then parents have lower numbers than their children, the numbers below a node form a run that
starts with its own, and a walk through the table with a stack meets them in the order in which the
recursive walk does.

**Results.**
* `Tree.Numbered.ids_descendants`, `Tree.Numbered.descendants_eq_filter`: what is at and below a
  node.
* `Tree.Numbered.isTree_arena`: the table is that of a tree.
* `Tree.Numbered.walks_iff`: what the walk with a stack meets.
* `Tree.Numbered.climbs_iff`: what is met on the way up.
-/

namespace TreeLint
namespace Syntax

namespace Arena

variable {a : Arena}

/-- A walk meets the same numbers every time. -/
theorem Walks.unique {stack ids others : List NodeId} (h : a.Walks stack ids)
    (k : a.Walks stack others) : ids = others := by
  induction h generalizing others with
  | ends hvisit =>
      cases k with
      | ends => rfl
      | meets hother => simp [hvisit] at hother
  | meets hvisit hrest ih =>
      cases k with
      | ends hother => simp [hvisit] at hother
      | meets hother hothers =>
          obtain ⟨rfl, rfl⟩ : _ ∧ _ := by simpa [hvisit] using hother
          rw [ih hothers]

theorem Climbs.unique {id : NodeId} {ids others : List NodeId} (h : a.Climbs id ids)
    (k : a.Climbs id others) : ids = others := by
  induction h generalizing others with
  | ends hparent =>
      cases k with
      | ends => rfl
      | meets hother => simp [hparent] at hother
  | meets hparent hrest ih =>
      cases k with
      | ends hother => simp [hparent] at hother
      | meets hother hothers =>
          obtain rfl : _ = _ := by simpa [hparent] using hother
          rw [ih hothers]

end Arena

namespace Tree

@[simp] theorem size_arena (t : Tree) : t.arena.size = t.size := by
  simp [arena, Arena.size]

theorem slots_eq_none {t : Tree} {id : NodeId} (h : t.size ≤ id) : t.arena.slots[id]? = none := by
  rw [List.getElem?_eq_none_iff]
  exact Nat.le_trans (Nat.le_of_eq t.size_arena) h

theorem size_pos (t : Tree) : 0 < t.size := by
  rw [← length_walk [] t, walk_eq]
  exact Nat.succ_pos _

mutual

/-- A walk with a stack goes through a tree like the recursive walk, and then on to what waits. -/
theorem walks_walk {a : Arena} {above : List Tree} {t : Tree} {stack ids : List NodeId}
    (h : ∀ n ∈ t.walk above, a.children n.id = n.children.map Node.id)
    (hrest : a.Walks stack ids) :
    a.Walks (t.info.id :: stack) ((t.walk above).map Node.id ++ ids) := by
  cases t with
  | node info ts =>
      rw [walk] at h ⊢
      have hchildren : a.children info.id = ts.map fun t => t.info.id := by
        rw [show info.id = Node.id ⟨.node info ts, above⟩ from rfl, h _ List.mem_cons_self,
          Node.children, List.map_map]
        rfl
      have hvisit : a.visit? (info.id :: stack) = some (info.id, a.children info.id ++ stack) := rfl
      refine .meets hvisit ?_
      rw [hchildren]
      exact walks_walkAll (fun n hn => h n (List.mem_cons_of_mem _ hn)) hrest

theorem walks_walkAll {a : Arena} {above ts : List Tree} {stack ids : List NodeId}
    (h : ∀ n ∈ walkAll above ts, a.children n.id = n.children.map Node.id)
    (hrest : a.Walks stack ids) :
    a.Walks ((ts.map fun t => t.info.id) ++ stack) ((walkAll above ts).map Node.id ++ ids) := by
  cases ts with
  | nil => exact hrest
  | cons t ts =>
      rw [walkAll] at h ⊢
      simpa using walks_walk (fun n hn => h n (List.mem_append_left _ hn))
        (walks_walkAll (fun n hn => h n (List.mem_append_right _ hn)) hrest)

end

namespace Numbered

variable {t : Tree} (ht : t.Numbered)
include ht

theorem getElem?_id {n : Node} (hn : n ∈ t.walk []) : (t.walk [])[n.id]? = some n := by
  obtain ⟨i, hi⟩ := List.getElem?_of_mem hn
  have hid : (List.range t.size)[i]? = some n.id := by
    rw [← ht, List.getElem?_map, hi]
    rfl
  obtain ⟨hlt, hget⟩ := List.getElem?_eq_some_iff.mp hid
  rw [List.getElem_range] at hget
  rw [← hget]
  exact hi

theorem id_lt {n : Node} (hn : n ∈ t.walk []) : n.id < t.size := by
  have h := (List.getElem?_eq_some_iff.mp (ht.getElem?_id hn)).1
  rwa [length_walk] at h

theorem exists_id_eq {id : NodeId} (h : id < t.size) : ∃ n ∈ t.walk [], n.id = id := by
  have hid : id ∈ (t.walk []).map Node.id := by
    rw [ht]
    exact List.mem_range.mpr h
  exact List.mem_map.mp hid

theorem eq_of_id_eq {n m : Node} (hn : n ∈ t.walk []) (hm : m ∈ t.walk []) (h : n.id = m.id) :
    n = m := by
  have hget := ht.getElem?_id hn
  rw [h, ht.getElem?_id hm] at hget
  exact (Option.some.inj hget).symm

theorem id_root : (Node.root t).id = 0 := by
  have hids : (t.walk []).map Node.id = List.range t.size := ht
  obtain ⟨k, hk⟩ := Nat.exists_eq_succ_of_ne_zero (Nat.ne_of_gt t.size_pos)
  rw [walk_eq, hk, List.range_succ_eq_map, List.map_cons] at hids
  exact (List.cons.inj hids).1

/-! ## Below a node -/

/-- The numbers at and below a node are those from its own on. -/
theorem ids_descendants {n : Node} (hn : n ∈ t.walk []) :
    n.descendants.map Node.id = List.range' n.id n.tree.size := by
  obtain ⟨before, behind, hsplit⟩ := descendants_isInfix_walk hn
  have hids : before.map Node.id ++ n.descendants.map Node.id ++ behind.map Node.id =
      List.range' 0 t.size := by
    rw [← List.map_append, ← List.map_append, hsplit, ← List.range_eq_range']
    exact ht
  rw [List.append_assoc] at hids
  obtain ⟨k, -, -, hfrom⟩ := List.range'_eq_append_iff.mp hids.symm
  obtain ⟨m, -, hrun, -⟩ := List.range'_eq_append_iff.mp hfrom.symm
  have hm : m = n.tree.size := by
    have hlength := congrArg List.length hrun
    rw [List.length_map, List.length_range', Node.descendants, length_walk] at hlength
    exact hlength.symm
  rw [hm] at hrun
  rw [hrun, Nat.zero_add]
  -- the run starts with the node itself
  have hhead := congrArg List.head? hrun
  rw [Node.descendants_eq, List.map_cons, List.head?_cons, List.head?_range'] at hhead
  split at hhead
  · cases hhead
  · rw [Option.some.inj hhead, Nat.zero_add]

/-- A node has a lower number than its children, which have different ones. -/
theorem pairwise_children {n : Node} (hn : n ∈ t.walk []) :
    ((n :: n.children).map Node.id).Pairwise (· < ·) := by
  have hsub := (Node.cons_children_sublist_descendants n).map Node.id
  rw [ht.ids_descendants hn] at hsub
  exact List.Pairwise.sublist hsub List.pairwise_lt_range'

theorem nodup_ids : ((t.walk []).map Node.id).Nodup := by
  rw [ht]
  exact List.nodup_range

/-- What is at and below a node is what has the node's number or stands under that number. -/
theorem descendants_eq_filter {b : Node} (hb : b ∈ t.walk []) :
    b.descendants =
      (t.walk []).filter fun n => n.same b || n.ancestors.any fun a => a.same b := by
  have hbelow : ∀ n ∈ t.walk [],
      ((n.same b || n.ancestors.any fun a => a.same b) = true ↔ n ∈ b.descendants) := by
    intro n hn
    simp only [Bool.or_eq_true, List.any_eq_true, Node.same, beq_iff_eq]
    constructor
    · rintro (hid | ⟨a, ha, hid⟩)
      · rw [ht.eq_of_id_eq hn hb hid]
        exact b.mem_descendants_self
      · obtain ⟨hmem, habove⟩ := mem_walk_of_mem_ancestors hn ha
        rwa [ht.eq_of_id_eq hmem hb hid] at habove
    · intro hmem
      by_cases hsame : n = b
      · exact .inl (congrArg Node.id hsame)
      · exact .inr ⟨b, (mem_ancestors_iff hn).mpr ⟨hmem, hsame⟩, rfl⟩
  obtain ⟨before, behind, hsplit⟩ := descendants_isInfix_walk hb
  -- a node in front of the block or behind it is not in the block, since no number occurs twice
  have hnodup : (before ++ b.descendants ++ behind).Nodup := by
    rw [hsplit]
    exact List.Pairwise.of_map Node.id (fun _ _ hne heq => hne (congrArg Node.id heq)) ht.nodup_ids
  rw [List.nodup_append, List.nodup_append] at hnodup
  obtain ⟨⟨-, -, hbefore⟩, -, hbehind⟩ := hnodup
  rw [← hsplit] at hbelow ⊢
  rw [List.filter_append, List.filter_append, List.filter_eq_nil_iff.mpr, List.nil_append,
    List.filter_eq_self.mpr, List.filter_eq_nil_iff.mpr, List.append_nil]
  · intro n hn hmem
    rw [hbelow n (List.mem_append_right _ hn)] at hmem
    exact hbehind n (List.mem_append_right _ hmem) n hn rfl
  · intro n hn
    exact (hbelow n (List.mem_append_left _ (List.mem_append_right _ hn))).mpr hn
  · intro n hn hmem
    rw [hbelow n (List.mem_append_left _ (List.mem_append_left _ hn))] at hmem
    exact hbefore n hn n hmem rfl

/-! ## What the table says -/

theorem slot_getElem? {n : Node} (hn : n ∈ t.walk []) :
    t.arena.slots[n.id]? = some n.slot := by
  simp [arena, ht.getElem?_id hn]

theorem parent?_arena {n : Node} (hn : n ∈ t.walk []) :
    t.arena.parent? n.id = n.parent?.map Node.id := by
  rw [Arena.parent?, ht.slot_getElem? hn]
  rfl

theorem children_arena {n : Node} (hn : n ∈ t.walk []) :
    t.arena.children n.id = n.children.map Node.id := by
  rw [Arena.children, ht.slot_getElem? hn]
  rfl

theorem parent?_arena_eq_some_iff {p c : NodeId} :
    t.arena.parent? c = some p ↔
      ∃ m ∈ t.walk [], ∃ n ∈ m.children, m.id = p ∧ n.id = c := by
  constructor
  · intro h
    rcases Nat.lt_or_ge c t.size with hlt | hge
    · obtain ⟨n, hn, rfl⟩ := ht.exists_id_eq hlt
      rw [ht.parent?_arena hn] at h
      obtain ⟨m, hm, rfl⟩ := Option.map_eq_some_iff.mp h
      obtain ⟨hmem, hchild⟩ := mem_children_of_parent? hn hm
      exact ⟨m, hmem, n, hchild, rfl, rfl⟩
    · simp [Arena.parent?, slots_eq_none hge] at h
  · rintro ⟨m, hm, n, hchild, rfl, rfl⟩
    rw [ht.parent?_arena (mem_walk_of_mem_children hm hchild),
      Node.parent?_eq_of_mem_children hchild]
    rfl

theorem mem_children_arena_iff {p c : NodeId} :
    c ∈ t.arena.children p ↔ ∃ m ∈ t.walk [], ∃ n ∈ m.children, m.id = p ∧ n.id = c := by
  constructor
  · intro h
    rcases Nat.lt_or_ge p t.size with hlt | hge
    · obtain ⟨m, hm, rfl⟩ := ht.exists_id_eq hlt
      rw [ht.children_arena hm] at h
      obtain ⟨n, hn, rfl⟩ := List.mem_map.mp h
      exact ⟨m, hm, n, hn, rfl, rfl⟩
    · simp [Arena.children, slots_eq_none hge] at h
  · rintro ⟨m, hm, n, hn, rfl, rfl⟩
    rw [ht.children_arena hm]
    exact List.mem_map_of_mem hn

/-- The table of a numbered tree is that of a tree. -/
theorem isTree_arena : t.arena.IsTree where
  root_lt := by
    simpa using t.size_pos
  parent_eq_none_iff := by
    intro id hid
    rw [size_arena] at hid
    obtain ⟨n, hn, rfl⟩ := ht.exists_id_eq hid
    rw [ht.parent?_arena hn, Option.map_eq_none_iff]
    constructor
    · intro hnone
      rcases eq_or_mem_children_of_mem_walk hn with rfl | ⟨p, hp, hchild⟩
      · exact ht.id_root
      · rw [Node.parent?_eq_of_mem_children hchild] at hnone
        cases hnone
    · intro hzero
      have hroot : n = Node.root t :=
        ht.eq_of_id_eq hn (Node.mem_descendants_self (Node.root t)) (hzero.trans ht.id_root.symm)
      rw [hroot]
      rfl
  mem_children_iff := by
    intro p c
    rw [ht.mem_children_arena_iff, ht.parent?_arena_eq_some_iff]
  nodup_children := by
    intro p
    rcases Nat.lt_or_ge p t.size with hlt | hge
    · obtain ⟨m, hm, rfl⟩ := ht.exists_id_eq hlt
      rw [ht.children_arena hm]
      exact (List.pairwise_cons.mp (ht.pairwise_children hm)).2.imp Nat.ne_of_lt
    · simp [Arena.children, slots_eq_none hge]
  parent_lt := by
    intro p c h
    obtain ⟨m, hm, n, hn, rfl, rfl⟩ := ht.parent?_arena_eq_some_iff.mp h
    exact (List.pairwise_cons.mp (ht.pairwise_children hm)).1 _ (List.mem_map_of_mem hn)
  parent_inRange := by
    intro slot hslot p hp
    obtain ⟨n, hn, rfl⟩ := List.mem_map.mp hslot
    obtain ⟨m, hm, rfl⟩ := Option.map_eq_some_iff.mp hp
    simpa using ht.id_lt (mem_children_of_parent? hn hm).1
  child_inRange := by
    intro slot hslot c hc
    obtain ⟨m, hm, rfl⟩ := List.mem_map.mp hslot
    obtain ⟨n, hn, rfl⟩ := List.mem_map.mp hc
    simpa using ht.id_lt (mem_walk_of_mem_children hm hn)

/-! ## Walks through the table -/

/-- A walk with a stack ends, and meets what the recursive walk from the node meets. -/
theorem walks_iff {n : Node} (hn : n ∈ t.walk []) (ids : List NodeId) :
    t.arena.Walks [n.id] ids ↔ ids = n.descendants.map Node.id := by
  have hwalks : t.arena.Walks [n.id] (n.descendants.map Node.id ++ []) := by
    apply walks_walk
    · intro m hm
      exact ht.children_arena ((descendants_isInfix_walk hn).subset hm)
    · exact .ends rfl
  rw [List.append_nil] at hwalks
  constructor
  · intro h
    exact h.unique hwalks
  · rintro rfl
    exact hwalks

theorem climbs_enclosing :
    ∀ (above : List Tree) (s : Tree), (⟨s, above⟩ : Node) ∈ t.walk [] →
      t.arena.Climbs s.info.id ((enclosing above).map Node.id) := by
  intro above
  induction above with
  | nil =>
      intro s hs
      exact .ends (ht.parent?_arena hs)
  | cons p rest ih =>
      intro s hs
      have hparent : Node.parent? ⟨s, p :: rest⟩ = some ⟨p, rest⟩ := rfl
      exact .meets (ht.parent?_arena hs) (ih p (mem_children_of_parent? hs hparent).1)

/-- On the way up the nodes above a node are met, the nearest first. -/
theorem climbs_iff {n : Node} (hn : n ∈ t.walk []) (ids : List NodeId) :
    t.arena.Climbs n.id ids ↔ ids = n.ancestors.map Node.id := by
  have hclimbs := ht.climbs_enclosing n.above n.tree hn
  constructor
  · intro h
    exact h.unique hclimbs
  · rintro rfl
    exact hclimbs

theorem id_mem_ancestors_iff {a d : Node} (ha : a ∈ t.walk []) (hd : d ∈ t.walk []) :
    a.id ∈ d.ancestors.map Node.id ↔ d.id ∈ a.descendants.map Node.id ∧ d.id ≠ a.id := by
  constructor
  · intro h
    obtain ⟨m, hm, hid⟩ := List.mem_map.mp h
    obtain rfl : m = a := ht.eq_of_id_eq (mem_walk_of_mem_ancestors hd hm).1 ha hid
    obtain ⟨hbelow, hne⟩ := (mem_ancestors_iff hd).mp hm
    exact ⟨List.mem_map_of_mem hbelow, fun hid => hne (ht.eq_of_id_eq hd ha hid)⟩
  · rintro ⟨h, hne⟩
    obtain ⟨m, hm, hid⟩ := List.mem_map.mp h
    have hmem : m ∈ t.walk [] := (descendants_isInfix_walk ha).subset hm
    obtain rfl : m = d := ht.eq_of_id_eq hmem hd hid
    refine List.mem_map_of_mem ((mem_ancestors_iff hd).mpr ⟨hm, ?_⟩)
    rintro rfl
    exact hne rfl

end Numbered
end Tree
end Syntax
end TreeLint
