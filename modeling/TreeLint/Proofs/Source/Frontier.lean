import TreeLint.Proofs.Source.Numbering

/-!
# Complete nodes that have no complete parent

While a tree is put together, its complete nodes stand in a row: those outside all others, and then
those inside each open node, from the outermost to the innermost one. A node that is made complete
comes last in the row; when a node is closed, its children leave the row and it takes their place.

**Results.**
* `Builder.frontier_start`, `Builder.frontier_token`, `Builder.frontier_close`: the row after a
  step.
* `Drafts.perm_range`: the numbers in the row and those of the open nodes are all numbers.
-/

namespace TreeLint
namespace Source

open Syntax

/-- The numbers of the nodes of an outline. -/
def Outline.ids (o : Outline) : List NodeId :=
  (o.rows none).map Prod.fst

namespace Outline

@[simp] theorem map_fst_rows (parent : Option NodeId) (o : Outline) :
    (o.rows parent).map Prod.fst = o.ids := by
  cases o with
  | node id os => rw [ids, rows, rows, List.map_cons, List.map_cons]

@[simp] theorem map_fst_rowsAll (parent : Option NodeId) (os : List Outline) :
    (rowsAll parent os).map Prod.fst = os.flatMap ids := by
  induction os with
  | nil => rfl
  | cons o os ih => rw [rowsAll, List.map_append, map_fst_rows, ih, List.flatMap_cons]

@[simp] theorem ids_node (id : NodeId) (os : List Outline) :
    (Outline.node id os).ids = id :: os.flatMap ids := by
  simp [ids, rows]

theorem id_mem_ids (o : Outline) : o.id ∈ o.ids := by
  cases o with
  | node id os =>
      rw [ids_node]
      exact List.mem_cons_self

end Outline

namespace Builder

variable {b c : Builder}

/-- The complete nodes that are roots or children of open nodes. -/
def frontierOf (roots : List Outline) : List OpenNode → List Outline
  | [] => roots.reverse
  | n :: outer => frontierOf roots outer ++ n.children.reverse

def frontier (b : Builder) : List Outline :=
  frontierOf b.roots b.opened

theorem frontier_congr (hopened : c.opened = b.opened) (hroots : c.roots = b.roots) :
    c.frontier = b.frontier := by
  rw [frontier, frontier, hopened, hroots]

/-- A complete node comes last. -/
@[simp] theorem frontier_attach (b : Builder) (o : Outline) :
    (b.attach o).frontier = b.frontier ++ [o] := by
  cases h : b.opened with
  | nil => simp [attach_of_nil h, frontier, h, frontierOf]
  | cons p outer => simp [attach_of_cons h, frontier, h, frontierOf]

@[simp] theorem frontier_start (b : Builder) (kind : String) (role : Option String) :
    (b.start kind role).frontier = b.frontier := by
  simp [frontier, frontierOf]

@[simp] theorem frontier_token (b : Builder) (kind text : String) (role : Option String) :
    (b.token kind text role).frontier = b.frontier ++ [.node b.nextNode []] := by
  obtain ⟨hopened, hroots⟩ := place_token b kind text role
  simp [frontier_congr hopened hroots]

/-- A node that is closed takes the place of its children. -/
theorem frontier_close {n : OpenNode} {outer : List OpenNode} (h : b.opened = n :: outer) :
    b.frontier = frontierOf b.roots outer ++ n.children.reverse ∧
      b.close.frontier = frontierOf b.roots outer ++ [.node n.id n.children.reverse] := by
  obtain ⟨hopened, hroots⟩ := place_close h
  constructor
  · rw [frontier, h, frontierOf]
  · rw [frontier_congr hopened hroots, frontier_attach]
    rfl

/-! ## Numbers -/

theorem perm_rowsOf (roots : List Outline) (opened : List OpenNode) :
    ∀ inner : List NodeId, ((rowsOf roots opened inner).map Prod.fst).Perm
      (opened.map OpenNode.id ++ (frontierOf roots opened).flatMap Outline.ids) := by
  induction opened with
  | nil =>
      intro inner
      rw [rowsOf, Outline.map_fst_rowsAll]
      rfl
  | cons n outer ih =>
      intro inner
      rw [rowsOf, List.map_append, List.map_cons, Outline.map_fst_rowsAll, frontierOf,
        List.flatMap_append, List.map_cons]
      have houter := (ih [n.id]).append_right (n.id :: n.children.reverse.flatMap Outline.ids)
      rw [List.append_assoc] at houter
      refine houter.trans ?_
      rw [List.cons_append, ← List.append_assoc, ← List.append_assoc]
      exact List.perm_middle

/-- The numbers of the open nodes and of the complete ones are those of all nodes. -/
theorem Drafts.perm_range {d : Draft} (h : Drafts d b) :
    (b.opened.map OpenNode.id ++ b.frontier.flatMap Outline.ids).Perm (List.range b.nextNode) := by
  rw [h.size, ← h.ids]
  exact (perm_rowsOf b.roots b.opened []).symm

theorem Drafts.lt_of_mem_frontier {d : Draft} (h : Drafts d b) {o : Outline} (ho : o ∈ b.frontier)
    {i : NodeId} (hi : i ∈ o.ids) : i < b.nextNode := by
  rw [← List.mem_range, ← h.perm_range.mem_iff, List.mem_append]
  exact Or.inr (List.mem_flatMap.mpr ⟨o, ho, hi⟩)

theorem Drafts.lt_of_mem_opened {d : Draft} (h : Drafts d b) {n : OpenNode} (hn : n ∈ b.opened) :
    n.id < b.nextNode := by
  rw [← List.mem_range, ← h.perm_range.mem_iff, List.mem_append]
  exact Or.inl (List.mem_map_of_mem hn)

/-- A complete node does not have the number of an open one. -/
theorem Drafts.ne_of_mem_frontier {d : Draft} (h : Drafts d b) {n : OpenNode} (hn : n ∈ b.opened)
    {o : Outline} (ho : o ∈ b.frontier) {i : NodeId} (hi : i ∈ o.ids) : i ≠ n.id := by
  have hnodup := h.perm_range.nodup_iff.mpr List.nodup_range
  rw [List.nodup_append] at hnodup
  exact (hnodup.2.2 n.id (List.mem_map_of_mem hn) i (List.mem_flatMap.mpr ⟨o, ho, hi⟩)).symm

end Builder
end Source
end TreeLint
