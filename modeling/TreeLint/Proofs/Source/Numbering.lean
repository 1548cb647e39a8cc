import TreeLint.Proofs.Source.Drafting
import TreeLint.Proofs.Syntax.Tables

/-!
# The numbers of the nodes of a unit

The outlines of a builder and the table that the calls make grow together. Read in pre-order, the
complete nodes before and inside the open ones and the open ones themselves are the rows of the
table in the order of their numbers: a new node becomes the last row and a child of the innermost
open node, and closing a node leaves the rows as they are. When a builder ends with a unit, its one
root has all the rows.

**Results.**
* `Builder.rows_attach`, `Builder.rows_start`, `Builder.rows_close`: the rows after a step.
* `Builder.drafts_perform`: what one call does to builder and table.
* `Builder.finish_builtBy`: what is known of the unit that a sequence of calls makes.
-/

namespace TreeLint
namespace Source

open Symbols Syntax

/-! ## The rows of outlines -/

mutual

/-- The nodes of an outline in pre-order, each with its place in the table. -/
def Outline.rows (parent : Option NodeId) : Outline → List (NodeId × Slot)
  | .node id children =>
    (id, ⟨parent, children.map Outline.id⟩) :: Outline.rowsAll (some id) children

def Outline.rowsAll (parent : Option NodeId) : List Outline → List (NodeId × Slot)
  | [] => []
  | o :: os => o.rows parent ++ Outline.rowsAll parent os

end

@[simp] theorem Outline.rowsAll_concat (parent : Option NodeId) (os : List Outline) (o : Outline) :
    Outline.rowsAll parent (os ++ [o]) = Outline.rowsAll parent os ++ o.rows parent := by
  induction os with
  | nil => simp [rowsAll]
  | cons first os ih => simp [rowsAll, ih]

@[simp] theorem Outline.rows_leaf (parent : Option NodeId) (id : NodeId) :
    (Outline.node id []).rows parent = [(id, ⟨parent, []⟩)] := by
  rw [rows, rowsAll]
  rfl

namespace Builder

variable {b c : Builder}

/-- The rows of complete and open nodes. The innermost open node has some more children that are
listed elsewhere. -/
def rowsOf (roots : List Outline) : List OpenNode → List NodeId → List (NodeId × Slot)
  | [], _ => Outline.rowsAll none roots.reverse
  | n :: outer, inner =>
    rowsOf roots outer [n.id] ++
      (n.id, ⟨outer.head?.map OpenNode.id, n.children.reverse.map Outline.id ++ inner⟩) ::
        Outline.rowsAll (some n.id) n.children.reverse

def rows (b : Builder) : List (NodeId × Slot) :=
  rowsOf b.roots b.opened []

theorem rows_congr (hopened : c.opened = b.opened) (hroots : c.roots = b.roots) :
    c.rows = b.rows := by
  rw [rows, rows, hopened, hroots]

/-- A complete node comes last, as a child of the innermost open node. -/
theorem rows_attach (b : Builder) (o : Outline) :
    (b.attach o).rows =
      rowsOf b.roots b.opened [o.id] ++ o.rows (b.opened.head?.map OpenNode.id) := by
  cases h : b.opened with
  | nil =>
      rw [attach_of_nil h, rows, h]
      simp only [rowsOf, List.reverse_cons]
      exact Outline.rowsAll_concat none b.roots.reverse o
  | cons p outer =>
      rw [attach_of_cons h, rows]
      simp only [rowsOf, List.reverse_cons, Outline.rowsAll_concat]
      simp

/-- So does a node that is opened. -/
theorem rows_start (b : Builder) (kind : String) (role : Option String) :
    (b.start kind role).rows =
      rowsOf b.roots b.opened [b.nextNode] ++
        [(b.nextNode, ⟨b.opened.head?.map OpenNode.id, []⟩)] := by
  rw [rows, opened_start, roots_start, rowsOf]
  simp [Outline.rowsAll]

theorem rows_token (b : Builder) (kind text : String) (role : Option String) :
    (b.token kind text role).rows =
      rowsOf b.roots b.opened [b.nextNode] ++
        [(b.nextNode, ⟨b.opened.head?.map OpenNode.id, []⟩)] := by
  obtain ⟨hopened, hroots⟩ := place_token b kind text role
  rw [rows_congr hopened hroots, rows_attach, Outline.rows_leaf]
  rfl

@[simp] theorem rows_close (b : Builder) : b.close.rows = b.rows := by
  cases h : b.opened with
  | nil =>
      rw [close_of_nil h]
      rfl
  | cons n outer =>
      obtain ⟨hopened, hroots⟩ := place_close h
      rw [rows_congr hopened hroots, rows_attach, rows, h, rowsOf, Outline.rows, List.append_nil]
      rfl

/-! ## Rows and table -/

/-- A table has the rows of a builder, in the order of their numbers. -/
structure Drafts (d : Draft) (b : Builder) : Prop where
  size : b.nextNode = d.slots.length
  ids : b.rows.map Prod.fst = List.range d.slots.length
  slots : b.rows.map Prod.snd = d.slots
  opened : d.opened = b.opened.map OpenNode.id

theorem modify_middle {α : Type} {before behind : List α} {x : α} {i : Nat}
    (h : i = before.length) (f : α → α) :
    (before ++ x :: behind).modify i f = before ++ f x :: behind := by
  subst h
  induction before with
  | nil => rfl
  | cons first before ih => simp [ih]

theorem eq_length_of_append_eq_range {before behind : List Nat} {i n : Nat}
    (h : before ++ i :: behind = List.range n) : i = before.length := by
  have hget : (List.range n)[before.length]? = some i := by
    rw [← h]
    simp
  obtain ⟨hlt, hi⟩ := List.getElem?_eq_some_iff.mp hget
  rw [List.getElem_range] at hi
  exact hi.symm

/-- A child that is listed elsewhere changes one slot: that of the innermost open node. -/
theorem Drafts.adopt {d : Draft} (h : Drafts d b) (child : NodeId) :
    (rowsOf b.roots b.opened [child]).map Prod.fst = List.range d.slots.length ∧
      (rowsOf b.roots b.opened [child]).map Prod.snd = d.adopt child := by
  have hids := h.ids
  have hslots := h.slots
  rw [rows] at hids hslots
  rw [Draft.adopt, h.opened]
  cases hopened : b.opened with
  | nil =>
      rw [hopened] at hids hslots
      exact ⟨hids, hslots⟩
  | cons p outer =>
      rw [hopened] at hids hslots
      simp only [rowsOf, List.map_append, List.map_cons, List.append_nil] at hids hslots ⊢
      refine ⟨hids, ?_⟩
      -- the number of the open node is its place in the table
      have hplace := eq_length_of_append_eq_range hids
      rw [List.length_map] at hplace
      rw [← hslots, modify_middle (by rw [List.length_map]; exact hplace)]

/-- A node that is made is the last row. -/
theorem Drafts.add {d : Draft} (h : Drafts d b)
    (hrows : c.rows = rowsOf b.roots b.opened [b.nextNode] ++
      [(b.nextNode, ⟨b.opened.head?.map OpenNode.id, []⟩)]) :
    c.rows.map Prod.fst = List.range (d.slots.length + 1) ∧ c.rows.map Prod.snd = d.add.slots := by
  obtain ⟨hids, hslots⟩ := h.adopt b.nextNode
  rw [hrows, List.map_append, List.map_append, hids, hslots, Draft.add, h.size, h.opened,
    List.head?_map, List.range_succ]
  exact ⟨rfl, rfl⟩

@[simp] theorem map_id_attach (b : Builder) (o : Outline) :
    (b.attach o).opened.map OpenNode.id = b.opened.map OpenNode.id := by
  cases h : b.opened with
  | nil => rw [attach_of_nil h, h]
  | cons p outer =>
      rw [attach_of_cons h]
      rfl

@[simp] theorem map_id_close (b : Builder) :
    b.close.opened.map OpenNode.id = (b.opened.map OpenNode.id).tail := by
  cases h : b.opened with
  | nil =>
      rw [close_of_nil h]
      exact congrArg (List.map OpenNode.id) h
  | cons n outer =>
      simp [(place_close h).1]

@[simp] theorem length_made (b : Builder) : b.made.length = b.nextNode := by
  simp [made, nextNode]

@[simp] theorem nextNode_perform (b : Builder) (call : Call) :
    (b.perform call).nextNode = b.nextNode + call.creation?.toList.length := by
  rw [← length_made, ← length_made, made_perform, List.length_append]

theorem drafts_perform {d : Draft} (h : Drafts d b) (call : Call) :
    Drafts (d.perform call) (b.perform call) := by
  have hsize : (b.perform call).nextNode = (d.perform call).slots.length := by
    simp [h.size, d.length_perform]
  cases call.effect with
  | start kind role =>
      obtain ⟨hids, hslots⟩ := h.add (rows_start b kind role)
      refine ⟨hsize, ?_, hslots, ?_⟩
      · rw [d.length_perform]
        exact hids
      · rw [perform, opened_start, List.map_cons, ← h.opened, h.size]
        rfl
  | token kind text role =>
      obtain ⟨hids, hslots⟩ := h.add (rows_token b kind text role)
      refine ⟨hsize, ?_, hslots, ?_⟩
      · rw [d.length_perform]
        exact hids
      · rw [perform, (place_token b kind text role).1, map_id_attach]
        exact h.opened
  | close =>
      refine ⟨hsize, ?_, ?_, ?_⟩
      · rw [perform, rows_close]
        exact h.ids
      · rw [perform, rows_close]
        exact h.slots
      · rw [perform, map_id_close, ← h.opened]
        rfl
  | other hcall =>
      have hshape := sameShape_perform b hcall
      have hrows := rows_congr hshape.opened hshape.roots
      rw [d.perform_eq_self hcall] at hsize ⊢
      exact ⟨hsize, by rw [hrows, h.ids], by rw [hrows, h.slots], by rw [hshape.opened, h.opened]⟩

theorem drafts_run (path : String) (language : Language) (generated testProject : Bool)
    (calls : List Call) :
    Drafts (draftOf calls) ((new path language generated testProject).run calls) := by
  induction calls using List.reverseRecOn with
  | nil => exact ⟨rfl, rfl, rfl, rfl⟩
  | append_singleton calls call ih =>
      simpa [run, draftOf] using drafts_perform ih call

/-! ## The root -/

/-- There is no complete node outside all others, or there is one and nothing else. -/
def Rooted (b : Builder) : Prop :=
  b.roots = [] ∨ (b.opened = [] ∧ ∃ root, b.roots = [root])

theorem rooted_attach (h : b.roots = []) (o : Outline) : (b.attach o).Rooted := by
  cases hopened : b.opened with
  | nil =>
      rw [attach_of_nil hopened, h]
      exact Or.inr ⟨hopened, o, rfl⟩
  | cons p outer =>
      rw [attach_of_cons hopened]
      exact Or.inl h

/-- A call that is no mistake leaves at most one root. -/
theorem Rooted.perform (h : b.Rooted) {call : Call} (hflaw : b.flaw? call = none) :
    (b.perform call).Rooted := by
  have hroots : call.creation? ≠ none ∨ b.opened ≠ [] → b.roots = [] := by
    rcases h with hnone | ⟨hopened, root, hroot⟩
    · exact fun _ => hnone
    · cases call <;> simp_all [flaw?, Call.creation?]
  cases call.effect with
  | start kind role =>
      refine Or.inl ?_
      simpa [Builder.perform] using hroots (Or.inl (by simp [Call.creation?]))
  | token kind text role =>
      obtain ⟨hopened, hplaced⟩ := place_token b kind text role
      rw [Rooted, Builder.perform, hopened, hplaced]
      exact rooted_attach (hroots (Or.inl (by simp [Call.creation?]))) _
  | close =>
      cases hopened : b.opened with
      | nil => simp [flaw?, hopened] at hflaw
      | cons n outer =>
          obtain ⟨hclosed, hplaced⟩ := place_close hopened
          rw [Rooted, Builder.perform, hclosed, hplaced]
          exact rooted_attach (b := { b with opened := outer })
            (hroots (Or.inr (by simp [hopened]))) _
  | other hcall =>
      have hshape := sameShape_perform b hcall
      rw [Rooted, hshape.opened, hshape.roots]
      exact h

theorem rooted_run (path : String) (language : Language) (generated testProject : Bool)
    (calls : List Call) (h : ((new path language generated testProject).run calls).fault = none) :
    ((new path language generated testProject).run calls).Rooted := by
  induction calls using List.reverseRecOn with
  | nil => exact Or.inl rfl
  | append_singleton calls call ih =>
      rw [run, List.foldl_append] at h ⊢
      obtain ⟨hbefore, hflaw⟩ := Option.or_eq_none_iff.mp ((fault_perform _ call).symm.trans h)
      exact (ih hbefore).perform hflaw

/-! ## The tree of a root -/

@[simp] theorem id_treeOf (b : Builder) (o : Outline) : (b.treeOf o).info.id = o.id := by
  cases o with
  | node id os =>
      rw [treeOf_node]
      rfl

@[simp] theorem map_id_treesOf (b : Builder) (os : List Outline) :
    (b.treesOf os).map (fun t => t.info.id) = os.map Outline.id := by
  induction os with
  | nil =>
      rw [treesOf]
      rfl
  | cons o os ih => rw [treesOf, List.map_cons, List.map_cons, id_treeOf, ih]

mutual

theorem rows_treeOf (b : Builder) (above : List Tree) (o : Outline) :
    ((b.treeOf o).walk above).map (fun n => (n.id, n.slot)) =
      o.rows (above.head?.map fun t => t.info.id) := by
  cases o with
  | node id os =>
      rw [treeOf_node, Tree.walk, List.map_cons, rows_treesOf, Outline.rows]
      refine congrArg₂ _ (congrArg (Prod.mk id) ?_) rfl
      rw [Node.slot, Node.children, List.map_map]
      refine congrArg₂ _ ?_ (map_id_treesOf b os)
      cases above <;> rfl

theorem rows_treesOf (b : Builder) (above : List Tree) (os : List Outline) :
    (Tree.walkAll above (b.treesOf os)).map (fun n => (n.id, n.slot)) =
      Outline.rowsAll (above.head?.map fun t => t.info.id) os := by
  cases os with
  | nil =>
      rw [treesOf]
      rfl
  | cons o os =>
      simp [treesOf, Tree.walkAll, rows_treeOf, rows_treesOf, Outline.rowsAll]

end

mutual

theorem info_of_mem_treeOf {above : List Tree} {o : Outline} {n : Node}
    (h : n ∈ (b.treeOf o).walk above) : n.info = b.info n.id := by
  cases o with
  | node id os =>
      rw [treeOf_node, Tree.walk, List.mem_cons] at h
      rcases h with rfl | h
      · rfl
      · exact info_of_mem_treesOf h

theorem info_of_mem_treesOf {above : List Tree} {os : List Outline} {n : Node}
    (h : n ∈ Tree.walkAll above (b.treesOf os)) : n.info = b.info n.id := by
  cases os with
  | nil =>
      rw [treesOf] at h
      exact absurd h List.not_mem_nil
  | cons o os =>
      rw [treesOf, Tree.walkAll, List.mem_append] at h
      rcases h with h | h
      · exact info_of_mem_treeOf h
      · exact info_of_mem_treesOf h

end

/-- What the making of a node has left under its number. -/
def creationAt (b : Builder) (id : NodeId) : Creation :=
  ⟨(b.info id).kind, (b.info id).role, (b.info id).text⟩

theorem map_ofNode_treeOf (b : Builder) (above : List Tree) (o : Outline) :
    ((b.treeOf o).walk above).map Creation.ofNode =
      (((b.treeOf o).walk above).map Node.id).map b.creationAt := by
  rw [List.map_map]
  apply List.map_congr_left
  intro n hn
  rw [Function.comp_apply, creationAt, ← info_of_mem_treeOf hn]
  rfl

theorem made_eq_map_range (b : Builder) : b.made = (List.range b.nextNode).map b.creationAt := by
  apply List.ext_getElem
  · simp
  · intro i hi hi'
    rw [length_made] at hi
    have hget : b.entries[i]? = some b.entries[i] := Array.getElem?_eq_getElem hi
    simp only [made, List.getElem_map, List.getElem_range, Array.getElem_toList, creationAt, info,
      hget]
    rfl

/-! ## The unit -/

/-- A unit has the tree of the only root. -/
theorem exists_only_root_of_finish {u : SourceUnit} (h : b.finish = .ok u)
    (hrooted : b.fault = none → b.Rooted) :
    ∃ root, u.tree = b.treeOf root ∧ b.opened = [] ∧ b.roots = [root] := by
  obtain ⟨hfault, hopened, hroots⟩ := exists_finish_iff.mp ⟨u, h⟩
  rcases hrooted hfault with hnone | ⟨-, root, hroot⟩
  · exact absurd hnone hroots
  · rw [finish_of_root hfault hopened hroot] at h
    cases h
    exact ⟨root, rfl, hopened, hroot⟩

/-- A unit has the tree of the only root, and a table with all the rows. -/
theorem exists_root_of_finish {u : SourceUnit} (h : b.finish = .ok u)
    (hrooted : b.fault = none → b.Rooted) :
    ∃ root, u.tree = b.treeOf root ∧ b.rows = root.rows none := by
  obtain ⟨root, htree, hopened, hroot⟩ := exists_only_root_of_finish h hrooted
  refine ⟨root, htree, ?_⟩
  simp [rows, hopened, hroot, rowsOf, Outline.rowsAll]

/-- The nodes of a unit carry what the calls have recorded under their numbers. -/
theorem info_of_mem_nodes {path : String} {language : Language} {generated testProject : Bool}
    {calls : List Call} {u : SourceUnit}
    (h : ((new path language generated testProject).run calls).finish = .ok u) {n : Node}
    (hn : n ∈ u.nodes) :
    n.info = ((new path language generated testProject).run calls).info n.id := by
  obtain ⟨root, htree, -⟩ :=
    exists_only_root_of_finish h (rooted_run path language generated testProject calls)
  generalize (new path language generated testProject).run calls = b at *
  have hwalk : n ∈ (b.treeOf root).walk [] := by
    rw [← htree]
    exact hn
  exact info_of_mem_treeOf hwalk

/-- What is known of a unit that comes of a sequence of calls. -/
theorem finish_builtBy {path : String} {language : Language} {generated testProject : Bool}
    {calls : List Call} {u : SourceUnit}
    (h : ((new path language generated testProject).run calls).finish = .ok u) :
    u.BuiltBy calls := by
  have hdrafts := drafts_run path language generated testProject calls
  have hmade := (tracks_run path language generated testProject calls).made
  obtain ⟨root, htree, hroot⟩ :=
    exists_root_of_finish h (rooted_run path language generated testProject calls)
  generalize (new path language generated testProject).run calls = b at *
  have hrows : (u.tree.walk []).map (fun n => (n.id, n.slot)) = b.rows := by
    rw [htree, hroot]
    exact rows_treeOf b [] root
  have hslots : (u.tree.walk []).map Node.slot = (draftOf calls).slots := by
    rw [← hdrafts.slots, ← hrows, List.map_map]
    rfl
  have hids : (u.tree.walk []).map Node.id = List.range (draftOf calls).slots.length := by
    rw [← hdrafts.ids, ← hrows, List.map_map]
    rfl
  have harena : u.tree.arena = arenaOf calls := congrArg Arena.mk hslots
  have hnumbered : u.tree.Numbered := by
    rw [Tree.Numbered, hids, ← Tree.size_arena, harena]
    rfl
  constructor
  case arena => exact harena
  case creations =>
    have hnodes : u.nodes = (b.treeOf root).walk [] := by rw [← htree]; rfl
    rw [hnodes, map_ofNode_treeOf, ← htree, hids, ← hdrafts.size, ← made_eq_map_range, hmade]
  case isTree =>
    rw [← harena]
    exact hnumbered.isTree_arena
  case leaves =>
    intro id node hnode htext
    rw [Arena.children]
    cases hslot : (arenaOf calls).slots[id]? with
    | none => rfl
    | some slot => exact (Draft.leafy_draftOf calls).leaves id slot hslot node hnode htext
  case ids => exact hids
  case walks =>
    intro n hn met
    rw [← harena]
    exact hnumbered.walks_iff hn met
  case runs => exact fun n hn => hnumbered.ids_descendants hn
  case climbs =>
    intro n hn met
    rw [← harena]
    exact hnumbered.climbs_iff hn met
  case ancestors => exact fun a ha d hd => hnumbered.id_mem_ancestors_iff ha hd

/-- A node in a node, with tokens before and in it, and a fact about a node that is not there. -/
theorem finish_builtBy_nested :
    let calls : List Call :=
      [.start "CompilationUnit" none, .token "UsingKeyword" "using" none, .bind 99 7,
        .start "IdentifierName" (some "name"), .token "IdentifierToken" "System" none, .newline,
        .close, .token "SemicolonToken" ";" none, .close]
    ∃ u, ((new "a.cs" .csharp false false).run calls).finish = .ok u ∧ u.BuiltBy calls :=
  ⟨_, rfl, finish_builtBy rfl⟩

end Builder
end Source
end TreeLint
