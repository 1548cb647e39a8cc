import TreeLint.Proofs.Syntax.Nesting

/-!
# Trees whose nodes carry something else

What the nodes of a tree carry can be replaced, node by node, while the shape of the tree stays. If
the replacement keeps the kind and the role of every node, then all questions about the place of a
node have the same answers as before: the nodes that are found are those that replace the nodes
found before. Texts matter only where they are read.

**Results.**
* `Tree.walk_mapInfo`: a walk through the tree meets the replaced nodes in the same order.
* `Tree.mapInfo_congr`: a replacement matters only by what it does to the nodes of the tree.
* `Tree.mapInfo_eq_of_map_info_eq`: trees of one shape are told apart by what their nodes carry.
-/

namespace TreeLint
namespace Syntax

mutual

/-- The tree with other things carried by its nodes. -/
def Tree.mapInfo (f : NodeInfo → NodeInfo) : Tree → Tree
  | .node info children => .node (f info) (Tree.mapInfoAll f children)

def Tree.mapInfoAll (f : NodeInfo → NodeInfo) : List Tree → List Tree
  | [] => []
  | t :: ts => t.mapInfo f :: Tree.mapInfoAll f ts

end

/-- The node in the tree with other things carried. -/
def Node.mapInfo (f : NodeInfo → NodeInfo) (n : Node) : Node :=
  ⟨n.tree.mapInfo f, n.above.map (Tree.mapInfo f)⟩

/-- A replacement that keeps all but the text, the trivia and the symbols of a node. -/
structure NodeInfo.KeepsShape (f : NodeInfo → NodeInfo) : Prop where
  id : ∀ i, (f i).id = i.id
  kind : ∀ i, (f i).kind = i.kind
  role : ∀ i, (f i).role = i.role
  span : ∀ i, (f i).span = i.span
  type : ∀ i, (f i).type = i.type
  constant : ∀ i, (f i).constant = i.constant

/-- A replacement that keeps all but the trivia and the symbols of a node. -/
structure NodeInfo.KeepsSyntax (f : NodeInfo → NodeInfo) : Prop extends NodeInfo.KeepsShape f where
  text : ∀ i, (f i).text = i.text

variable {f g : NodeInfo → NodeInfo}

namespace Tree

theorem mapInfoAll_eq_map (f : NodeInfo → NodeInfo) (ts : List Tree) :
    mapInfoAll f ts = ts.map (mapInfo f) := by
  induction ts with
  | nil => rfl
  | cons t ts ih => rw [mapInfoAll, ih, List.map_cons]

@[simp] theorem info_mapInfo (f : NodeInfo → NodeInfo) (t : Tree) :
    (t.mapInfo f).info = f t.info := by
  cases t
  rw [mapInfo]
  rfl

@[simp] theorem children_mapInfo (f : NodeInfo → NodeInfo) (t : Tree) :
    (t.mapInfo f).children = t.children.map (mapInfo f) := by
  cases t
  rw [mapInfo, ← mapInfoAll_eq_map]
  rfl

mutual

@[simp] theorem mapInfo_self (t : Tree) : t.mapInfo (fun i => i) = t := by
  cases t with
  | node info ts => rw [mapInfo, mapInfoAll_self]

@[simp] theorem mapInfoAll_self (ts : List Tree) : mapInfoAll (fun i => i) ts = ts := by
  cases ts with
  | nil => rfl
  | cons t ts => rw [mapInfoAll, mapInfo_self, mapInfoAll_self]

end

@[simp] theorem isToken_mapInfo (hf : NodeInfo.KeepsShape f) (t : Tree) :
    (t.mapInfo f).isToken = t.isToken := by
  simp [isToken, hf.kind]

/-! ## Walks -/

mutual

/-- A walk meets the replaced nodes in the order in which it met the nodes. -/
@[simp] theorem walk_mapInfo (f : NodeInfo → NodeInfo) (above : List Tree) (t : Tree) :
    (t.mapInfo f).walk (above.map (mapInfo f)) = (t.walk above).map (Node.mapInfo f) := by
  cases t with
  | node info ts =>
      have hbelow := walkAll_mapInfo f (.node info ts :: above) ts
      rw [List.map_cons] at hbelow
      rw [walk, List.map_cons, ← hbelow, mapInfo, walk]
      simp only [Node.mapInfo, mapInfo]

@[simp] theorem walkAll_mapInfo (f : NodeInfo → NodeInfo) (above ts : List Tree) :
    walkAll (above.map (mapInfo f)) (mapInfoAll f ts) =
      (walkAll above ts).map (Node.mapInfo f) := by
  cases ts with
  | nil => rfl
  | cons t ts =>
      rw [mapInfoAll, walkAll, walkAll, List.map_append, walk_mapInfo, walkAll_mapInfo]

end

mutual

@[simp] theorem lastToken?_mapInfo (hf : NodeInfo.KeepsShape f) (above : List Tree) (t : Tree) :
    (t.mapInfo f).lastToken? (above.map (mapInfo f)) =
      (t.lastToken? above).map (Node.mapInfo f) := by
  cases t with
  | node info ts =>
      have hbelow := lastTokenOf?_mapInfo hf (.node info ts :: above) ts
      rw [List.map_cons] at hbelow
      simp only [mapInfo, lastToken?, hf.kind] at hbelow ⊢
      split
      · simp only [Option.map_some, Node.mapInfo, mapInfo]
      · exact hbelow

theorem lastTokenOf?_mapInfo (hf : NodeInfo.KeepsShape f) (above ts : List Tree) :
    lastTokenOf? (above.map (mapInfo f)) (mapInfoAll f ts) =
      (lastTokenOf? above ts).map (Node.mapInfo f) := by
  cases ts with
  | nil => rfl
  | cons t ts =>
      rw [mapInfoAll, lastTokenOf?, lastTokenOf?, lastTokenOf?_mapInfo hf above ts,
        lastToken?_mapInfo hf above t]
      cases lastTokenOf? above ts <;> rfl

end

/-! ## What a replacement depends on -/

mutual

/-- What is done to other things than those that the nodes carry does not matter. -/
theorem mapInfo_congr {above : List Tree} {t : Tree}
    (h : ∀ n ∈ t.walk above, f n.info = g n.info) : t.mapInfo f = t.mapInfo g := by
  cases t with
  | node info ts =>
      rw [walk] at h
      have hinfo : f info = g info := h _ List.mem_cons_self
      rw [mapInfo, mapInfo, hinfo, mapInfoAll_congr fun n hn => h n (List.mem_cons_of_mem _ hn)]

theorem mapInfoAll_congr {above ts : List Tree}
    (h : ∀ n ∈ walkAll above ts, f n.info = g n.info) : mapInfoAll f ts = mapInfoAll g ts := by
  cases ts with
  | nil => rfl
  | cons t ts =>
      rw [walkAll] at h
      rw [mapInfoAll, mapInfoAll, mapInfo_congr fun n hn => h n (List.mem_append_left _ hn),
        mapInfoAll_congr fun n hn => h n (List.mem_append_right _ hn)]

end

mutual

@[simp] theorem size_mapInfo (f : NodeInfo → NodeInfo) (t : Tree) :
    (t.mapInfo f).size = t.size := by
  cases t with
  | node info ts => rw [mapInfo, size, size, sizes_mapInfoAll]

@[simp] theorem sizes_mapInfoAll (f : NodeInfo → NodeInfo) (ts : List Tree) :
    sizes (mapInfoAll f ts) = sizes ts := by
  cases ts with
  | nil => rfl
  | cons t ts => rw [mapInfoAll, sizes, sizes, size_mapInfo, sizes_mapInfoAll]

end

mutual

/-- Two trees that one replacement makes equal are made equal by another one too, if that makes
equal what their nodes carry. -/
theorem mapInfo_eq_of_map_info_eq {above below : List Tree} {t s : Tree}
    (hshape : t.mapInfo f = s.mapInfo f)
    (h : (t.walk above).map (fun n => g n.info) = (s.walk below).map fun n => g n.info) :
    t.mapInfo g = s.mapInfo g := by
  cases t with
  | node info ts =>
      cases s with
      | node other ss =>
          rw [mapInfo, mapInfo, node.injEq] at hshape
          rw [walk, walk, List.map_cons, List.map_cons, List.cons.injEq] at h
          rw [mapInfo, mapInfo, node.injEq]
          exact ⟨h.1, mapInfoAll_eq_of_map_info_eq hshape.2 h.2⟩

theorem mapInfoAll_eq_of_map_info_eq {above below ts ss : List Tree}
    (hshape : mapInfoAll f ts = mapInfoAll f ss)
    (h : (walkAll above ts).map (fun n => g n.info) = (walkAll below ss).map fun n => g n.info) :
    mapInfoAll g ts = mapInfoAll g ss := by
  cases ts with
  | nil =>
      cases ss with
      | nil => rfl
      | cons s ss => cases hshape
  | cons t ts =>
      cases ss with
      | nil => cases hshape
      | cons s ss =>
          rw [mapInfoAll, mapInfoAll, List.cons.injEq] at hshape
          have hsize : (t.walk above).length = (s.walk below).length := by
            rw [length_walk, length_walk, ← size_mapInfo f t, hshape.1, size_mapInfo]
          rw [walkAll, walkAll, List.map_append, List.map_append] at h
          obtain ⟨hfirst, hrest⟩ :=
            List.append_inj h (by rw [List.length_map, List.length_map, hsize])
          rw [mapInfoAll, mapInfoAll, mapInfo_eq_of_map_info_eq hshape.1 hfirst,
            mapInfoAll_eq_of_map_info_eq hshape.2 hrest]

end

end Tree

namespace Node

@[simp] theorem tree_mapInfo (f : NodeInfo → NodeInfo) (n : Node) :
    (n.mapInfo f).tree = n.tree.mapInfo f :=
  rfl

@[simp] theorem above_mapInfo (f : NodeInfo → NodeInfo) (n : Node) :
    (n.mapInfo f).above = n.above.map (Tree.mapInfo f) :=
  rfl

@[simp] theorem mapInfo_self (n : Node) : n.mapInfo (fun i => i) = n := by
  have habove : n.above.map (Tree.mapInfo fun i => i) = n.above :=
    (List.map_congr_left fun t _ => t.mapInfo_self).trans (List.map_id' n.above)
  simp [mapInfo, habove]

@[simp] theorem info_mapInfo (f : NodeInfo → NodeInfo) (n : Node) :
    (n.mapInfo f).info = f n.info := by
  simp [info]

@[simp] theorem children_mapInfo (f : NodeInfo → NodeInfo) (n : Node) :
    (n.mapInfo f).children = n.children.map (mapInfo f) := by
  simp [children, mapInfo, Function.comp_def]

@[simp] theorem descendants_mapInfo (f : NodeInfo → NodeInfo) (n : Node) :
    (n.mapInfo f).descendants = n.descendants.map (mapInfo f) :=
  Tree.walk_mapInfo f n.above n.tree

@[simp] theorem parent?_mapInfo (f : NodeInfo → NodeInfo) (n : Node) :
    (n.mapInfo f).parent? = n.parent?.map (mapInfo f) := by
  obtain ⟨t, above⟩ := n
  cases above <;> rfl

@[simp] theorem ancestors_mapInfo (f : NodeInfo → NodeInfo) (n : Node) :
    (n.mapInfo f).ancestors = n.ancestors.map (mapInfo f) := by
  rw [ancestors, ancestors, above_mapInfo]
  induction n.above with
  | nil => rfl
  | cons t rest ih =>
      rw [List.map_cons, enclosing, enclosing, List.map_cons, ih]
      rfl

section KeepsShape

variable (hf : NodeInfo.KeepsShape f) (n : Node)
include hf

@[simp] theorem id_mapInfo : (n.mapInfo f).id = n.id := by
  simp [id, hf.id]

@[simp] theorem kind_mapInfo : (n.mapInfo f).kind = n.kind := by
  simp [kind, hf.kind]

@[simp] theorem role_mapInfo : (n.mapInfo f).role = n.role := by
  simp [role, hf.role]

@[simp] theorem span_mapInfo : (n.mapInfo f).span = n.span := by
  simp [span, hf.span]

omit hf in
@[simp] theorem text_mapInfo (hf : NodeInfo.KeepsSyntax f) (n : Node) :
    (n.mapInfo f).text = n.text := by
  simp [text, hf.text]

@[simp] theorem isToken_mapInfo : (n.mapInfo f).isToken = n.isToken :=
  Tree.isToken_mapInfo hf n.tree

@[simp] theorem same_mapInfo (m : Node) : (n.mapInfo f).same (m.mapInfo f) = n.same m := by
  simp [same, hf]

@[simp] theorem childNodes_mapInfo : (n.mapInfo f).childNodes = n.childNodes.map (mapInfo f) := by
  simp [childNodes, List.filter_map, Function.comp_def, hf]

@[simp] theorem childrenInRole_mapInfo (r : String) :
    (n.mapInfo f).childrenInRole r = (n.childrenInRole r).map (mapInfo f) := by
  simp [childrenInRole, List.filter_map, Function.comp_def, hf]

@[simp] theorem childInRole?_mapInfo (r : String) :
    (n.mapInfo f).childInRole? r = (n.childInRole? r).map (mapInfo f) := by
  simp only [childInRole?, children_mapInfo, List.find?_map, Function.comp_def, role_mapInfo hf]

@[simp] theorem childOfKind?_mapInfo (k : String) :
    (n.mapInfo f).childOfKind? k = (n.childOfKind? k).map (mapInfo f) := by
  simp only [childOfKind?, children_mapInfo, List.find?_map, Function.comp_def, kind_mapInfo hf]

@[simp] theorem firstToken?_mapInfo :
    (n.mapInfo f).firstToken? = n.firstToken?.map (mapInfo f) := by
  simp only [firstToken?, descendants_mapInfo, List.find?_map, Function.comp_def,
    isToken_mapInfo hf]

@[simp] theorem lastToken?_mapInfo : (n.mapInfo f).lastToken? = n.lastToken?.map (mapInfo f) :=
  Tree.lastToken?_mapInfo hf n.above n.tree

end KeepsShape

end Node
end Syntax
end TreeLint
