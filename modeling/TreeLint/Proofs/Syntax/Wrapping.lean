import Mathlib.Data.List.Basic
import Mathlib.Data.List.Flatten
import Mathlib.Data.List.Nodup
import TreeLint.Proofs.Syntax.Tables

/-!
# Trees with more parentheses

Nodes of a tree can be put between parentheses: a new node takes the place and the role of such a
node, and holds it between tokens. So there are two images of a node in the new tree. One is the
node itself, with whatever is put between parentheses below it; the other one is what stands in its
place, with the new parentheses if there are some. The children of the first image of a node are the
second images of its children.

**Results.**
* `Node.children_inner`, `Node.parent?_outer`: the way down and the way up.
* `Node.childNodes_outer`: new parentheses hold one node.
* `Node.flatMap_descendants_outer`: what is collected from all nodes of the new tree.
* `Node.map_outer_sublist_descendants`: the nodes of the new tree keep the order of the old one.
* `Node.same_outer`: nodes are told apart by their numbers as before.
-/

namespace TreeLint
namespace Syntax

/-- The kind of nodes that hold an expression between parentheses. -/
def parenthesizedKind : String :=
  "ParenthesizedExpression"

/-- What is put around a node: the number and the place of a new node, the tokens that it has in
front of the old one and behind it, and the role of the old one in it. -/
structure Parens where
  id : NodeId
  span : Span
  inside : Option String
  opening : List NodeInfo
  closing : List NodeInfo
  isToken_of_mem : ∀ i ∈ opening ++ closing, isTokenKind i.kind = true

/-- What is put around the nodes of a tree, and their numbers and places afterwards. -/
structure Wrapping where
  number : NodeInfo → NodeId
  span : NodeInfo → Span
  parens? : NodeInfo → Option Parens
  parens?_of_isToken : ∀ i, isTokenKind i.kind = true → parens? i = none

/-- What a node carries of which nothing is known but its kind. -/
def NodeInfo.ofKind (id : NodeId) (kind : String) (span : Span) : NodeInfo :=
  ⟨id, kind, none, none, span, [], [], none, none, none, none⟩

/-- What the new node carries: nothing is known about its meaning. -/
def Parens.info (p : Parens) (role : Option String) : NodeInfo :=
  { NodeInfo.ofKind p.id parenthesizedKind p.span with role := role }

/-- Parentheses as they are written, between an opening and a closing token. -/
def Parens.written (id opening closing : NodeId) (span : Span) : Parens where
  id := id
  span := span
  inside := none
  opening := [{ NodeInfo.ofKind opening "OpenParenToken" span with text := some "(" }]
  closing := [{ NodeInfo.ofKind closing "CloseParenToken" span with text := some ")" }]
  isToken_of_mem := by
    intro i hi
    rcases List.mem_cons.mp hi with rfl | hi
    · show isTokenKind "OpenParenToken" = true
      rfl
    · rw [List.mem_singleton.mp hi]
      show isTokenKind "CloseParenToken" = true
      rfl

theorem Parens.kind_of_mem_written {id opening closing : NodeId} {span : Span} {i : NodeInfo}
    (h : i ∈ (written id opening closing span).opening ++
      (written id opening closing span).closing) :
    i.kind = "OpenParenToken" ∨ i.kind = "CloseParenToken" := by
  rcases List.mem_cons.mp h with rfl | h
  · exact .inl rfl
  · rw [List.mem_singleton.mp h]
    exact .inr rfl

/-- A tree between parentheses. -/
def Parens.around (p : Parens) (role : Option String) (t : Tree) : Tree :=
  .node (p.info role)
    (p.opening.map (Tree.node · []) ++ t :: p.closing.map (Tree.node · []))

namespace Wrapping

variable (w : Wrapping)

/-- What a node of the old tree carries in the new one. -/
def info (i : NodeInfo) : NodeInfo :=
  { i with
    id := w.number i
    span := w.span i
    role := match w.parens? i with
      | none => i.role
      | some p => p.inside }

/-- Puts parentheses around a tree if the node it comes from is to have some. -/
def enclose (i : NodeInfo) (t : Tree) : Tree :=
  match w.parens? i with
  | none => t
  | some p => p.around i.role t

/-- Whether a node is put between parentheses. -/
def wraps (n : Node) : Bool :=
  (w.parens? n.info).isSome

/-- Parentheses around the nodes of some numbers, as far as they are not tokens. -/
def around (parens : List (NodeId × Parens)) (number : NodeInfo → NodeId)
    (span : NodeInfo → Span) : Wrapping where
  number := number
  span := span
  parens? := fun i => if isTokenKind i.kind then none else parens.lookup i.id
  parens?_of_isToken := fun _ hi => if_pos hi

end Wrapping

mutual

/-- The tree with parentheses put around some of its nodes. -/
def Tree.wrap (w : Wrapping) : Tree → Tree
  | .node info children => w.enclose info (.node (w.info info) (Tree.wrapAll w children))

def Tree.wrapAll (w : Wrapping) : List Tree → List Tree
  | [] => []
  | t :: ts => t.wrap w :: Tree.wrapAll w ts

end

namespace Tree

variable (w : Wrapping)

/-- The tree with parentheses put around some of the nodes below its root. -/
def wrapInside (t : Tree) : Tree :=
  .node (w.info t.info) (t.children.map (wrap w))

/-- The new trees in which the root of a tree stands, innermost first. -/
def layers (t : Tree) : List Tree :=
  t.wrapInside w :: match w.parens? t.info with
    | none => []
    | some _ => [t.wrap w]

theorem wrapAll_eq_map (ts : List Tree) : wrapAll w ts = ts.map (wrap w) := by
  induction ts with
  | nil => rfl
  | cons t ts ih => rw [wrapAll, ih, List.map_cons]

theorem wrap_eq_enclose (t : Tree) : t.wrap w = w.enclose t.info (t.wrapInside w) := by
  cases t
  rw [wrap, wrapInside, wrapAll_eq_map]
  rfl

mutual

theorem node_induction {P : Node → Prop} (h : ∀ n : Node, (∀ c ∈ n.children, P c) → P n)
    (above : List Tree) (t : Tree) : P ⟨t, above⟩ := by
  cases t with
  | node info ts => exact h _ (node_inductionAll h (.node info ts :: above) ts)

theorem node_inductionAll {P : Node → Prop} (h : ∀ n : Node, (∀ c ∈ n.children, P c) → P n)
    (above ts : List Tree) : ∀ c ∈ ts.map (fun t => (⟨t, above⟩ : Node)), P c := by
  cases ts with
  | nil =>
      intro c hc
      cases hc
  | cons t ts =>
      intro c hc
      rcases List.mem_cons.mp hc with rfl | hc
      · exact node_induction h above t
      · exact node_inductionAll h above ts c hc

end

end Tree

namespace Node

/-- The node itself in the new tree. -/
def inner (w : Wrapping) (n : Node) : Node :=
  ⟨n.tree.wrapInside w, (n.tree.layers w).tail ++ n.above.flatMap (Tree.layers w)⟩

/-- What stands in the new tree in the place of a node. -/
def outer (w : Wrapping) (n : Node) : Node :=
  ⟨n.tree.wrap w, n.above.flatMap (Tree.layers w)⟩

/-- A statement holds of all nodes if it holds of a node whenever it holds of the children. -/
theorem induction {P : Node → Prop} (h : ∀ n, (∀ c ∈ n.children, P c) → P n) (n : Node) : P n := by
  exact Tree.node_induction h n.above n.tree

/-- A statement holds of all nodes if it holds of a node whenever it holds of all nodes below. -/
theorem strong_induction {P : Node → Prop}
    (h : ∀ n, (∀ c ∈ n.children, ∀ m ∈ c.descendants, P m) → P n) (n : Node) : P n := by
  have hall : ∀ m ∈ n.descendants, P m := by
    induction n using Node.induction with
    | h n ih =>
        intro m hm
        rw [descendants_eq_cons_flatMap, List.mem_cons, List.mem_flatMap] at hm
        rcases hm with rfl | ⟨c, hc, hm⟩
        · exact h m ih
        · exact ih c hc m hm
  exact hall n n.mem_descendants_self

variable {w : Wrapping} {n : Node}

theorem wraps_eq_false_iff : w.wraps n = false ↔ w.parens? n.info = none := by
  simp [Wrapping.wraps]

theorem wraps_eq_true_of_parens? {p : Parens} (h : w.parens? n.info = some p) :
    w.wraps n = true := by
  rw [Wrapping.wraps, h]
  rfl

theorem mem_of_parens?_around {parens : List (NodeId × Parens)} {number : NodeInfo → NodeId}
    {span : NodeInfo → Span} {p : Parens}
    (h : (Wrapping.around parens number span).parens? n.info = some p) : (n.id, p) ∈ parens := by
  rw [Wrapping.around] at h
  dsimp only at h
  split at h
  · cases h
  · obtain ⟨before, behind, rfl, -⟩ := List.lookup_eq_some_iff.mp h
    exact List.mem_append_right _ List.mem_cons_self

theorem id_mem_of_wraps_around {parens : List (NodeId × Parens)} {number : NodeInfo → NodeId}
    {span : NodeInfo → Span} (h : (Wrapping.around parens number span).wraps n = true) :
    n.id ∈ parens.map Prod.fst := by
  obtain ⟨p, hp⟩ := Option.isSome_iff_exists.mp h
  exact List.mem_map_of_mem (mem_of_parens?_around hp)

/-! ## What a node becomes -/

@[simp] theorem info_inner : (n.inner w).info = w.info n.info :=
  rfl

@[simp] theorem kind_inner : (n.inner w).kind = n.kind :=
  rfl

@[simp] theorem isToken_inner : (n.inner w).isToken = n.isToken :=
  rfl

/-- A node without new parentheses has one image. -/
theorem outer_eq_inner (h : w.wraps n = false) : n.outer w = n.inner w := by
  rw [wraps_eq_false_iff, info] at h
  rw [outer, inner, Tree.wrap_eq_enclose, Wrapping.enclose, Tree.layers, h]
  rfl

theorem isToken_eq_false_of_wraps (h : w.wraps n = true) : n.isToken = false := by
  cases htoken : n.isToken with
  | false => rfl
  | true =>
      have hnone := w.parens?_of_isToken n.info htoken
      rw [Wrapping.wraps, hnone] at h
      cases h

section Wrapped

variable {p : Parens} (h : w.parens? n.info = some p)
include h

theorem tree_outer : (n.outer w).tree = p.around n.role (n.tree.wrapInside w) := by
  rw [info] at h
  rw [outer, Tree.wrap_eq_enclose, Wrapping.enclose, h]
  rfl

theorem info_outer : (n.outer w).info = p.info n.role := by
  rw [info, tree_outer h]
  rfl

/-- New parentheses hold the node, and their marks in front of it and behind it. -/
theorem exists_children_outer :
    ∃ before behind, (n.outer w).children = before ++ n.inner w :: behind ∧
      ∀ m ∈ before ++ behind, m.info ∈ p.opening ++ p.closing ∧ m.children = [] := by
  have hinner :
      n.inner w = ⟨n.tree.wrapInside w, (n.outer w).tree :: (n.outer w).above⟩ := by
    rw [info] at h
    rw [inner, Tree.layers, h]
    rfl
  refine ⟨p.opening.map fun i => ⟨.node i [], (n.outer w).tree :: (n.outer w).above⟩,
    p.closing.map fun i => ⟨.node i [], (n.outer w).tree :: (n.outer w).above⟩, ?_, ?_⟩
  · rw [children, tree_outer h, Parens.around, Tree.children, List.map_append, List.map_cons,
      List.map_map, List.map_map, hinner, tree_outer h]
    rfl
  · intro m hm
    rw [← List.map_append] at hm
    obtain ⟨i, hi, rfl⟩ := List.mem_map.mp hm
    exact ⟨hi, rfl⟩

theorem parent?_inner : (n.inner w).parent? = some (n.outer w) := by
  rw [info] at h
  rw [inner, Tree.layers, h]
  rfl

end Wrapped

theorem kind_outer (h : w.wraps n = true) : (n.outer w).kind = parenthesizedKind := by
  obtain ⟨p, hp⟩ := Option.isSome_iff_exists.mp h
  rw [kind, info_outer hp]
  rfl

@[simp] theorem isToken_outer : (n.outer w).isToken = n.isToken := by
  cases h : w.wraps n with
  | false => rw [outer_eq_inner h, isToken_inner]
  | true =>
      have hkind : isTokenKind (n.outer w).kind = false := by
        rw [kind_outer h]
        decide
      rw [isToken_eq_false_of_wraps h]
      exact hkind

@[simp] theorem role_outer : (n.outer w).role = n.role := by
  cases h : w.parens? n.info with
  | none =>
      rw [outer_eq_inner (wraps_eq_false_iff.mpr h), role, info_inner, Wrapping.info, h]
      rfl
  | some p =>
      rw [role, info_outer h]
      rfl

/-- Of the children of new parentheses only the node is not a token. -/
theorem childNodes_outer (h : w.wraps n = true) : (n.outer w).childNodes = [n.inner w] := by
  obtain ⟨p, hp⟩ := Option.isSome_iff_exists.mp h
  obtain ⟨before, behind, hchildren, hmarks⟩ := exists_children_outer hp
  have hnone : ∀ ms : List Node, ms ⊆ before ++ behind →
      (ms.filter fun c => !c.isToken) = [] := by
    intro ms hms
    apply List.filter_eq_nil_iff.mpr
    intro m hm
    have htoken : m.isToken = true := p.isToken_of_mem m.info (hmarks m (hms hm)).1
    simp [htoken]
  simp [childNodes, hchildren, hnone before (List.subset_append_left before behind),
    hnone behind (List.subset_append_right before behind), isToken_eq_false_of_wraps h]

/-! ## The way down and the way up -/

@[simp] theorem children_inner (w : Wrapping) (n : Node) :
    (n.inner w).children = n.children.map (outer w) := by
  rw [children, children, List.map_map]
  show (n.tree.children.map (Tree.wrap w)).map _ = _
  rw [List.map_map]
  apply List.map_congr_left
  intro t _
  rw [Function.comp_apply, Function.comp_apply, outer, List.flatMap_cons]
  rfl

@[simp] theorem parent?_outer (w : Wrapping) (n : Node) :
    (n.outer w).parent? = n.parent?.map (inner w) := by
  obtain ⟨t, above⟩ := n
  cases above <;> rfl

@[simp] theorem childNodes_inner (w : Wrapping) (n : Node) :
    (n.inner w).childNodes = n.childNodes.map (outer w) := by
  simp only [childNodes, children_inner, List.filter_map, Function.comp_def, isToken_outer]

@[simp] theorem childrenInRole_inner (w : Wrapping) (n : Node) (r : String) :
    (n.inner w).childrenInRole r = (n.childrenInRole r).map (outer w) := by
  simp only [childrenInRole, children_inner, List.filter_map, Function.comp_def, role_outer]

@[simp] theorem childInRole?_inner (w : Wrapping) (n : Node) (r : String) :
    (n.inner w).childInRole? r = (n.childInRole? r).map (outer w) := by
  simp only [childInRole?, children_inner, List.find?_map, Function.comp_def, role_outer]

section Spared

variable (h : ∀ c ∈ n.children, w.wraps c = false)
include h

/-- If no child is put between parentheses, the children become what they are. -/
theorem children_inner_of_not_wraps : (n.inner w).children = n.children.map (inner w) := by
  simpa using List.map_congr_left fun c hc => outer_eq_inner (h c hc)

theorem childNodes_inner_of_not_wraps : (n.inner w).childNodes = n.childNodes.map (inner w) := by
  rw [childNodes_inner]
  exact List.map_congr_left fun c hc => outer_eq_inner (h c (List.filter_sublist.subset hc))

theorem childrenInRole_inner_of_not_wraps (r : String) :
    (n.inner w).childrenInRole r = (n.childrenInRole r).map (inner w) := by
  rw [childrenInRole_inner]
  exact List.map_congr_left fun c hc => outer_eq_inner (h c (List.filter_sublist.subset hc))

theorem childInRole?_inner_of_not_wraps (r : String) :
    (n.inner w).childInRole? r = (n.childInRole? r).map (inner w) := by
  rw [childInRole?_inner]
  cases hfound : n.childInRole? r with
  | none => rfl
  | some c => exact congrArg some (outer_eq_inner (h c (List.mem_of_find?_eq_some hfound)))

theorem childOfKind?_inner_of_not_wraps (k : String) :
    (n.inner w).childOfKind? k = (n.childOfKind? k).map (inner w) := by
  rw [childOfKind?, children_inner_of_not_wraps h, List.find?_map]
  rfl

end Spared

/-! ## Walks -/

section Collecting

variable {α : Type} {f : Node → List α}

theorem flatMap_descendants_inner_of_children
    (h : ∀ c ∈ n.children,
      (c.outer w).descendants.flatMap f = c.descendants.flatMap fun m => f (m.inner w)) :
    (n.inner w).descendants.flatMap f = n.descendants.flatMap fun m => f (m.inner w) := by
  rw [descendants_eq_cons_flatMap, descendants_eq_cons_flatMap n, List.flatMap_cons,
    List.flatMap_cons, List.flatMap_assoc, List.flatMap_assoc, children_inner, List.flatMap_map,
    List.flatMap_congr h]

variable (hparens : ∀ m : Node, m.kind = parenthesizedKind → f m = [])
  (htoken : ∀ m : Node, m.isToken = true → f m = [])
include hparens htoken

/-- What is collected from the nodes of the new tree is what is collected from the images of the
old nodes, if there is nothing to collect from parentheses and tokens. -/
theorem flatMap_descendants_outer (n : Node) :
    (n.outer w).descendants.flatMap f = n.descendants.flatMap fun m => f (m.inner w) := by
  induction n using Node.induction with
  | h n ih =>
      have hinner := flatMap_descendants_inner_of_children ih
      cases h : w.parens? n.info with
      | none => rw [outer_eq_inner (wraps_eq_false_iff.mpr h), hinner]
      | some p =>
          obtain ⟨before, behind, hchildren, hmarks⟩ := exists_children_outer h
          have hnone : ∀ ms : List Node, ms ⊆ before ++ behind →
              (ms.flatMap fun m => m.descendants.flatMap f) = [] := by
            intro ms hms
            rw [List.flatMap_eq_nil_iff]
            intro m hm
            obtain ⟨hinfo, hleaf⟩ := hmarks m (hms hm)
            simpa [descendants_eq_cons_flatMap, hleaf, List.flatMap_singleton]
              using htoken m (p.isToken_of_mem m.info hinfo)
          rw [descendants_eq_cons_flatMap, List.flatMap_cons,
            hparens _ (kind_outer (wraps_eq_true_of_parens? h)), List.nil_append,
            List.flatMap_assoc, hchildren, List.flatMap_append, List.flatMap_cons,
            hnone before (List.subset_append_left before behind),
            hnone behind (List.subset_append_right before behind), hinner, List.nil_append,
            List.append_nil]

theorem flatMap_descendants_inner (n : Node) :
    (n.inner w).descendants.flatMap f = n.descendants.flatMap fun m => f (m.inner w) :=
  flatMap_descendants_inner_of_children fun c _ => flatMap_descendants_outer hparens htoken c

end Collecting

/-- What stands in the place of the nodes of the old tree is met in the order of the old walk. -/
theorem map_outer_sublist_descendants (w : Wrapping) (n : Node) :
    (n.descendants.map (outer w)).Sublist (n.outer w).descendants := by
  induction n using Node.induction with
  | h n ih =>
      have hbelow : ((n.children.flatMap descendants).map (outer w)).Sublist
          ((n.inner w).children.flatMap descendants) := by
        simpa [List.flatMap_map, List.map_flatMap] using List.Sublist.flatMap_right n.children ih
      rw [descendants_eq_cons_flatMap n, descendants_eq_cons_flatMap (n.outer w), List.map_cons]
      apply List.Sublist.cons_cons
      cases h : w.parens? n.info with
      | none =>
          rw [outer_eq_inner (wraps_eq_false_iff.mpr h)]
          exact hbelow
      | some p =>
          have hmem : n.inner w ∈ (n.outer w).children := by
            obtain ⟨before, behind, hchildren, -⟩ := exists_children_outer h
            rw [hchildren]
            exact List.mem_append_right before List.mem_cons_self
          have hchild : (n.inner w).descendants.Sublist
              ((n.outer w).children.flatMap descendants) := by
            rw [List.flatMap_def]
            exact List.sublist_flatten_of_mem (List.mem_map_of_mem hmem)
          rw [descendants_eq_cons_flatMap] at hchild
          exact hbelow.trans ((List.sublist_cons_self _ _).trans hchild)

/-- A walk below which nothing is put between parentheses meets the nodes themselves. -/
theorem descendants_inner (h : ∀ c ∈ n.children, ∀ d ∈ c.descendants, w.wraps d = false) :
    (n.inner w).descendants = n.descendants.map (inner w) := by
  induction n using Node.induction with
  | h n ih =>
      rw [descendants_eq_cons_flatMap, descendants_eq_cons_flatMap n, List.map_cons,
        List.map_flatMap,
        children_inner_of_not_wraps fun c hc => h c hc c c.mem_descendants_self, List.flatMap_map]
      congr 1
      apply List.flatMap_congr
      intro c hc
      apply ih c hc
      intro d hd e he
      exact h c hc e (mem_descendants_trans he (mem_descendants_of_mem_children hd))

/-! ## Numbers -/

/-- What stands in the place of two nodes is the same node if and only if they are the same. -/
theorem same_outer {t : Tree} (ht : t.Numbered) (hw : (t.wrap w).Numbered) {a b : Node}
    (ha : a ∈ t.walk []) (hb : b ∈ t.walk []) : (a.outer w).same (b.outer w) = a.same b := by
  have hsub : ((t.walk []).map (outer w)).Sublist ((t.wrap w).walk []) :=
    map_outer_sublist_descendants w (root t)
  have hnodup := hw.nodup_ids.sublist (hsub.map Node.id)
  rw [List.map_map] at hnodup
  rw [Bool.eq_iff_iff, same, same, beq_iff_eq, beq_iff_eq]
  constructor
  · intro hid
    rw [List.inj_on_of_nodup_map hnodup ha hb hid]
  · intro hid
    rw [ht.eq_of_id_eq ha hb hid]

end Node
end Syntax
end TreeLint
