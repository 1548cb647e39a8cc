import Mathlib.Data.List.Basic
import TreeLint.Grammar.Expression
import TreeLint.Proofs.Syntax.Wrapping

/-!
# Questions from node to node

A grammar answers questions about an expression by going down its tree. Seen from a node, each
answer is one about the node itself and the answers for some of its children, so that what is true
of the answers can be shown by going from the children of a node to the node.

**Results.**
* `unparenthesized_eq`, `identifier?_eq`, `symbol?_eq`, `targetsAt_eq`: the way down.
* `climb_eq`: the way up.
-/

namespace TreeLint
namespace Grammar

open Syntax Symbols Source

variable {β : Type} {f : Node → β}

theorem join_map {α : Type} (f : α → Option β) (o : Option α) : (o.map f).join = o.bind f := by
  cases o <;> rfl

section Children

variable {n : Node} {q : Node → Bool} {F : List Tree → Option β}

/-- A search for the first of some trees is one among the children of a node. -/
theorem eq_map_find?_children (hnil : F [] = none)
    (hcons : ∀ t ts, F (t :: ts) =
      if q ⟨t, n.tree :: n.above⟩ then some (f ⟨t, n.tree :: n.above⟩) else F ts) :
    F n.tree.children = (n.children.find? q).map f := by
  rw [Node.children]
  induction n.tree.children with
  | nil => exact hnil
  | cons t ts ih =>
      rw [hcons, List.map_cons, List.find?_cons, ih]
      cases q ⟨t, n.tree :: n.above⟩ <;> rfl

/-- A search for the last of some trees is one among the children of a node. -/
theorem eq_map_getLast?_childNodes (hnil : F [] = none)
    (hcons : ∀ t ts, F (t :: ts) =
      (F ts).or (if t.isToken then none else some (f ⟨t, n.tree :: n.above⟩))) :
    F n.tree.children = n.childNodes.getLast?.map f := by
  rw [Node.childNodes, Node.children]
  induction n.tree.children with
  | nil => exact hnil
  | cons t ts ih =>
      have htoken : Node.isToken ⟨t, n.tree :: n.above⟩ = t.isToken := rfl
      rw [hcons, List.map_cons, List.filter_cons, ih, htoken]
      cases t.isToken with
      | true => exact Option.or_none
      | false =>
          simp only [Bool.not_false, if_true, List.getLast?_cons]
          cases (List.filter (fun c : Node => !c.isToken) (ts.map _)).getLast? <;> rfl

theorem head?_childNodes (n : Node) :
    n.childNodes.head? = n.children.find? fun c => !c.isToken :=
  List.head?_filter

/-- A search for the first tree that is not a token. -/
theorem eq_map_head?_childNodes (hnil : F [] = none)
    (hcons : ∀ t ts, F (t :: ts) =
      if t.isToken then F ts else some (f ⟨t, n.tree :: n.above⟩)) :
    F n.tree.children = n.childNodes.head?.map f := by
  rw [head?_childNodes]
  apply eq_map_find?_children hnil
  intro t ts
  have htoken : Node.isToken ⟨t, n.tree :: n.above⟩ = t.isToken := rfl
  cases hkind : t.isToken <;> simp [hcons, htoken, hkind]

end Children

variable (g : Grammar) (u : SourceUnit) (n : Node)

/-! ## The way down -/

/-- The expression inside parentheses is that inside the parentheses of the first child. -/
theorem unparenthesized_eq :
    g.unparenthesized n =
      if n.isAny g.parenthesized then (n.childNodes.head?.map g.unparenthesized).getD n else n := by
  have hfirst : stripFirst g (n.tree :: n.above) n.tree.children =
      n.childNodes.head?.map g.unparenthesized :=
    eq_map_head?_childNodes (by rw [stripFirst]) fun t ts => by rw [stripFirst]; rfl
  obtain ⟨⟨info, ts⟩, above⟩ := n
  rw [← hfirst, unparenthesized, strip]
  rfl

theorem unparenthesized_mem_descendants : g.unparenthesized n ∈ n.descendants := by
  induction n using Node.induction with
  | h n ih =>
      rw [unparenthesized_eq]
      split
      · cases hfirst : n.childNodes.head? with
        | none => exact n.mem_descendants_self
        | some c =>
            have hc : c ∈ n.children := Node.mem_children_of_head?_childNodes hfirst
            exact Node.mem_descendants_trans (ih c hc) (Node.mem_descendants_of_mem_children hc)
      · exact n.mem_descendants_self

/-- The identifier of a node is the node itself, that of the last child of an access, a token among
the children, or that of the first header among them. -/
theorem identifier?_eq :
    g.identifier? n =
      if n.isAny g.identifierToken then some n
      else if n.isAny g.memberAccess then n.childNodes.getLast?.bind g.identifier?
      else (n.children.find? fun c => c.isAny g.identifierToken).or
        ((n.children.find? fun c => !c.isToken && c.isAny g.namedHeader).bind g.identifier?) := by
  have hlast : identifierOfLast? g (n.tree :: n.above) n.tree.children =
      n.childNodes.getLast?.map g.identifier? :=
    eq_map_getLast?_childNodes (by rw [identifierOfLast?]) fun t ts => by
      rw [identifierOfLast?]
      cases identifierOfLast? g (n.tree :: n.above) ts <;> rfl
  have hheader : identifierOfHeader? g (n.tree :: n.above) n.tree.children =
      (n.children.find? fun c => !c.isToken && c.isAny g.namedHeader).map g.identifier? :=
    eq_map_find?_children (by rw [identifierOfHeader?]) fun t ts => by
      rw [identifierOfHeader?]
      rfl
  obtain ⟨⟨info, ts⟩, above⟩ := n
  rw [← join_map, ← join_map, ← hlast, ← hheader, identifier?, identifierIn?]
  show ite _ _ (ite _ _ _) = ite _ _ (ite _ _ _)
  congr 2
  cases (Node.mk (.node info ts) above).children.find? fun c => c.isAny g.identifierToken <;> rfl

/-- The symbol of an expression is that inside parentheses, or its own, or that of the last child
of an access, or that of the token of a simple name. -/
theorem symbol?_eq :
    g.symbol? u n =
      ((if n.isAny g.parenthesized then n.childNodes.head? else none).map (g.symbol? u)).getD
        ((u.reference? n).or
          (if n.isAny g.memberAccess then n.childNodes.getLast?.bind (g.symbol? u)
          else g.nameSymbol? u n)) := by
  have hfirst : symbolOfFirst? g u (n.tree :: n.above) n.tree.children =
      n.childNodes.head?.map (g.symbol? u) :=
    eq_map_head?_childNodes (by rw [symbolOfFirst?]) fun t ts => by rw [symbolOfFirst?]; rfl
  have hlast : symbolOfLast? g u (n.tree :: n.above) n.tree.children =
      n.childNodes.getLast?.map (g.symbol? u) :=
    eq_map_getLast?_childNodes (by rw [symbolOfLast?]) fun t ts => by
      rw [symbolOfLast?]
      cases symbolOfLast? g u (n.tree :: n.above) ts <;> rfl
  have hinside : (if n.isAny g.parenthesized then n.childNodes.head? else none).map (g.symbol? u) =
      if n.isAny g.parenthesized then symbolOfFirst? g u (n.tree :: n.above) n.tree.children
      else none := by
    rw [hfirst]
    split <;> rfl
  obtain ⟨⟨info, ts⟩, above⟩ := n
  rw [hinside, ← join_map, ← hlast, symbol?, symbolIn?]
  show _ = Option.getD (ite (g.parenthesized.contains info.kind = true)
    (symbolOfFirst? g u (.node info ts :: above) ts) none) _
  dsimp only
  cases (ite (g.parenthesized.contains info.kind = true)
    (symbolOfFirst? g u (.node info ts :: above) ts) none) with
  | some found => rfl
  | none => cases u.reference? ⟨.node info ts, above⟩ <;> rfl

/-- The expressions that an assignment to a node changes. -/
def targetsAt : List Node :=
  targetsIn g n.above n.tree

theorem targets_eq : g.targets n = ((g.left? n).map (targetsAt g)).getD [] := by
  rw [targets]
  cases g.left? n <;> rfl

/-- An assignment to an argument changes what one to its expression does. -/
theorem targetsOfArgument_eq :
    targetsOfArgument g n.above n.tree =
      ((argumentExpression? n).map (targetsAt g)).getD [] := by
  have hrole : targetsInRole? g (n.tree :: n.above) n.tree.children =
      (n.childInRole? expressionRole).map (targetsAt g) :=
    eq_map_find?_children (by rw [targetsInRole?]) fun t ts => by rw [targetsInRole?]; rfl
  have hlast : targetsOfLast? g (n.tree :: n.above) n.tree.children =
      n.childNodes.getLast?.map (targetsAt g) :=
    eq_map_getLast?_childNodes (by rw [targetsOfLast?]) fun t ts => by
      rw [targetsOfLast?]
      cases targetsOfLast? g (n.tree :: n.above) ts <;> rfl
  have hexpression : (argumentExpression? n).map (targetsAt g) =
      (targetsInRole? g (n.tree :: n.above) n.tree.children).or
        (targetsOfLast? g (n.tree :: n.above) n.tree.children) := by
    rw [hrole, hlast, argumentExpression?]
    cases n.childInRole? expressionRole <;> rfl
  obtain ⟨⟨info, ts⟩, above⟩ := n
  rw [hexpression, targetsOfArgument]
  show _ = Option.getD (Option.or (targetsInRole? g (.node info ts :: above) ts) _) []
  cases targetsInRole? g (.node info ts :: above) ts <;> rfl

/-- Parentheses and tuples are gone through, and a pattern stands for its variables. -/
theorem targetsAt_eq :
    targetsAt g n =
      if n.isAny g.parenthesized then (n.childNodes.head?.map (targetsAt g)).getD [n]
      else if n.isAny g.tuple then
        (n.childNodes.filter fun c => c.isAny g.argument).flatMap fun a =>
          ((argumentExpression? a).map (targetsAt g)).getD []
      else if n.isAny g.declarationPattern then
        n.descendants.filter fun d => d.isAny g.variableDesignation
      else [n] := by
  have hfirst : targetsOfFirst? g (n.tree :: n.above) n.tree.children =
      n.childNodes.head?.map (targetsAt g) :=
    eq_map_head?_childNodes (by rw [targetsOfFirst?]) fun t ts => by rw [targetsOfFirst?]; rfl
  have harguments : targetsOfArguments g (n.tree :: n.above) n.tree.children =
      (n.childNodes.filter fun c => c.isAny g.argument).flatMap fun a =>
        ((argumentExpression? a).map (targetsAt g)).getD [] := by
    rw [Node.childNodes, Node.children]
    induction n.tree.children with
    | nil => rw [targetsOfArguments]; rfl
    | cons t ts ih =>
        have hargument := g.targetsOfArgument_eq ⟨t, n.tree :: n.above⟩
        have htoken : Node.isToken ⟨t, n.tree :: n.above⟩ = t.isToken := rfl
        have hkind : Node.isAny ⟨t, n.tree :: n.above⟩ g.argument =
            g.argument.contains t.info.kind := rfl
        rw [targetsOfArguments, ih, List.map_cons, List.filter_cons, htoken]
        cases t.isToken with
        | true => rfl
        | false =>
            simp only [Bool.not_false, Bool.true_and, if_true, List.filter_cons, hkind]
            cases g.argument.contains t.info.kind with
            | true =>
                rw [if_pos rfl, if_pos rfl, List.flatMap_cons, ← hargument]
            | false => rfl
  obtain ⟨⟨info, ts⟩, above⟩ := n
  rw [← hfirst, ← harguments, targetsAt, targetsIn]
  rfl

/-! ## The way up -/

/-- A climb goes on from the parent if the node is a name of it or stands in parentheses. -/
theorem climb_eq :
    g.climb n =
      match n.parent? with
      | none => n
      | some p => if g.isAccessedName p n || p.isAny g.parenthesized then g.climb p else n := by
  obtain ⟨t, above⟩ := n
  cases above <;> rfl

end Grammar
end TreeLint
