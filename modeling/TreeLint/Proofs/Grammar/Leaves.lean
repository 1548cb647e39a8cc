import TreeLint.Proofs.Grammar.Climbing

/-!
# The leaves of a left side

An assignment takes its left side apart. From an expression it goes on into the parentheses that the
expression may be, or to the expressions of the arguments if it is a tuple. Where neither is to be
had it stops, and what it has come to is changed, but a declaration pattern stands for the variables
that it introduces. All these are the leaves of the left side, and they are the targets of the
assignment.

**Results.**
* `length_lt_of_isChain_enters`: there is no long way into a left side.
* `isLeafOf_iff`: the leaves of an expression are its own or those of what it holds.
* `TellsParts.mem_targetsAt_iff`: the targets in an expression are its leaves.
* `targets_are_leaves`: the targets of an assignment, their order and what they are.
-/

namespace TreeLint

namespace Syntax
namespace Node

theorem size_lt_of_mem_children {n p : Node} (h : n ∈ p.children) : n.tree.size < p.tree.size := by
  have hpart : n.descendants.Sublist (p.children.flatMap descendants) := by
    rw [List.flatMap_def]
    exact List.sublist_flatten_of_mem (List.mem_map_of_mem h)
  have hlength := hpart.length_le
  rw [← Tree.length_walk n.above n.tree, ← Tree.length_walk p.above p.tree]
  show n.descendants.length < p.descendants.length
  rw [p.descendants_eq_cons_flatMap, List.length_cons]
  omega

end Node
end Syntax

namespace Grammar

open Syntax

variable {g : Grammar} {m n x y : Node}

/-! ## The way into a left side -/

/-- From an expression on a left side an assignment goes on to another one: from parentheses to what
they hold, from a tuple to the expression of an argument. -/
inductive Enters (g : Grammar) : Node → Node → Prop
  | parentheses {p c : Node} (h : g.IsHeldBy c p) : g.Enters p c
  | argument {x a e : Node} (htuple : x.isAny g.tuple = true) (ha : a ∈ x.childNodes)
      (hkind : a.isAny g.argument = true) (he : argumentExpression? a = some e) : g.Enters x e

/-- A node that an assignment does not take apart: no tuple, no declaration pattern, and parentheses
only if there are no nodes but tokens between them. -/
structure Undivided (g : Grammar) (m : Node) : Prop where
  tuple : m.isAny g.tuple = false
  pattern : m.isAny g.declarationPattern = false
  parenthesized : m.isAny g.parenthesized = true → m.childNodes = []

/-- A node is a leaf of an expression: it is reached and not taken apart, or it is a variable in a
declaration pattern that is reached. -/
inductive IsLeafOf (g : Grammar) (m x : Node) : Prop
  | expression (hreach : Relation.ReflTransGen g.Enters x m) (hend : g.Undivided m)
  | introduced {p : Node} (hreach : Relation.ReflTransGen g.Enters x p)
      (hpattern : p.isAny g.declarationPattern = true) (hbelow : m ∈ p.descendants)
      (hkind : m.isAny g.variableDesignation = true)

theorem enters_iff :
    g.Enters x y ↔ (x.isAny g.parenthesized = true ∧ x.childNodes.head? = some y) ∨
      (x.isAny g.tuple = true ∧ ∃ a ∈ x.childNodes, a.isAny g.argument = true ∧
        argumentExpression? a = some y) := by
  constructor
  · intro h
    cases h with
    | parentheses h => exact .inl h
    | argument htuple ha hkind he => exact .inr ⟨htuple, _, ha, hkind, he⟩
  · rintro (h | ⟨htuple, a, ha, hkind, he⟩)
    · exact .parentheses h
    · exact .argument htuple ha hkind he

theorem Enters.size_lt (h : g.Enters x y) : y.tree.size < x.tree.size := by
  cases h with
  | parentheses h => exact Node.size_lt_of_mem_children (Node.mem_children_of_head?_childNodes h.2)
  | argument _ ha _ he =>
      have hargument := Node.size_lt_of_mem_children (List.filter_sublist.subset ha)
      have hexpression := Node.size_lt_of_mem_children (mem_children_of_argumentExpression? he)
      omega

/-- A way into an expression has fewer steps than the expression has nodes. -/
theorem length_lt_of_isChain_enters {way : List Node} (h : List.IsChain g.Enters (x :: way)) :
    way.length < x.tree.size := by
  induction way generalizing x with
  | nil => exact x.tree.size_pos
  | cons y way ih =>
      obtain ⟨hstep, hrest⟩ := List.isChain_cons_cons.mp h
      have hlt := hstep.size_lt
      have hlength := ih hrest
      rw [List.length_cons]
      omega

/-- The leaves of an expression are those of what it holds, or itself, or its variables. -/
theorem isLeafOf_iff :
    g.IsLeafOf m x ↔
      (∃ y, g.Enters x y ∧ g.IsLeafOf m y) ∨ (m = x ∧ g.Undivided x) ∨
        (x.isAny g.declarationPattern = true ∧ m ∈ x.descendants ∧
          m.isAny g.variableDesignation = true) := by
  constructor
  · intro h
    cases h with
    | expression hreach hend =>
        rcases hreach.cases_head with rfl | ⟨y, hstep, hreach⟩
        · exact .inr (.inl ⟨rfl, hend⟩)
        · exact .inl ⟨y, hstep, .expression hreach hend⟩
    | introduced hreach hpattern hbelow hkind =>
        rcases hreach.cases_head with rfl | ⟨y, hstep, hreach⟩
        · exact .inr (.inr ⟨hpattern, hbelow, hkind⟩)
        · exact .inl ⟨y, hstep, .introduced hreach hpattern hbelow hkind⟩
  · rintro (⟨y, hstep, hleaf⟩ | ⟨rfl, hend⟩ | ⟨hpattern, hbelow, hkind⟩)
    · cases hleaf with
      | expression hreach hend => exact .expression (hreach.head hstep) hend
      | introduced hreach hpattern hbelow hkind =>
          exact .introduced (hreach.head hstep) hpattern hbelow hkind
    · exact .expression .refl hend
    · exact .introduced .refl hpattern hbelow hkind

/-! ## Kinds on a left side -/

/-- The kinds that decide how a left side is taken apart exclude each other. -/
structure TellsParts (g : Grammar) : Prop where
  parenthesized : ∀ k ∈ g.parenthesized,
    g.tuple.contains k = false ∧ g.declarationPattern.contains k = false
  tuple : ∀ k ∈ g.tuple, g.declarationPattern.contains k = false
  introduced : ∀ k ∈ g.variableDesignation,
    g.parenthesized.contains k = false ∧ g.tuple.contains k = false ∧
      g.declarationPattern.contains k = false

theorem tellsParts_csharp : csharp.TellsParts := by
  constructor <;> decide

theorem tellsParts_visualBasic : visualBasic.TellsParts := by
  constructor <;> decide

/-- What the arguments of a tuple contribute comes from their expressions. -/
theorem mem_targetsAt_arguments_iff :
    m ∈ ((x.childNodes.filter fun c => c.isAny g.argument).flatMap fun a =>
        ((argumentExpression? a).map (targetsAt g)).getD []) ↔
      ∃ a ∈ x.childNodes, a.isAny g.argument = true ∧
        ∃ e, argumentExpression? a = some e ∧ m ∈ targetsAt g e := by
  rw [List.mem_flatMap]
  constructor
  · rintro ⟨a, ha, hm⟩
    obtain ⟨hanode, hakind⟩ := List.mem_filter.mp ha
    cases he : argumentExpression? a with
    | none =>
        rw [he] at hm
        cases hm
    | some e =>
        rw [he] at hm
        exact ⟨a, hanode, hakind, e, he, hm⟩
  · rintro ⟨a, hanode, hakind, e, he, hm⟩
    refine ⟨a, List.mem_filter.mpr ⟨hanode, hakind⟩, ?_⟩
    rw [he]
    exact hm

section TellsParts

variable (hg : g.TellsParts)
include hg

/-- The leaves of parentheses are those of the expression in them; without one they are a leaf. -/
theorem TellsParts.isLeafOf_parenthesized (hparens : x.isAny g.parenthesized = true) :
    g.IsLeafOf m x ↔ (x.childNodes.head?.map (g.IsLeafOf m)).getD (m = x) := by
  obtain ⟨htuple, hpattern⟩ :
      x.isAny g.tuple = false ∧ x.isAny g.declarationPattern = false :=
    hg.parenthesized _ (kind_mem_of_isAny hparens)
  have hsteps : ∀ y, g.Enters x y ↔ x.childNodes.head? = some y := by
    intro y
    simp [enters_iff, hparens, htuple]
  rw [isLeafOf_iff, hpattern]
  cases hfirst : x.childNodes.head? with
  | none =>
      have hend : g.Undivided x := ⟨htuple, hpattern, fun _ => List.head?_eq_none_iff.mp hfirst⟩
      simp [hsteps, hfirst, hend]
  | some c =>
      have hdivided : ¬ g.Undivided x := by
        intro hend
        rw [hend.parenthesized hparens] at hfirst
        cases hfirst
      simp [hsteps, hfirst, hdivided]

/-- The leaves of a tuple are those of the expressions of its arguments. -/
theorem TellsParts.isLeafOf_tuple (hparens : x.isAny g.parenthesized = false)
    (htuple : x.isAny g.tuple = true) :
    g.IsLeafOf m x ↔ ∃ a ∈ x.childNodes, a.isAny g.argument = true ∧
      ∃ e, argumentExpression? a = some e ∧ g.IsLeafOf m e := by
  have hpattern := hg.tuple _ (kind_mem_of_isAny htuple)
  rw [isLeafOf_iff]
  constructor
  · rintro (⟨e, hstep, hleaf⟩ | ⟨-, hend⟩ | ⟨hkind, -⟩)
    · rcases enters_iff.mp hstep with ⟨hkind, -⟩ | ⟨-, a, ha, hkind, he⟩
      · cases hkind.symm.trans hparens
      · exact ⟨a, ha, hkind, e, he, hleaf⟩
    · cases htuple.symm.trans hend.tuple
    · cases hkind.symm.trans hpattern
  · rintro ⟨a, ha, hkind, e, he, hleaf⟩
    exact .inl ⟨e, .argument htuple ha hkind he, hleaf⟩

omit hg in
/-- The leaves of a declaration pattern are its variables; any other expression is a leaf. -/
theorem isLeafOf_of_no_tuple (hparens : x.isAny g.parenthesized = false)
    (htuple : x.isAny g.tuple = false) :
    g.IsLeafOf m x ↔
      if x.isAny g.declarationPattern then m ∈ x.descendants ∧ m.isAny g.variableDesignation = true
      else m = x := by
  have hstops : ∀ y, ¬ g.Enters x y := by
    intro y
    simp [enters_iff, hparens, htuple]
  rw [isLeafOf_iff]
  cases hpattern : x.isAny g.declarationPattern with
  | true =>
      have hdivided : ¬ g.Undivided x := fun hend => by cases hpattern.symm.trans hend.pattern
      simp [hstops, hdivided]
  | false =>
      have hend : g.Undivided x :=
        ⟨htuple, hpattern, fun hkind => by cases hkind.symm.trans hparens⟩
      simp [hstops, hend]

/-- An assignment to an expression changes the leaves of the expression. -/
theorem TellsParts.mem_targetsAt_iff (x : Node) : m ∈ targetsAt g x ↔ g.IsLeafOf m x := by
  induction x using Node.strong_induction with
  | h x ih =>
      rw [targetsAt_eq]
      cases hparens : x.isAny g.parenthesized with
      | true =>
          rw [if_pos rfl, hg.isLeafOf_parenthesized hparens]
          cases hfirst : x.childNodes.head? with
          | none => exact List.mem_singleton
          | some c =>
              have hc := Node.mem_children_of_head?_childNodes hfirst
              exact ih c hc c c.mem_descendants_self
      | false =>
          rw [if_neg Bool.false_ne_true]
          cases htuple : x.isAny g.tuple with
          | true =>
              rw [if_pos rfl, hg.isLeafOf_tuple hparens htuple, mem_targetsAt_arguments_iff]
              refine exists_congr fun a => and_congr_right fun ha => and_congr_right fun _ =>
                exists_congr fun e => and_congr_right fun he => ?_
              have hbelow := Node.mem_descendants_of_mem_children
                (mem_children_of_argumentExpression? he)
              exact ih a (List.filter_sublist.subset ha) e hbelow
          | false =>
              rw [if_neg Bool.false_ne_true, isLeafOf_of_no_tuple hparens htuple]
              cases x.isAny g.declarationPattern with
              | true => exact List.mem_filter
              | false => exact List.mem_singleton

theorem TellsParts.undivided_of_isLeafOf (h : g.IsLeafOf m x) : g.Undivided m := by
  cases h with
  | expression _ hend => exact hend
  | introduced _ _ _ hkind =>
      obtain ⟨hparens, htuple, hpattern⟩ := hg.introduced _ (kind_mem_of_isAny hkind)
      exact ⟨htuple, hpattern, fun h => by cases h.symm.trans hparens⟩

end TellsParts

/-! ## The targets of an assignment -/

/-- The numbers of the targets increase. -/
theorem pairwise_id_targets {t : Tree} (ht : t.Numbered) {a : Node} (ha : a ∈ t.walk []) :
    ((g.targets a).map Node.id).Pairwise (· < ·) := by
  have hsub := (g.targets_sublist_descendants a).map Node.id
  rw [ht.ids_descendants ha] at hsub
  exact List.Pairwise.sublist hsub List.pairwise_lt_range'

/-- All ways into the left side of an assignment end. The targets of the assignment are met in this
order in the walk through its left side, each of them once; none of them can be taken apart; and
they are the leaves of the left side, all of them and nothing else. -/
theorem targets_are_leaves (hg : g = csharp ∨ g = visualBasic) {t : Tree} (ht : t.Numbered)
    {a : Node} (ha : a ∈ t.walk []) :
    (∀ left ∈ g.left? a, (g.targets a).Sublist left.descendants ∧
      ∀ way, List.IsChain g.Enters (left :: way) → way.length < left.tree.size) ∧
    ((g.targets a).map Node.id).Pairwise (· < ·) ∧
    (∀ m ∈ g.targets a, g.Undivided m) ∧
    ∀ m, m ∈ g.targets a ↔ ∃ left, g.left? a = some left ∧ g.IsLeafOf m left := by
  have hkinds : g.TellsParts := by
    rcases hg with rfl | rfl
    · exact tellsParts_csharp
    · exact tellsParts_visualBasic
  have hleaf : ∀ m, m ∈ g.targets a ↔ ∃ left, g.left? a = some left ∧ g.IsLeafOf m left := by
    intro m
    rw [targets_eq]
    cases hleft : g.left? a with
    | none => exact iff_of_false List.not_mem_nil fun ⟨_, hleft, _⟩ => by cases hleft
    | some left =>
        refine (hkinds.mem_targetsAt_iff left).trans ⟨fun h => ⟨left, rfl, h⟩, ?_⟩
        rintro ⟨_, heq, h⟩
        cases heq
        exact h
  refine ⟨fun left hleft => ⟨g.targets_sublist_of_left? hleft, fun way h => ?_⟩,
    pairwise_id_targets ht ha, fun m hm => ?_, hleaf⟩
  · exact length_lt_of_isChain_enters h
  · obtain ⟨left, -, h⟩ := (hleaf m).mp hm
    exact hkinds.undivided_of_isLeafOf h

/-- A pair is assigned to a name between parentheses and to a tuple whose one part declares two
variables. -/
def nestedTuple : Tree :=
  let info (id : NodeId) (kind : String) : NodeInfo := .ofKind id kind ⟨⟨1, id⟩, ⟨1, id⟩⟩
  let token (id : NodeId) (kind text : String) : Tree :=
    .node { info id kind with text := some text } []
  let name (id : NodeId) (kind text : String) : Tree :=
    .node (info id kind) [token (id + 1) "IdentifierToken" text]
  let parentheses : Tree := .node (info 4 "ParenthesizedExpression")
    [token 5 "OpenParenToken" "(", name 6 "IdentifierName" "a", token 8 "CloseParenToken" ")"]
  let declaration : Tree := .node (info 13 "DeclarationExpression")
    [name 14 "IdentifierName" "var", .node (info 16 "ParenthesizedVariableDesignation")
      [name 17 "SingleVariableDesignation" "x", name 19 "SingleVariableDesignation" "y"]]
  let inner : Tree :=
    .node (info 11 "TupleExpression") [.node (info 12 "Argument") [declaration]]
  let outer : Tree := .node (info 1 "TupleExpression")
    [token 2 "OpenParenToken" "(", .node (info 3 "Argument") [parentheses],
      token 9 "CommaToken" ",", .node (info 10 "Argument") [inner],
      token 21 "CloseParenToken" ")"]
  .node (info 0 "SimpleAssignmentExpression")
    [outer, token 22 "EqualsToken" "=", name 23 "IdentifierName" "p"]

theorem numbered_nestedTuple : nestedTuple.Numbered := by
  rfl

theorem targets_are_leaves_nested :
    nestedTuple.Numbered ∧ ∃ a ∈ nestedTuple.walk [], a.isAny csharp.assignment = true ∧
      (csharp.targets a).map Node.id = [6, 17, 19] ∧
      (∀ m ∈ csharp.targets a, csharp.Undivided m) ∧
      ∀ m, m ∈ csharp.targets a ↔ ∃ left, csharp.left? a = some left ∧ csharp.IsLeafOf m left := by
  have ha : Node.root nestedTuple ∈ nestedTuple.walk [] := Node.mem_descendants_self _
  obtain ⟨-, -, hundivided, hleaf⟩ := targets_are_leaves (.inl rfl) numbered_nestedTuple ha
  exact ⟨numbered_nestedTuple, _, ha, by decide +kernel, by decide +kernel, hundivided, hleaf⟩

end Grammar
end TreeLint
