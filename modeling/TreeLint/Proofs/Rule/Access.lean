import TreeLint.Proofs.Grammar.Climbing
import TreeLint.Rule.Catalogue

/-!
# What is asked of a name

A name can be asked whether it is written and whether it is assigned a constant. Both are answered
at the node above the expression that it climbs to. An assignment, on the other hand, changes all
that it finds in its left side, and there it takes tuples apart. So a name that is written as a part
of a tuple is an assignment's target, but counts as read.

**Results.**
* `setter_iff_left`: a name is written if it is the left side of an assignment, parentheses aside.
* `setter_iff_target_of_undivided`: which targets of assignments count as written.
* `setter_and_getter_iff`: which names count as written and which as read.
* `constant_iff_setsToConstant`: when a name is assigned a constant.
-/

namespace TreeLint
namespace Rule

open Source Symbols Syntax

/-- The tables of both languages tell the kinds apart that are met on the way from a name. -/
theorem separates_grammarOf (l : Language) : (grammarOf l).Separates := by
  cases l with
  | csharp => exact Grammar.separates_csharp
  | visualBasic => exact Grammar.separates_visualBasic

/-- A name is changed by an assignment, parentheses around either aside. -/
def IsTargetOf (g : Grammar) (n a : Node) : Prop :=
  g.unparenthesized (g.climb n) ∈ g.targets a

/-- Targets are told by their numbers. -/
theorem isTargetOf_iff_id {g : Grammar} {u : SourceUnit} (hu : u.tree.Numbered) {n a : Node}
    (hn : n ∈ u.nodes) (ha : a ∈ u.nodes) :
    IsTargetOf g n a ↔ (g.unparenthesized (g.climb n)).id ∈ (g.targets a).map Node.id := by
  constructor
  · exact List.mem_map_of_mem
  · intro h
    obtain ⟨target, htarget, hid⟩ := List.mem_map.mp h
    have hmem : target ∈ u.nodes :=
      Node.mem_descendants_trans ((g.targets_sublist_descendants a).subset htarget) ha
    have hinside : g.unparenthesized (g.climb n) ∈ u.nodes :=
      Node.mem_descendants_trans (g.unparenthesized_mem_descendants _)
        (Grammar.climb_mem_walk hn)
    rwa [hu.eq_of_id_eq hmem hinside hid] at htarget

/-- Whether an assignment takes a tuple on its left side apart. -/
def divides (g : Grammar) (a : Node) : Bool :=
  (g.left? a).any fun left => (g.unparenthesized left).isAny g.tuple

/-- Parentheses hold one expression at most. -/
def ParenthesesHoldOne (g : Grammar) (u : SourceUnit) : Prop :=
  ∀ p ∈ u.nodes, p.isAny g.parenthesized = true → p.childNodes.length ≤ 1

section Names

variable {g : Grammar} {u : SourceUnit} {n : Node} (hu : u.tree.Numbered) (hn : n ∈ u.nodes)
include hu hn

/-! ## Written names -/

/-- A name is written if it is the left side of an assignment, up to parentheses. -/
theorem setter_iff_left (hg : g.Separates) (pass : Pass) :
    AccessTest.setter.holds ⟨g, u, n, pass⟩ = true ↔
      ∃ a ∈ u.nodes, ∃ left, g.left? a = some left ∧
        g.unparenthesized left = g.unparenthesized (g.climb n) := by
  refine (Grammar.isLeftSide_iff hu hn).trans ?_
  constructor
  · rintro ⟨a, ha, hleft⟩
    exact ⟨a, ha, g.climb n, hleft, rfl⟩
  · rintro ⟨a, ha, left, hleft, hsame⟩
    have heq := Grammar.eq_of_unparenthesized_eq (hg.standsFree_left hleft)
      (Grammar.standsFree_climb n) hsame
    rw [heq] at hleft
    exact ⟨a, ha, hleft⟩

variable (hg : g.Separates) (hone : ParenthesesHoldOne g u)
  (hname : n.isAny g.identifierName = true)
include hg hone hname

omit hu in
/-- Where a name climbs to, there is no tuple and no pattern inside the parentheses. -/
theorem targetsAt_climb :
    Grammar.targetsAt g (g.climb n) = [g.unparenthesized (g.climb n)] ∧
      (g.unparenthesized (g.climb n)).isAny g.tuple = false ∧
      (g.unparenthesized (g.climb n)).isAny g.variableDesignation = false := by
  obtain ⟨-, hparens, htuple, hpattern, hvariable⟩ := hg.name _
    (Grammar.kind_mem_of_isAny (hg.isAny_unparenthesized_climb hone hn hname))
  refine ⟨?_, htuple, hvariable⟩
  rw [← Grammar.targetsAt_unparenthesized, Grammar.targetsAt_eq, Node.isAny, hparens, Node.isAny,
    htuple, Node.isAny, hpattern]
  rfl

/-- The targets that count as written are those of assignments that divide no tuple. -/
theorem setter_iff_target_of_undivided (pass : Pass) :
    AccessTest.setter.holds ⟨g, u, n, pass⟩ = true ↔
      ∃ a ∈ u.nodes, IsTargetOf g n a ∧ divides g a = false := by
  obtain ⟨htargets, htuple, hvariable⟩ := targetsAt_climb hn hg hone hname
  constructor
  · intro h
    obtain ⟨a, ha, hleft⟩ := (Grammar.isLeftSide_iff hu hn).mp h
    refine ⟨a, ha, ?_, ?_⟩
    · rw [IsTargetOf, Grammar.targets_eq, hleft, Option.map_some, Option.getD_some, htargets]
      exact List.mem_singleton_self _
    · rw [divides, hleft]
      exact htuple
  · rintro ⟨a, ha, htarget, hundivided⟩
    rw [IsTargetOf, Grammar.targets_eq] at htarget
    rw [divides] at hundivided
    cases hleft : g.left? a with
    | none =>
        rw [hleft] at htarget
        cases htarget
    | some left =>
        rw [hleft] at htarget hundivided
        rcases Grammar.mem_targetsAt htarget with hinside | hvar | ⟨hdivided, -⟩
        · exact (setter_iff_left hu hn hg pass).mpr ⟨a, ha, left, hleft, hinside⟩
        · cases hvar.symm.trans hvariable
        · cases hdivided.symm.trans hundivided

omit hu in
/-- The targets in a tuple count as read. -/
theorem getter_of_target_of_divided {a : Node} (htarget : IsTargetOf g n a)
    (hdivides : divides g a = true) (pass : Pass) :
    AccessTest.getter.holds ⟨g, u, n, pass⟩ = true := by
  obtain ⟨-, htuple, hvariable⟩ := targetsAt_climb hn hg hone hname
  rw [IsTargetOf, Grammar.targets_eq] at htarget
  rw [divides] at hdivides
  cases hleft : g.left? a with
  | none =>
      rw [hleft] at htarget
      cases htarget
  | some left =>
      rw [hleft] at htarget hdivides
      rcases Grammar.mem_targetsAt htarget with hinside | hvar | ⟨-, b, y, hb, hy, hinside⟩
      · rw [Option.any_some, hinside] at hdivides
        cases hdivides.symm.trans htuple
      · cases hvar.symm.trans hvariable
      · -- the name climbs to the expression of an argument, which is no side of an assignment
        have heq := Grammar.eq_of_unparenthesized_eq (hg.standsFree_argument hb hy)
          (Grammar.standsFree_climb n) hinside
        have hparent := Node.parent?_eq_of_mem_children
          (Grammar.mem_children_of_argumentExpression? hy)
        have hnone : g.left? b = none := by
          rw [Grammar.left?, Node.isAny, (hg.argument _ (Grammar.kind_mem_of_isAny hb)).2]
          rfl
        rw [heq] at hparent
        show (!g.isLeftSide n) = true
        simp [Grammar.isLeftSide, hparent, hnone]

end Names

/-- A name is written if it is the left side of an assignment, parentheses aside. If parentheses
hold one expression at most, these are the targets of assignments that divide no tuple, and the
names that assignments find in a tuple count as read. -/
theorem setter_and_getter_iff {l : Language} {u : SourceUnit} (hu : u.tree.Numbered) {n : Node}
    (hn : n ∈ u.nodes) (pass : Pass) :
    let g := grammarOf l
    let v : Visit := ⟨g, u, n, pass⟩
    (AccessTest.setter.holds v = true ↔
      ∃ a ∈ u.nodes, ∃ left, g.left? a = some left ∧
        g.unparenthesized left = g.unparenthesized (g.climb n)) ∧
    (n.isAny g.identifierName = true → ParenthesesHoldOne g u →
      (AccessTest.setter.holds v = true ↔ ∃ a ∈ u.nodes, IsTargetOf g n a ∧ divides g a = false) ∧
      ((∃ a ∈ u.nodes, IsTargetOf g n a ∧ divides g a = true) →
        AccessTest.getter.holds v = true)) := by
  intro g v
  have hg : g.Separates := separates_grammarOf l
  refine ⟨setter_iff_left hu hn hg pass, fun hname hone => ⟨?_, ?_⟩⟩
  · exact setter_iff_target_of_undivided hu hn hg hone hname pass
  · rintro ⟨a, -, htarget, hdivides⟩
    exact getter_of_target_of_divided hn hg hone hname htarget hdivides pass

/-- Two names are assigned the parts of a pair. -/
def dividedPair : SourceUnit :=
  let info (id : NodeId) (kind : String) : NodeInfo := .ofKind id kind ⟨⟨1, id⟩, ⟨1, id⟩⟩
  let token (id : NodeId) (kind text : String) : Tree :=
    .node { info id kind with text := some text } []
  let name (id : NodeId) (text : String) : Tree :=
    .node (info id "IdentifierName") [token (id + 1) "IdentifierToken" text]
  let tuple : Tree := .node (info 1 "TupleExpression")
    [token 2 "OpenParenToken" "(", .node (info 3 "Argument") [name 4 "user"],
      token 6 "CommaToken" ",", .node (info 7 "Argument") [name 8 "password"],
      token 10 "CloseParenToken" ")"]
  ⟨"Pair.cs", .csharp, false, false,
    .node (info 0 "SimpleAssignmentExpression") [tuple, token 11 "EqualsToken" "=", name 12 "pair"],
    SymbolTable.empty⟩

theorem numbered_dividedPair : dividedPair.tree.Numbered := by
  rfl

theorem setter_and_getter_iff_dividedPair :
    let g := grammarOf .csharp
    dividedPair.tree.Numbered ∧ ParenthesesHoldOne g dividedPair ∧
      ∃ n ∈ dividedPair.nodes, n.isAny g.identifierName = true ∧
        (∃ a ∈ dividedPair.nodes, IsTargetOf g n a ∧ divides g a = true) ∧
        AccessTest.getter.holds ⟨g, dividedPair, n, .declaration⟩ = true := by
  intro g
  have hone : ParenthesesHoldOne g dividedPair := by
    unfold ParenthesesHoldOne
    decide +kernel
  obtain ⟨n, hn, hname, a, ha, hid, hdivides⟩ : ∃ n ∈ dividedPair.nodes,
      n.isAny g.identifierName = true ∧ ∃ a ∈ dividedPair.nodes,
        (g.unparenthesized (g.climb n)).id ∈ (g.targets a).map Node.id ∧ divides g a = true := by
    decide +kernel
  have hdivided : ∃ a ∈ dividedPair.nodes, IsTargetOf g n a ∧ divides g a = true :=
    ⟨a, ha, (isTargetOf_iff_id numbered_dividedPair hn ha).mpr hid, hdivides⟩
  have htests := setter_and_getter_iff (l := .csharp) numbered_dividedPair hn .declaration
  exact ⟨numbered_dividedPair, hone, n, hn, hname, hdivided, (htests.2 hname hone).2 hdivided⟩

/-- A name that an assignment overwrites as a part of a pair is not written, but read. -/
theorem dividedPair_not_written :
    ∃ n ∈ dividedPair.nodes, n.isAny Grammar.csharp.identifierName = true ∧
      (∃ a ∈ dividedPair.nodes, IsTargetOf Grammar.csharp n a) ∧
      AccessTest.setter.holds ⟨Grammar.csharp, dividedPair, n, .declaration⟩ = false ∧
      AccessTest.getter.holds ⟨Grammar.csharp, dividedPair, n, .declaration⟩ = true := by
  obtain ⟨n, hn, hname, ⟨a, ha, hid⟩, htests⟩ : ∃ n ∈ dividedPair.nodes,
      n.isAny Grammar.csharp.identifierName = true ∧
      (∃ a ∈ dividedPair.nodes, (Grammar.csharp.unparenthesized (Grammar.csharp.climb n)).id ∈
        (Grammar.csharp.targets a).map Node.id) ∧
      AccessTest.setter.holds ⟨Grammar.csharp, dividedPair, n, .declaration⟩ = false ∧
      AccessTest.getter.holds ⟨Grammar.csharp, dividedPair, n, .declaration⟩ = true := by
    decide +kernel
  exact ⟨n, hn, hname, ⟨a, ha, (isTargetOf_iff_id numbered_dividedPair hn ha).mpr hid⟩, htests⟩

/-! ## Constant values -/

/-- A value is constant: a constant is known of it, with its parentheses or without them, or inside
them there is a literal. -/
def HasConstantValue (g : Grammar) (value : Node) : Prop :=
  value.info.constant.isSome = true ∨ (g.unparenthesized value).info.constant.isSome = true ∨
    (g.unparenthesized value).isAny g.constantLiteral = true

/-- An assignment assigns a constant to what a name is the name of. -/
structure SetsToConstant (g : Grammar) (a n : Node) : Prop where
  left : g.left? a = some (g.climb n)
  right : ∃ value, g.right? a = some value ∧ HasConstantValue g value

theorem isConstant_iff {g : Grammar} {value : Node} :
    g.isConstant value = true ↔ HasConstantValue g value := by
  rw [Grammar.isConstant, Grammar.constant?, Option.isSome_or, Bool.or_eq_true_iff,
    Bool.or_eq_true_iff, or_assoc]
  rfl

section Constants

variable {g : Grammar} {u : SourceUnit} {n : Node} (hu : u.tree.Numbered) (hn : n ∈ u.nodes)
include hu hn

/-- The value that is assigned to a name is the right side of the assignment whose left side it
is. -/
theorem assignedValue?_eq_some_iff {value : Node} :
    assignedValue? g n = some value ↔
      ∃ a ∈ u.nodes, g.left? a = some (g.climb n) ∧ g.right? a = some value := by
  rw [assignedValue?]
  constructor
  · intro h
    cases ha : (g.climb n).parent? with
    | none =>
        rw [ha] at h
        cases h
    | some a =>
        have hamem := (Tree.mem_children_of_parent? (Grammar.climb_mem_walk hn) ha).1
        rw [ha] at h
        dsimp only at h
        split at h
        · rename_i hsame
          exact ⟨a, hamem, (Grammar.any_left?_same_climb_iff hu hn hamem).mp hsame, h⟩
        · cases h
  · rintro ⟨a, hamem, hleft, hvalue⟩
    rw [Node.parent?_eq_of_mem_children (g.mem_children_of_left? hleft)]
    dsimp only
    rw [if_pos ((Grammar.any_left?_same_climb_iff hu hn hamem).mpr hleft), hvalue]

/-- A name is assigned a constant if an assignment does so, whether simple or compound. -/
theorem constant_iff_setsToConstant (pass : Pass) :
    AccessTest.constant.holds ⟨g, u, n, pass⟩ = true ↔ ∃ a ∈ u.nodes, SetsToConstant g a n := by
  show (assignedValue? g n).any g.isConstant = true ↔ _
  constructor
  · intro h
    cases hvalue : assignedValue? g n with
    | none =>
        rw [hvalue] at h
        cases h
    | some value =>
        rw [hvalue] at h
        obtain ⟨a, ha, hleft, hright⟩ := (assignedValue?_eq_some_iff hu hn).mp hvalue
        exact ⟨a, ha, hleft, value, hright, isConstant_iff.mp h⟩
  · rintro ⟨a, ha, hleft, value, hright, hconstant⟩
    rw [(assignedValue?_eq_some_iff hu hn).mpr ⟨a, ha, hleft, hright⟩]
    exact isConstant_iff.mpr hconstant

omit hu hn in
/-- A name is the left side of one assignment at most. -/
theorem SetsToConstant.unique {a b : Node} (ha : SetsToConstant g a n) (hb : SetsToConstant g b n) :
    a = b := by
  have hparent := Node.parent?_eq_of_mem_children (g.mem_children_of_left? ha.left)
  rw [Node.parent?_eq_of_mem_children (g.mem_children_of_left? hb.left)] at hparent
  exact (Option.some.inj hparent).symm

end Constants

end Rule
end TreeLint
