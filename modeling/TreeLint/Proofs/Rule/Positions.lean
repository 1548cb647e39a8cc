import TreeLint.Proofs.Selection
import TreeLint.Proofs.Syntax.Wrapping
import TreeLint.Rule.Catalogue

/-!
# Positions of arguments

Commas cut a list of arguments into slots. A slot may be left empty, or hold something that has no
expression. The tests of an object creation count the expressions that are found, not the slots, so
an argument is looked at under the number of expressions in front of it.

**Results.**
* `arguments?_eq_filterMap_slots`: the arguments are those of the slots that have an expression.
* `creationTest_looks_at`: what the tests look at, and when this is the argument of the slot.
-/

namespace TreeLint
namespace Rule

open Source Symbols Syntax

/-! ## Lists in slots -/

section Lists

variable {α β : Type}

/-- What is cut out at separators is all that is not among them. -/
theorem flatten_map_filter_splitOnP {p q : α → Bool} (h : ∀ a, p a = true → q a = false)
    (l : List α) : ((l.splitOnP p).map (List.filter q)).flatten = l.filter q := by
  induction l with
  | nil => rw [List.splitOnP_nil]; rfl
  | cons a l ih =>
      rw [List.splitOnP_cons_eq_if_modifyHead]
      split
      · rename_i hp
        rw [List.map_cons, List.flatten_cons, ih, List.filter_nil, List.nil_append,
          List.filter_cons_of_neg (by rw [h a hp]; exact Bool.false_ne_true)]
      · obtain ⟨first, rest, hsplit⟩ := List.exists_cons_of_ne_nil (List.splitOnP_ne_nil p l)
        rw [hsplit, List.map_cons, List.flatten_cons] at ih
        rw [hsplit, List.modifyHead_cons, List.map_cons, List.flatten_cons, List.filter_cons,
          List.filter_cons, ← ih]
        split <;> rfl

/-- Of slots with one item at most, the selected items are those of the slots. -/
theorem filterMap_flatten {f : α → Option β} {slots : List (List α)}
    (h : ∀ slot ∈ slots, slot.length ≤ 1) :
    slots.flatten.filterMap f = slots.filterMap fun slot => slot.head?.bind f := by
  induction slots with
  | nil => rfl
  | cons slot slots ih =>
      have hrest := ih fun s hs => h s (List.mem_cons_of_mem slot hs)
      rw [List.flatten_cons, List.filterMap_append, hrest, List.filterMap_cons]
      match slot, h slot List.mem_cons_self with
      | [], _ => rfl
      | [a], _ =>
          rw [List.filterMap_cons, List.head?_cons, Option.bind_some]
          cases f a <;> rfl

end Lists

/-! ## Slots of arguments -/

/-- What separates the slots of a list of arguments. -/
def separatorKind : String := "CommaToken"

/-- The slots of a list of arguments, each with its nodes. -/
def slots (list : Node) : List (List Node) :=
  (list.children.splitOnP fun c => c.kind == separatorKind).map
    (List.filter fun c => !c.isToken)

/-- The expression of the argument in a slot. -/
def slotExpression? (g : Grammar) (slot : List Node) : Option Node :=
  slot.head?.bind fun c => if c.isAny g.argument then Grammar.argumentExpression? c else none

@[simp] theorem flatten_slots (list : Node) : (slots list).flatten = list.childNodes := by
  apply flatten_map_filter_splitOnP
  intro c hc
  have htoken : c.isToken = true := by
    show isTokenKind c.kind = true
    rw [beq_iff_eq.mp hc]
    decide
  rw [htoken]
  rfl

section Creation

variable {g : Grammar} {n list : Node} (hn : n.isAny g.objectCreation = true)
  (hlist : (n.children.find? fun c => c.isAny g.argumentList) = some list)
  (hslots : ∀ slot ∈ slots list, slot.length ≤ 1)
include hn hlist hslots

/-- The arguments of an object creation are those of the slots that have an expression. -/
theorem arguments?_eq_filterMap_slots :
    g.arguments? n = some (((slots list).filterMap (slotExpression? g)).map
      fun e => ⟨e, g.isConstant e⟩) := by
  have hselected : (list.childNodes.filter fun c => c.isAny g.argument).filterMap
      Grammar.argumentExpression? = (slots list).filterMap (slotExpression? g) := by
    rw [List.filterMap_filter, ← flatten_slots, filterMap_flatten hslots]
    rfl
  simp [Grammar.arguments?, hn, hlist, hselected]

theorem argumentAt?_eq (k : Nat) :
    argumentAt? g n k = (((slots list).filterMap (slotExpression? g))[k]?).map
      fun e => ⟨e, g.isConstant e⟩ := by
  simp [argumentAt?, arguments?_eq_filterMap_slots hn hlist hslots]

omit hn hlist hslots in
theorem any_map_argument (o : Option Node) (p : Grammar.Argument → Bool) :
    (o.map fun e => (⟨e, g.isConstant e⟩ : Grammar.Argument)).any p =
      o.any fun e => p ⟨e, g.isConstant e⟩ := by
  cases o <;> rfl

/-- The tests at an index look at the expression of that number. An expression keeps the number of
its slot if and only if no slot without one stands before a slot with one. -/
theorem creationTest_looks_at (u : SourceUnit) (pass : Pass) :
    let v : Visit := ⟨g, u, n, pass⟩
    let expressions := (slots list).filterMap (slotExpression? g)
    (∀ (k : Nat) type, CreationTest.holds v (.argumentType k type) =
      expressions[k]?.any fun e => g.type? e == some type) ∧
    (∀ k : Nat, CreationTest.holds v (.argumentConstant k) = expressions[k]?.any g.isConstant) ∧
    (∀ (k : Nat) e, (slots list)[k]?.bind (slotExpression? g) = some e →
      expressions[(slots list).countPBefore (fun s => (slotExpression? g s).isSome) k]? =
        some e) ∧
    ((∀ k : Nat, expressions[k]? = (slots list)[k]?.bind (slotExpression? g)) ↔
      ∀ j k : Nat, j < k → (slots list)[j]?.bind (slotExpression? g) = none →
        (slots list)[k]?.bind (slotExpression? g) = none) := by
  intro v expressions
  refine ⟨?_, ?_, ?_, ?_⟩
  · intro k type
    rw [CreationTest.holds, argumentAt?_eq hn hlist hslots, any_map_argument]
  · intro k
    rw [CreationTest.holds, argumentAt?_eq hn hlist hslots, any_map_argument]
  · intro k e h
    exact Selection.getElem?_filterMap_countPBefore h
  · exact Selection.getElem?_filterMap_iff

end Creation

/-- A session is created with its first argument left out and a constant as the second. -/
def omittedArgument : SourceUnit :=
  let info (id : NodeId) (kind : String) : NodeInfo := .ofKind id kind ⟨⟨1, id⟩, ⟨1, id⟩⟩
  let token (id : NodeId) (kind text : String) : Tree :=
    .node { info id kind with text := some text } []
  let name : Tree := .node (info 2 "IdentifierName") [token 3 "IdentifierToken" "Session"]
  let value : Tree :=
    .node (info 8 "StringLiteralExpression") [token 9 "StringLiteralToken" "\"hunter2\""]
  let arguments : Tree := .node (info 4 "ArgumentList")
    [token 5 "OpenParenToken" "(", token 6 "CommaToken" ",",
      .node (info 7 "SimpleArgument") [value], token 10 "CloseParenToken" ")"]
  ⟨"Session.vb", .visualBasic, false, false,
    .node (info 0 "ObjectCreationExpression") [token 1 "NewKeyword" "New", name, arguments],
    SymbolTable.empty⟩

theorem creationTest_looks_at_omitted :
    let g := grammarOf .visualBasic
    let n := omittedArgument.root
    let v : Visit := ⟨g, omittedArgument, n, .declaration⟩
    n.isAny g.objectCreation = true ∧
    ∃ list, (n.children.find? fun c => c.isAny g.argumentList) = some list ∧
      (∀ slot ∈ slots list, slot.length ≤ 1) ∧
      ∃ e, (slots list)[1]?.bind (slotExpression? g) = some e ∧
        CreationTest.holds v (.argumentConstant 0) = g.isConstant e := by
  intro g n v
  have hn : n.isAny g.objectCreation = true := by
    decide +kernel
  obtain ⟨list, hlist, hslots, hsome⟩ :
      ∃ list, (n.children.find? fun c => c.isAny g.argumentList) = some list ∧
        (∀ slot ∈ slots list, slot.length ≤ 1) ∧
        ((slots list)[1]?.bind (slotExpression? g)).isSome = true ∧
        (slots list).countPBefore (fun s => (slotExpression? g s).isSome) 1 = 0 :=
    ⟨_, rfl, by decide +kernel⟩
  obtain ⟨e, he⟩ := Option.isSome_iff_exists.mp hsome.1
  have htests := creationTest_looks_at hn hlist hslots omittedArgument .declaration
  have hat := htests.2.2.1 1 e he
  rw [hsome.2] at hat
  refine ⟨hn, list, hlist, hslots, e, he, ?_⟩
  rw [htests.2.1, hat, Option.any_some]

/-- An argument behind a slot that is left empty is looked at one index too early. -/
theorem omittedArgument_shifts :
    let g := grammarOf .visualBasic
    let n := omittedArgument.root
    let v : Visit := ⟨g, omittedArgument, n, .declaration⟩
    n.isAny g.objectCreation = true ∧
    ∃ list, (n.children.find? fun c => c.isAny g.argumentList) = some list ∧
      (∀ slot ∈ slots list, slot.length ≤ 1) ∧
      (slots list)[0]?.bind (slotExpression? g) = none ∧
      CreationTest.holds v (.argumentConstant 0) = true ∧
      ((slots list)[1]?.bind (slotExpression? g)).any g.isConstant = true ∧
      CreationTest.holds v (.argumentConstant 1) = false := by
  intro g n v
  refine ⟨by decide +kernel, _, rfl, ?_⟩
  decide +kernel

end Rule
end TreeLint
