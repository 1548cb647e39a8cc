import TreeLint.Proofs.Grammar.Climbing

/-!
# Names and the symbols they resolve to

A name climbs to the outermost expression that it is the name of: out of parentheses, and from the
last part of an access to the access. An expression resolves to a symbol on the way down: through
parentheses, and from an access that has no symbol of its own to its last part. The way down takes
back what the climb has done, step by step, so that the name and the expression that it climbs to
resolve to the same symbol.

**Results.**
* `unparenthesized_unparenthesized`: inside parentheses there are no more parentheses to look into.
* `symbol?_eq_of_goes`: one step of a climb keeps the symbol.
* `climb_keeps_symbol`: a whole climb keeps it.
-/

namespace TreeLint
namespace Grammar

open Syntax Symbols Source

variable {g : Grammar} {n c p : Node}

/-- What is inside parentheses is inside its own parentheses. -/
@[simp] theorem unparenthesized_unparenthesized (g : Grammar) (n : Node) :
    g.unparenthesized (g.unparenthesized n) = g.unparenthesized n := by
  induction n using Node.induction with
  | h n ih =>
      rw [unparenthesized_eq g n]
      split
      · rename_i hparens
        cases hfirst : n.childNodes.head? with
        | none =>
            -- parentheses without an expression are what they are
            show g.unparenthesized n = n
            simp [unparenthesized_eq, hfirst]
        | some c => exact ih c (Node.mem_children_of_head?_childNodes hfirst)
      · rename_i hparens
        exact unparenthesized_of_not_parenthesized (Bool.eq_false_iff.mpr hparens)

section Numbered

variable {t : Tree} (ht : t.Numbered)
include ht

/-- An accessed name is the last child of an access that is not a token. -/
theorem isAccessedName_iff (hp : p ∈ t.walk []) (hc : c ∈ p.children) :
    g.isAccessedName p c = true ↔
      p.isAny g.memberAccess = true ∧ p.childNodes.getLast? = some c := by
  rw [isAccessedName, Bool.and_eq_true_iff]
  refine and_congr_right fun _ => ?_
  cases hlast : p.childNodes.getLast? with
  | none => exact iff_of_false Bool.false_ne_true nofun
  | some last =>
      have hlastwalk :=
        Tree.mem_walk_of_mem_children hp (Node.mem_children_of_getLast?_childNodes hlast)
      rw [Option.any_some, Node.same, beq_iff_eq, Option.some_inj]
      exact ⟨ht.eq_of_id_eq hlastwalk (Tree.mem_walk_of_mem_children hp hc), congrArg Node.id⟩

end Numbered

section Separates

variable (hg : g.Separates)
include hg

/-- A climb does not come to a token. -/
theorem Separates.isToken_eq_false_of_goes
    (hgoes : (g.isAccessedName p c || p.isAny g.parenthesized) = true) : p.isToken = false := by
  rcases Bool.or_eq_true_iff.mp hgoes with haccess | hparens
  · have hkind := kind_mem_of_isAny (Bool.and_eq_true_iff.mp haccess).1
    exact (hg.name _ (List.mem_append_right _ hkind)).1
  · exact hg.parenthesized _ (kind_mem_of_isAny hparens)

variable {u : SourceUnit} (hu : u.tree.Numbered)
include hu

omit hg in
/-- One step of a climb leads to an expression with the same symbol. -/
theorem symbol?_eq_of_goes (hp : p ∈ u.nodes) (hc : c ∈ p.children) (htoken : c.isToken = false)
    (hone : p.isAny g.parenthesized = true → p.childNodes.length ≤ 1)
    (hgoes : (g.isAccessedName p c || p.isAny g.parenthesized) = true)
    (hfree : u.reference? p = none) : g.symbol? u p = g.symbol? u c := by
  rw [symbol?_eq]
  cases hparens : p.isAny g.parenthesized with
  | true =>
      simp [childNodes_eq_singleton (hone hparens) hc htoken]
  | false =>
      rw [hparens, Bool.or_false] at hgoes
      obtain ⟨haccess, hlast⟩ := (isAccessedName_iff hu hp hc).mp hgoes
      simp [hfree, haccess, hlast]

/-- A climb keeps the symbol, if the nodes above the name have none of their own. -/
theorem Separates.symbol?_climb
    (hone : ∀ p ∈ u.nodes, p.isAny g.parenthesized = true → p.childNodes.length ≤ 1)
    (hn : n ∈ u.nodes) (htoken : n.isToken = false)
    (hfree : ∀ a ∈ n.ancestors, a ∈ (g.climb n).descendants → u.reference? a = none) :
    g.symbol? u (g.climb n) = g.symbol? u n := by
  -- wherever the climb has come to, the name is below, and if no symbol is known on the way, both
  -- resolve to the same one
  have hclimb := climb_induction (g := g) (n := n)
    (P := fun c => c ∈ u.nodes ∧ c.isToken = false ∧ n ∈ c.descendants ∧
      ((∀ a ∈ n.ancestors, a ∈ c.descendants → u.reference? a = none) →
        g.symbol? u c = g.symbol? u n))
    ⟨hn, htoken, n.mem_descendants_self, fun _ => rfl⟩ ?_
  · exact hclimb.2.2.2 hfree
  · rintro c p hcp hgoes ⟨hc, hctoken, hbelow, hsame⟩
    obtain ⟨hp, hchild⟩ := Tree.mem_children_of_parent? hc hcp
    have hcbelow := Node.mem_descendants_of_mem_children hchild
    refine ⟨hp, hg.isToken_eq_false_of_goes hgoes, Node.mem_descendants_trans hbelow hcbelow, ?_⟩
    intro hfree
    have hpfree : u.reference? p = none :=
      hfree p (Tree.mem_ancestors_of_mem_children hchild hbelow) p.mem_descendants_self
    rw [symbol?_eq_of_goes hu hp hchild hctoken (hone p hp) hgoes hpfree]
    exact hsame fun a ha hac => hfree a ha (Node.mem_descendants_trans hac hcbelow)

end Separates

/-- Where parentheses hold one expression at most, a name and the expression that it climbs to
resolve to the same symbol, whatever the nodes refer to, if no symbol is known of the nodes above
the name up to that expression. Parentheses are removed once and for all. -/
theorem climb_keeps_symbol (hg : g = csharp ∨ g = visualBasic) {u : SourceUnit}
    (hu : u.tree.Numbered)
    (hone : ∀ p ∈ u.nodes, p.isAny g.parenthesized = true → p.childNodes.length ≤ 1)
    (hn : n ∈ u.nodes) (htoken : n.isToken = false)
    (hfree : ∀ a ∈ n.ancestors, a ∈ (g.climb n).descendants → u.reference? a = none) :
    g.symbol? u (g.climb n) = g.symbol? u n ∧
      ∀ m, g.unparenthesized (g.unparenthesized m) = g.unparenthesized m := by
  have hkinds : g.Separates := by
    rcases hg with rfl | rfl
    · exact separates_csharp
    · exact separates_visualBasic
  exact ⟨hkinds.symbol?_climb hu hone hn htoken hfree, g.unparenthesized_unparenthesized⟩

/-- The present time, as a name in parentheses that is accessed in parentheses. -/
def wrappedAccess : SourceUnit :=
  let info (id : NodeId) (kind : String) : NodeInfo := .ofKind id kind ⟨⟨1, id⟩, ⟨1, id⟩⟩
  let token (id : NodeId) (kind text : String) : Tree :=
    .node { info id kind with text := some text } []
  let name : Tree := .node { info 8 "IdentifierName" with reference := some 1 }
    [token 9 "IdentifierToken" "Now"]
  let access : Tree := .node (info 2 "SimpleMemberAccessExpression")
    [.node (info 3 "IdentifierName") [token 4 "IdentifierToken" "DateTime"],
      token 5 "DotToken" ".", .node (info 6 "ParenthesizedExpression")
        [token 7 "OpenParenToken" "(", name, token 10 "CloseParenToken" ")"]]
  let root : Tree := .node (info 0 "ParenthesizedExpression")
    [token 1 "OpenParenToken" "(", access, token 11 "CloseParenToken" ")"]
  let symbol : Symbol :=
    ⟨1, "Now", .property, some "System.DateTime", none, false, false, false, none⟩
  ⟨"Clock.cs", .csharp, false, false, root, SymbolTable.empty.insert symbol⟩

theorem climb_keeps_symbol_wrapped :
    let u := wrappedAccess
    u.tree.Numbered ∧
      (∀ p ∈ u.nodes, p.isAny csharp.parenthesized = true → p.childNodes.length ≤ 1) ∧
      ∃ n ∈ u.nodes, n.id = 8 ∧ n.isToken = false ∧ (csharp.climb n).id = 0 ∧
        (∀ a ∈ n.ancestors, a ∈ (csharp.climb n).descendants → u.reference? a = none) ∧
        (csharp.symbol? u n).map Symbol.name = some "Now" ∧
        csharp.symbol? u (csharp.climb n) = csharp.symbol? u n := by
  intro u
  have hu : u.tree.Numbered := by
    rfl
  have hone : ∀ p ∈ u.nodes, p.isAny csharp.parenthesized = true → p.childNodes.length ≤ 1 := by
    decide +kernel
  obtain ⟨n, hn, hid, htoken, htop, habove, hsymbol⟩ : ∃ n ∈ u.nodes, n.id = 8 ∧
      n.isToken = false ∧ (csharp.climb n).id = 0 ∧ (∀ a ∈ n.ancestors, u.reference? a = none) ∧
      (csharp.symbol? u n).map Symbol.name = some "Now" := by
    decide +kernel
  have hfree : ∀ a ∈ n.ancestors, a ∈ (csharp.climb n).descendants → u.reference? a = none :=
    fun a ha _ => habove a ha
  exact ⟨hu, hone, n, hn, hid, htoken, htop, hfree, hsymbol,
    (climb_keeps_symbol (.inl rfl) hu hone hn htoken hfree).1⟩

end Grammar
end TreeLint
