import TreeLint.Grammar.Csharp
import TreeLint.Grammar.VisualBasic
import TreeLint.Proofs.Grammar.Climbing
import TreeLint.Proofs.Grammar.Targets
import TreeLint.Proofs.Grammar.Unfolding

/-!
# Questions about trees with more parentheses

Most questions look through parentheses, so new parentheses do not change the answers: the nodes
that are found are the images of those found before. The exceptions are the name of an expression
and what is known of the expression itself, its type and its constant. Parentheses hide them, and
new ones do no harm only where the answers come from inside.

**Results.**
* `unparenthesized_inner`, `identifier?_inner`, `symbol?_inner`, `climb_inner`: names and what they
  refer to.
* `name?_outer_of_wraps`: an expression in new parentheses has no name.
* `left?_inner`, `right?_inner`, `isLeftSide_inner`, `targetsAt_inner`: assignments.
* `isConstant_outer`, `type?_outer_eq_some_iff`, `stringValue?_outer`, `arguments?_inner`: values.
-/

namespace TreeLint

open Syntax Symbols Source

/-- The unit with parentheses put around some of its nodes. -/
def Source.SourceUnit.wrap (w : Wrapping) (u : SourceUnit) : SourceUnit :=
  { u with tree := u.tree.wrap w }

/-- No child of a node of some kinds is put between parentheses. -/
def Syntax.Wrapping.Spares (w : Wrapping) (t : Tree) (kinds : Grammar.KindSet) : Prop :=
  ∀ p ∈ t.walk [], p.isAny kinds = true → ∀ c ∈ p.children, w.wraps c = false

/-- If only children of some nodes are put between parentheses, the children of others are not. -/
theorem Syntax.Wrapping.spares_of_hosts {w : Wrapping} {t : Tree} {hosts kinds : Grammar.KindSet}
    (hhosts : ∀ n ∈ t.walk [], w.wraps n = true → ∃ p ∈ n.parent?, p.kind ∈ hosts)
    (hkinds : ∀ k ∈ hosts, kinds.contains k = false) : w.Spares t kinds := by
  intro p hp hany c hc
  cases hwraps : w.wraps c with
  | false => rfl
  | true =>
      obtain ⟨q, hq, hhost⟩ := hhosts c (Tree.mem_walk_of_mem_children hp hc) hwraps
      rw [Node.parent?_eq_of_mem_children hc] at hq
      cases hq
      cases hany.symm.trans (hkinds p.kind hhost)

/-- The names at the ends of member accesses and the headers that hold an identifier stay where
they are. -/
structure Syntax.Wrapping.SparesNames (w : Wrapping) (g : Grammar) (t : Tree) : Prop where
  access : w.Spares t g.memberAccess
  header : ∀ n ∈ t.walk [], n.isAny g.namedHeader = true → w.wraps n = false

namespace Grammar

/-- New parentheses are parentheses to a grammar, and nothing else that it looks for. -/
structure Parenthesizes (g : Grammar) : Prop where
  parenthesized : g.parenthesized.contains parenthesizedKind = true
  memberAccess : g.memberAccess.contains parenthesizedKind = false
  namedHeader : g.namedHeader.contains parenthesizedKind = false
  identifierToken : ∀ k, g.identifierToken.contains k = true → isTokenKind k = true
  variableDesignation : ∀ k, g.variableDesignation.contains k = true →
    k ≠ parenthesizedKind ∧ isTokenKind k = false

theorem forall_contains_iff {ks : KindSet} {P : String → Prop} :
    (∀ k, ks.contains k = true → P k) ↔ ∀ k ∈ ks, P k := by
  simp only [List.contains_iff_mem]

theorem parenthesizes_csharp : csharp.Parenthesizes where
  parenthesized := by decide
  memberAccess := by decide
  namedHeader := by decide
  identifierToken := forall_contains_iff.mpr (by decide)
  variableDesignation := forall_contains_iff.mpr (by decide)

theorem parenthesizes_visualBasic : visualBasic.Parenthesizes where
  parenthesized := by decide
  memberAccess := by decide
  namedHeader := by decide
  identifierToken := forall_contains_iff.mpr (by decide)
  variableDesignation := forall_contains_iff.mpr (by decide)

/-- The constant known of an expression is known of what stands inside its parentheses. -/
def ShowsConstant (g : Grammar) (n : Node) : Prop :=
  g.constant? n = (g.unparenthesized n).info.constant

/-- Whether an expression has a type is known of a literal inside its parentheses. -/
def ShowsType (g : Grammar) (type : String) (n : Node) : Prop :=
  g.type? n = some type ↔ g.literalType? n = some type

variable {g : Grammar} {w : Wrapping} {n : Node}

@[simp] theorem isAny_inner (n : Node) (ks : KindSet) : (n.inner w).isAny ks = n.isAny ks :=
  rfl

/-- A token is of no kind of other nodes. -/
theorem isAny_eq_false_of_isToken {ks : KindSet} (hks : ∀ k ∈ ks, isTokenKind k = false)
    (h : n.isToken = true) : n.isAny ks = false := by
  cases hany : n.isAny ks with
  | false => rfl
  | true => cases h.symm.trans (hks n.kind (List.contains_iff_mem.mp hany))

theorem isAny_outer_of_wraps (h : w.wraps n = true) (ks : KindSet) :
    (n.outer w).isAny ks = ks.contains parenthesizedKind := by
  rw [Node.isAny, Node.kind_outer h]

variable (hg : g.Parenthesizes)
include hg

/-! ## Parentheses -/

theorem unparenthesized_outer_eq_inner (n : Node) :
    g.unparenthesized (n.outer w) = g.unparenthesized (n.inner w) := by
  cases h : w.wraps n with
  | false => rw [Node.outer_eq_inner h]
  | true =>
      rw [unparenthesized_eq, isAny_outer_of_wraps h, hg.parenthesized, Node.childNodes_outer h]
      rfl

/-- What stands inside parentheses is what stood there before. -/
@[simp] theorem unparenthesized_inner (n : Node) :
    g.unparenthesized (n.inner w) = (g.unparenthesized n).inner w := by
  induction n using Node.induction with
  | h n ih =>
      rw [unparenthesized_eq, unparenthesized_eq g n, isAny_inner, Node.childNodes_inner,
        List.head?_map]
      split
      · cases hfirst : n.childNodes.head? with
        | none => rfl
        | some c =>
            have hc : c ∈ n.children := Node.mem_children_of_head?_childNodes hfirst
            exact (unparenthesized_outer_eq_inner hg c).trans (ih c hc)
      · rfl

@[simp] theorem unparenthesized_outer (n : Node) :
    g.unparenthesized (n.outer w) = (g.unparenthesized n).inner w :=
  (unparenthesized_outer_eq_inner hg n).trans (unparenthesized_inner hg n)

/-! ## Names -/

@[simp] theorem isAny_identifierToken_outer (n : Node) :
    (n.outer w).isAny g.identifierToken = n.isAny g.identifierToken := by
  cases h : w.wraps n with
  | false => rw [Node.outer_eq_inner h, isAny_inner]
  | true =>
      have hnot : ∀ m : Node, m.isToken = false → m.isAny g.identifierToken = false := by
        intro m hm
        cases hany : m.isAny g.identifierToken with
        | false => rfl
        | true => exact (hg.identifierToken m.kind hany).symm.trans hm
      have htoken := Node.isToken_eq_false_of_wraps h
      rw [hnot _ htoken, hnot _ (Node.isToken_outer.trans htoken)]

omit hg in
/-- A search among images finds the image of what a search among nodes finds. -/
theorem find?_map_outer {P : Node → Bool} {l : List Node}
    (h : ∀ c ∈ l, P (c.outer w) = P c) :
    (l.map (Node.outer w)).find? P = (l.find? P).map (Node.outer w) := by
  induction l with
  | nil => rfl
  | cons c l ih =>
      rw [List.map_cons, List.find?_cons, List.find?_cons, h c List.mem_cons_self,
        ih fun d hd => h d (List.mem_cons_of_mem _ hd)]
      cases P c <;> rfl

section Names

variable {t : Tree} (hw : w.SparesNames g t)
include hw

theorem identifier?_inner (hn : n ∈ t.walk []) :
    g.identifier? (n.inner w) = (g.identifier? n).map (Node.inner w) := by
  induction n using Node.induction with
  | h n ih =>
      have hchild : ∀ c ∈ n.children, w.wraps c = false →
          g.identifier? (c.outer w) = (g.identifier? c).map (Node.inner w) := by
        intro c hc hwraps
        rw [Node.outer_eq_inner hwraps]
        exact ih c hc (Tree.mem_walk_of_mem_children hn hc)
      have hheaders : ∀ c ∈ n.children,
          (!(c.outer w).isToken && (c.outer w).isAny g.namedHeader) =
            (!c.isToken && c.isAny g.namedHeader) := by
        intro c hc
        cases h : w.wraps c with
        | false => rw [Node.outer_eq_inner h, Node.isToken_inner, isAny_inner]
        | true =>
            have hnot : c.isAny g.namedHeader = false := by
              cases hany : c.isAny g.namedHeader with
              | false => rfl
              | true =>
                  rw [hw.header c (Tree.mem_walk_of_mem_children hn hc) hany] at h
                  cases h
            rw [isAny_outer_of_wraps h, hg.namedHeader, hnot, Node.isToken_outer]
      rw [identifier?_eq, identifier?_eq g n, isAny_inner, isAny_inner, Node.childNodes_inner,
        List.getLast?_map, Node.children_inner,
        find?_map_outer fun c _ => isAny_identifierToken_outer hg c, find?_map_outer hheaders]
      split
      · rfl
      · split
        · rename_i haccess
          cases hlast : n.childNodes.getLast? with
          | none => rfl
          | some c =>
              have hc : c ∈ n.children := Node.mem_children_of_getLast?_childNodes hlast
              exact hchild c hc (hw.access n hn haccess c hc)
        · cases htoken : n.children.find? fun c => c.isAny g.identifierToken with
          | some c =>
              have hnot : w.wraps c = false := by
                have hany : c.isAny g.identifierToken = true :=
                  List.find?_some (p := fun c : Node => c.isAny g.identifierToken) htoken
                have hkind : isTokenKind c.kind = true := hg.identifierToken c.kind hany
                rw [Node.wraps_eq_false_iff]
                exact w.parens?_of_isToken c.info hkind
              exact congrArg some (Node.outer_eq_inner hnot)
          | none =>
              cases hheader : n.children.find? fun c => !c.isToken && c.isAny g.namedHeader with
              | none => rfl
              | some c =>
                  have hc := List.mem_of_find?_eq_some hheader
                  have hany : c.isAny g.namedHeader = true :=
                    (Bool.and_eq_true_iff.mp (List.find?_some
                      (p := fun c : Node => !c.isToken && c.isAny g.namedHeader) hheader)).2
                  exact hchild c hc (hw.header c (Tree.mem_walk_of_mem_children hn hc) hany)

theorem name?_inner (hn : n ∈ t.walk []) : g.name? (n.inner w) = g.name? n := by
  rw [name?, name?, identifier?_inner hg hw hn, Option.map_map]
  rfl

end Names

/-- New parentheses have no name. -/
theorem name?_outer_of_wraps {p : Parens} (h : w.parens? n.info = some p)
    (hmarks : ∀ i ∈ p.opening ++ p.closing, g.identifierToken.contains i.kind = false)
    (hheader : n.isAny g.namedHeader = false) : g.name? (n.outer w) = none := by
  have hwraps := Node.wraps_eq_true_of_parens? h
  have hself : (n.outer w).isAny g.identifierToken = false := by
    rw [isAny_identifierToken_outer hg]
    cases hany : n.isAny g.identifierToken with
    | false => rfl
    | true =>
        have htoken : n.isToken = true := hg.identifierToken n.kind hany
        rw [Node.isToken_eq_false_of_wraps hwraps] at htoken
        cases htoken
  have hchildren : ∀ c ∈ (n.outer w).children,
      c = n.inner w ∨ c.info ∈ p.opening ++ p.closing := by
    obtain ⟨before, behind, hsplit, hinfo⟩ := Node.exists_children_outer h
    intro c hc
    rw [hsplit, List.mem_append, List.mem_cons] at hc
    rcases hc with hc | rfl | hc
    · exact .inr (hinfo c (List.mem_append_left behind hc)).1
    · exact .inl rfl
    · exact .inr (hinfo c (List.mem_append_right before hc)).1
  have htoken : ((n.outer w).children.find? fun c => c.isAny g.identifierToken) = none := by
    rw [List.find?_eq_none]
    intro c hc
    rcases hchildren c hc with rfl | hi
    · rw [isAny_inner, ← isAny_identifierToken_outer hg, hself]
      decide
    · exact Bool.eq_false_iff.mp (hmarks c.info hi)
  have hheaders : ((n.outer w).children.find? fun c => !c.isToken && c.isAny g.namedHeader) =
      none := by
    rw [List.find?_eq_none]
    intro c hc
    rcases hchildren c hc with rfl | hi
    · rw [isAny_inner, hheader, Bool.and_false]
      decide
    · have hi : c.isToken = true := p.isToken_of_mem c.info hi
      rw [hi]
      exact Bool.false_ne_true
  rw [name?, identifier?_eq, hself, isAny_outer_of_wraps hwraps, hg.memberAccess, htoken, hheaders]
  rfl

/-! ## The way up -/

theorem climb_inner_eq_outer (n : Node) : g.climb (n.inner w) = g.climb (n.outer w) := by
  cases h : w.parens? n.info with
  | none => rw [Node.outer_eq_inner (Node.wraps_eq_false_iff.mpr h)]
  | some p =>
      rw [climb_eq, Node.parent?_inner h]
      simp only [isAny_outer_of_wraps (Node.wraps_eq_true_of_parens? h), hg.parenthesized,
        Bool.or_true, if_true]

section Numbered

variable {t : Tree} (ht : t.Numbered) (hv : (t.wrap w).Numbered)
include ht hv

omit hg in
theorem isAccessedName_inner {p : Node} (hp : p ∈ t.walk []) (hn : n ∈ t.walk []) :
    g.isAccessedName (p.inner w) (n.outer w) = g.isAccessedName p n := by
  rw [isAccessedName, isAccessedName, isAny_inner, Node.childNodes_inner, List.getLast?_map]
  cases hlast : p.childNodes.getLast? with
  | none => rfl
  | some c =>
      have hc : c ∈ p.children := Node.mem_children_of_getLast?_childNodes hlast
      simp [Node.same_outer ht hv (Tree.mem_walk_of_mem_children hp hc) hn]

/-- A climb ends at what stands in the place of the node at which it ended. -/
theorem climb_outer (hn : n ∈ t.walk []) : g.climb (n.outer w) = (g.climb n).outer w := by
  obtain ⟨s, above⟩ := n
  induction above generalizing s with
  | nil => rfl
  | cons p rest ih =>
      have hparent : Node.parent? ⟨s, p :: rest⟩ = some ⟨p, rest⟩ := rfl
      have hp : (⟨p, rest⟩ : Node) ∈ t.walk [] := (Tree.mem_children_of_parent? hn hparent).1
      rw [climb_eq, climb_eq g ⟨s, p :: rest⟩, Node.parent?_outer, hparent]
      simp only [Option.map_some, isAccessedName_inner ht hv hp hn, isAny_inner,
        climb_inner_eq_outer hg, ih p hp]
      split <;> rfl

theorem climb_inner (hn : n ∈ t.walk []) : g.climb (n.inner w) = (g.climb n).outer w :=
  (climb_inner_eq_outer hg n).trans (climb_outer hg ht hv hn)

end Numbered

/-! ## Symbols -/

section Symbols

variable {u : SourceUnit}

omit hg in
@[simp] theorem reference?_inner (n : Node) : (u.wrap w).reference? (n.inner w) = u.reference? n :=
  rfl

omit hg in
@[simp] theorem declared?_inner (n : Node) : (u.wrap w).declared? (n.inner w) = u.declared? n :=
  rfl

variable (hw : w.SparesNames g u.tree)
include hw

theorem nameSymbol?_inner (hn : n ∈ u.nodes) :
    g.nameSymbol? (u.wrap w) (n.inner w) = g.nameSymbol? u n := by
  rw [nameSymbol?, nameSymbol?, isAny_inner, identifier?_inner hg hw hn, Option.bind_map]
  rfl

omit hw in
theorem symbol?_outer_eq_inner (v : SourceUnit) (n : Node) :
    g.symbol? v (n.outer w) = g.symbol? v (n.inner w) := by
  cases h : w.wraps n with
  | false => rw [Node.outer_eq_inner h]
  | true =>
      rw [symbol?_eq, isAny_outer_of_wraps h, hg.parenthesized, Node.childNodes_outer h]
      rfl

/-- An expression refers to the symbol that it referred to before. -/
theorem symbol?_inner (hn : n ∈ u.nodes) :
    g.symbol? (u.wrap w) (n.inner w) = g.symbol? u n := by
  induction n using Node.induction with
  | h n ih =>
      have hchild : ∀ c ∈ n.childNodes,
          g.symbol? (u.wrap w) (c.outer w) = g.symbol? u c := by
        intro c hc
        have hc : c ∈ n.children := List.filter_sublist.subset hc
        rw [symbol?_outer_eq_inner hg]
        exact ih c hc (Tree.mem_walk_of_mem_children hn hc)
      have hfirst : n.childNodes.head?.map (g.symbol? (u.wrap w) ∘ Node.outer w) =
          n.childNodes.head?.map (g.symbol? u) := by
        cases h : n.childNodes.head? with
        | none => rfl
        | some c => exact congrArg some (hchild c (List.mem_of_head? h))
      have hlast : n.childNodes.getLast?.bind (g.symbol? (u.wrap w) ∘ Node.outer w) =
          n.childNodes.getLast?.bind (g.symbol? u) := by
        cases h : n.childNodes.getLast? with
        | none => rfl
        | some c => exact hchild c (List.mem_of_getLast? h)
      rw [symbol?_eq, symbol?_eq g u, isAny_inner, isAny_inner, Node.childNodes_inner,
        List.head?_map, List.getLast?_map, Option.bind_map, hlast, reference?_inner,
        nameSymbol?_inner hg hw hn]
      split
      · simp [hfirst]
      · rfl

theorem symbol?_outer (hn : n ∈ u.nodes) :
    g.symbol? (u.wrap w) (n.outer w) = g.symbol? u n :=
  (symbol?_outer_eq_inner hg _ n).trans (symbol?_inner hg hw hn)

end Symbols

/-! ## Assignments -/

section Assignments

omit hg

@[simp] theorem argumentExpression?_inner (n : Node) :
    argumentExpression? (n.inner w) = (argumentExpression? n).map (Node.outer w) := by
  cases hrole : n.childInRole? expressionRole <;> simp [argumentExpression?, hrole]

@[simp] theorem left?_inner (n : Node) :
    g.left? (n.inner w) = (g.left? n).map (Node.outer w) := by
  by_cases h : n.isAny g.assignment = true
  · cases hrole : n.childInRole? "left" <;> simp [left?, h, hrole]
  · simp [left?, h]

@[simp] theorem right?_inner (n : Node) :
    g.right? (n.inner w) = (g.right? n).map (Node.outer w) := by
  by_cases h : n.isAny g.assignment = true
  · cases hrole : n.childInRole? "right" <;> simp [right?, h, hrole, ← List.map_tail]
  · simp [right?, h]

section Numbered

variable {t : Tree} (ht : t.Numbered) (hv : (t.wrap w).Numbered)
include ht hv

/-- What stands in the place of a node is a left side if and only if the node was one. -/
theorem any_left?_same_outer {p : Node} (hp : p ∈ t.walk []) (hn : n ∈ t.walk []) :
    ((g.left? (p.inner w)).any fun left => left.same (n.outer w)) =
      (g.left? p).any fun left => left.same n := by
  rw [left?_inner]
  cases hleft : g.left? p with
  | none => rfl
  | some left =>
      have hmem := Tree.mem_walk_of_mem_children hp (g.mem_children_of_left? hleft)
      exact Node.same_outer ht hv hmem hn

theorem isLeftSide_inner (hg : g.Parenthesizes) (hn : n ∈ t.walk []) :
    g.isLeftSide (n.inner w) = g.isLeftSide n := by
  have htop := climb_mem_walk (g := g) hn
  rw [isLeftSide, isLeftSide, climb_inner hg ht hv hn, Node.parent?_outer]
  cases hparent : (g.climb n).parent? with
  | none => rfl
  | some p => exact any_left?_same_outer ht hv (Tree.mem_children_of_parent? htop hparent).1 htop

end Numbered

end Assignments

section Targets

variable {t : Tree} (htuple : w.Spares t g.tuple)
include htuple

omit htuple in
theorem targetsAt_outer_eq_inner (n : Node) :
    targetsAt g (n.outer w) = targetsAt g (n.inner w) := by
  cases h : w.wraps n with
  | false => rw [Node.outer_eq_inner h]
  | true =>
      rw [targetsAt_eq, isAny_outer_of_wraps h, hg.parenthesized, Node.childNodes_outer h]
      rfl

omit htuple in
theorem filter_variableDesignation_inner (n : Node) :
    ((n.inner w).descendants.filter fun d => d.isAny g.variableDesignation) =
      (n.descendants.filter fun d => d.isAny g.variableDesignation).map (Node.inner w) := by
  have hsplit : ∀ l : List Node, ∀ q : Node → Bool,
      l.filter q = l.flatMap fun d => if q d then [d] else [] := by
    intro l q
    induction l with
    | nil => rfl
    | cons d l ih =>
        rw [List.filter_cons, List.flatMap_cons, ← ih]
        cases q d <;> rfl
  have hcollect : (n.inner w).descendants.flatMap
        (fun d => if d.isAny g.variableDesignation then [d] else []) =
      n.descendants.flatMap fun d =>
        if (d.inner w).isAny g.variableDesignation then [d.inner w] else [] := by
    apply Node.flatMap_descendants_inner
    · intro m hm
      cases hany : m.isAny g.variableDesignation with
      | false => rfl
      | true => exact absurd hm (hg.variableDesignation m.kind hany).1
    · intro m hm
      cases hany : m.isAny g.variableDesignation with
      | false => rfl
      | true => cases hm.symm.trans (hg.variableDesignation m.kind hany).2
  rw [hsplit, hcollect, hsplit, List.map_flatMap]
  apply List.flatMap_congr
  intro d _
  rw [isAny_inner]
  split <;> rfl

/-- An assignment changes the images of the expressions that it changed before. -/
theorem targetsAt_inner (hn : n ∈ t.walk []) :
    targetsAt g (n.inner w) = (targetsAt g n).map (Node.inner w) := by
  induction n using Node.strong_induction with
  | h n ih =>
      have hbelow : ∀ c ∈ n.children, ∀ m ∈ c.descendants,
          targetsAt g (m.outer w) = (targetsAt g m).map (Node.inner w) := by
        intro c hc m hm
        rw [targetsAt_outer_eq_inner hg]
        have hmem := Node.mem_descendants_trans hm (Node.mem_descendants_of_mem_children hc)
        exact ih c hc m hm ((Tree.descendants_isInfix_walk hn).subset hmem)
      rw [targetsAt_eq, targetsAt_eq g n, isAny_inner, isAny_inner, isAny_inner,
        filter_variableDesignation_inner hg]
      split
      · rw [Node.childNodes_inner, List.head?_map]
        cases h : n.childNodes.head? with
        | none => rfl
        | some c =>
            have hc : c ∈ n.children := Node.mem_children_of_head?_childNodes h
            exact hbelow c hc c c.mem_descendants_self
      · split
        · rename_i hany
          rw [Node.childNodes_inner_of_not_wraps (htuple n hn hany), List.filter_map,
            List.flatMap_map, List.map_flatMap]
          apply List.flatMap_congr
          intro a ha
          have ha : a ∈ n.children :=
            List.filter_sublist.subset (List.filter_sublist.subset ha)
          rw [argumentExpression?_inner]
          cases h : argumentExpression? a with
          | none => rfl
          | some e =>
              have he := mem_children_of_argumentExpression? h
              exact hbelow a ha e (Node.mem_descendants_of_mem_children he)
        · split <;> rfl

theorem targetsAt_outer (hn : n ∈ t.walk []) :
    targetsAt g (n.outer w) = (targetsAt g n).map (Node.inner w) :=
  (targetsAt_outer_eq_inner hg n).trans (targetsAt_inner hg htuple hn)

theorem targets_inner (hn : n ∈ t.walk []) :
    g.targets (n.inner w) = (g.targets n).map (Node.inner w) := by
  rw [targets_eq, targets_eq g n, left?_inner]
  cases h : g.left? n with
  | none => rfl
  | some left =>
      have hleft := Tree.mem_walk_of_mem_children hn (g.mem_children_of_left? h)
      exact targetsAt_outer hg htuple hleft

end Targets

/-! ## Values -/

section Values

omit hg in
/-- Only parentheses can have a constant of their own. -/
theorem showsConstant_of_not_parenthesized (h : n.isAny g.parenthesized = false) :
    g.ShowsConstant n := by
  have hinside : g.unparenthesized n = n := by
    rw [unparenthesized_eq, h]
    rfl
  cases hconstant : n.info.constant <;> simp [ShowsConstant, constant?, hinside, hconstant]

omit hg in
theorem showsType_of_type_eq_none (h : n.info.type = none) (type : String) :
    g.ShowsType type n := by
  rw [ShowsType, type?, h]
  rfl

@[simp] theorem literalType?_outer (n : Node) : g.literalType? (n.outer w) = g.literalType? n := by
  simp [literalType?, hg]

theorem type?_outer_eq_some_iff {type : String} (hshow : w.wraps n = true → g.ShowsType type n) :
    g.type? (n.outer w) = some type ↔ g.type? n = some type := by
  cases h : w.parens? n.info with
  | none =>
      rw [type?, literalType?_outer hg, Node.outer_eq_inner (Node.wraps_eq_false_iff.mpr h)]
      rfl
  | some p =>
      have hliteral : g.type? (n.outer w) = g.literalType? n := by
        rw [type?, literalType?_outer hg, Node.info_outer h]
        rfl
      rw [hliteral]
      exact (hshow (Node.wraps_eq_true_of_parens? h)).symm

theorem constant?_outer (hshow : w.wraps n = true → g.ShowsConstant n) :
    g.constant? (n.outer w) = g.constant? n := by
  cases h : w.parens? n.info with
  | none =>
      rw [constant?, unparenthesized_outer hg, Node.outer_eq_inner (Node.wraps_eq_false_iff.mpr h)]
      rfl
  | some p =>
      rw [constant?, unparenthesized_outer hg, Node.info_outer h,
        hshow (Node.wraps_eq_true_of_parens? h)]
      rfl

theorem isConstant_outer (hshow : w.wraps n = true → g.ShowsConstant n) :
    g.isConstant (n.outer w) = g.isConstant n := by
  simp [isConstant, constant?_outer hg hshow, hg]

@[simp] theorem isStringLiteral_outer (n : Node) :
    g.isStringLiteral (n.outer w) = g.isStringLiteral n := by
  simp [isStringLiteral, hg]

omit hg in
theorem literalText?_inner
    (hliteral : n.isAny g.stringLiteral = true →
      ∀ c ∈ n.children, ∀ d ∈ c.descendants, w.wraps d = false) :
    g.literalText? (n.inner w) = g.literalText? n := by
  rw [literalText?, literalText?, isAny_inner]
  split
  · rename_i hany
    have hisToken : (Node.isToken ∘ Node.inner w) = Node.isToken := rfl
    rw [Node.firstToken?, Node.firstToken?, Node.descendants_inner (hliteral hany),
      List.find?_map, hisToken, Option.bind_map]
    rfl
  · rfl

theorem stringValue?_outer (hshow : w.wraps n = true → g.ShowsConstant n)
    (hliteral : (g.unparenthesized n).isAny g.stringLiteral = true →
      ∀ c ∈ (g.unparenthesized n).children, ∀ d ∈ c.descendants, w.wraps d = false) :
    g.stringValue? (n.outer w) = g.stringValue? n := by
  rw [stringValue?, stringValue?, constant?_outer hg hshow, unparenthesized_outer hg,
    literalText?_inner hliteral]

variable {t : Tree}

/-- The arguments of a creation are what stands in the place of those it had before. -/
theorem arguments?_inner (hcreation : w.Spares t g.objectCreation)
    (hlist : w.Spares t g.argumentList)
    (hshow : ∀ a ∈ t.walk [], a.isAny g.argument = true →
      ∀ e ∈ argumentExpression? a, w.wraps e = true → g.ShowsConstant e)
    (hn : n ∈ t.walk []) :
    g.arguments? (n.inner w) =
      (g.arguments? n).map (List.map fun a => ⟨a.expression.outer w, a.isConstant⟩) := by
  rw [arguments?, arguments?, isAny_inner]
  split
  · rename_i hany
    have hisAny : ((fun c : Node => c.isAny g.argumentList) ∘ Node.inner w) =
        fun c => c.isAny g.argumentList := rfl
    rw [Node.children_inner_of_not_wraps (hcreation n hn hany), List.find?_map, hisAny,
      Option.map_map, Option.map_map]
    cases hfound : n.children.find? fun c => c.isAny g.argumentList with
    | none => rfl
    | some list =>
        have hmem := Tree.mem_walk_of_mem_children hn (List.mem_of_find?_eq_some hfound)
        have hkind : list.isAny g.argumentList = true :=
          List.find?_some (p := fun c : Node => c.isAny g.argumentList) hfound
        have hisArgument : ((fun c : Node => c.isAny g.argument) ∘ Node.inner w) =
            fun c => c.isAny g.argument := rfl
        simp only [Option.map_some, Function.comp_apply,
          Node.childNodes_inner_of_not_wraps (hlist list hmem hkind), List.filter_map, hisArgument,
          List.filterMap_map, argumentExpression?_inner, ← List.map_filterMap, List.map_map]
        congr 1
        apply List.map_congr_left
        intro e he
        obtain ⟨a, ha, hae⟩ := List.mem_filterMap.mp he
        obtain ⟨hchild, hargument⟩ := List.mem_filter.mp ha
        have ha := Tree.mem_walk_of_mem_children hmem (List.filter_sublist.subset hchild)
        simp only [Function.comp_apply,
          isConstant_outer hg fun h => hshow a ha hargument e hae h]
  · rfl

end Values

end Grammar
end TreeLint
