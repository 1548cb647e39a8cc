import Mathlib.Logic.Relation
import TreeLint.Grammar.Csharp
import TreeLint.Grammar.VisualBasic
import TreeLint.Proofs.Grammar.Targets
import TreeLint.Proofs.Grammar.Unfolding
import TreeLint.Proofs.Syntax.Tables

/-!
# From a name to its assignment

Whether a name is written is asked on the way up: the name climbs to the outermost expression that
it is the name of, and this is looked for among the sides of the node above it. On the way down an
assignment looks through parentheses. The two ways meet, because an expression is held by one pair
of parentheses at most, so that of all expressions with the same one inside their parentheses only
one stands in no parentheses itself.

**Results.**
* `eq_of_unparenthesized_eq`: what stands in no parentheses is told by what is inside it.
* `standsFree_climb`: a climb leaves all parentheses.
* `isLeftSide_iff`: a name is a left side if some assignment of the tree says so.
* `mem_targetsAt`: how an assignment finds its targets.
-/

namespace TreeLint
namespace Grammar

open Syntax Source

variable (g : Grammar)

/-! ## Parentheses -/

/-- A node is what another one holds as parentheses. -/
def IsHeldBy (c p : Node) : Prop :=
  p.isAny g.parenthesized = true ∧ p.childNodes.head? = some c

/-- A node is no child of parentheses. -/
def StandsFree (n : Node) : Prop :=
  ∀ p ∈ n.parent?, p.isAny g.parenthesized = false

variable {g} {n m c p x y a b : Node}

theorem IsHeldBy.parent? (h : g.IsHeldBy c p) : c.parent? = some p :=
  Node.parent?_eq_of_mem_children (Node.mem_children_of_head?_childNodes h.2)

theorem rightUnique_isHeldBy : Relator.RightUnique g.IsHeldBy := by
  intro c p q hp hq
  exact Option.some.inj (hp.parent?.symm.trans hq.parent?)

/-- A node with one child at most that is not a token has each such child alone. -/
theorem childNodes_eq_singleton (hone : p.childNodes.length ≤ 1) (hc : c ∈ p.children)
    (htoken : c.isToken = false) : p.childNodes = [c] := by
  have hmem : c ∈ p.childNodes := List.mem_filter.mpr ⟨hc, by rw [htoken]; rfl⟩
  match hnodes : p.childNodes, hmem, hone with
  | [d], hmem, _ => rw [List.mem_singleton.mp hmem]

/-- What is inside parentheses is held by them, perhaps within others. -/
theorem unparenthesized_isHeld (n : Node) :
    Relation.ReflTransGen g.IsHeldBy (g.unparenthesized n) n := by
  induction n using Node.induction with
  | h n ih =>
      rw [unparenthesized_eq]
      split
      · rename_i hparens
        cases hfirst : n.childNodes.head? with
        | none => exact .refl
        | some c =>
            have hc := Node.mem_children_of_head?_childNodes hfirst
            exact (ih c hc).tail ⟨hparens, hfirst⟩
      · exact .refl

theorem StandsFree.eq_of_isHeld (hx : g.StandsFree x)
    (h : Relation.ReflTransGen g.IsHeldBy x y) : x = y := by
  rcases h.cases_head with heq | ⟨p, hp, -⟩
  · exact heq
  · have hfree := hx p hp.parent?
    rw [hp.1] at hfree
    cases hfree

/-- Two expressions in no parentheses are the same if the same is inside theirs. -/
theorem eq_of_unparenthesized_eq (hx : g.StandsFree x) (hy : g.StandsFree y)
    (h : g.unparenthesized x = g.unparenthesized y) : x = y := by
  have hxin := unparenthesized_isHeld (g := g) x
  rw [h] at hxin
  rcases Relation.ReflTransGen.total_of_right_unique rightUnique_isHeldBy hxin
    (unparenthesized_isHeld y) with hup | hup
  · exact hx.eq_of_isHeld hup
  · exact (hy.eq_of_isHeld hup).symm

/-! ## The climb -/

/-- A way to show that something is true where a climb ends. -/
theorem climb_induction {P : Node → Prop} (hn : P n)
    (hstep : ∀ c p, c.parent? = some p →
      (g.isAccessedName p c || p.isAny g.parenthesized) = true → P c → P p) :
    P (g.climb n) := by
  obtain ⟨t, above⟩ := n
  induction above generalizing t with
  | nil => exact hn
  | cons s above ih =>
      rw [climb_eq]
      show P (if _ then _ else _)
      split
      · rename_i hgoes
        exact ih s (hstep _ ⟨s, above⟩ rfl hgoes hn)
      · exact hn

/-- A climb ends below a node that is neither parentheses nor has it as its name. -/
theorem parent?_climb (h : (g.climb n).parent? = some p) :
    g.isAccessedName p (g.climb n) = false ∧ p.isAny g.parenthesized = false := by
  obtain ⟨t, above⟩ := n
  induction above generalizing t with
  | nil => cases h
  | cons s above ih =>
      rw [climb_eq] at h ⊢
      revert h
      show (if _ then _ else _ : Node).parent? = _ → g.isAccessedName p (if _ then _ else _) = _ ∧ _
      split
      · exact ih s
      · rename_i hstops
        intro h
        cases h
        exact Bool.or_eq_false_iff.mp (Bool.eq_false_iff.mpr hstops)

theorem standsFree_climb (n : Node) : g.StandsFree (g.climb n) :=
  fun _ hp => (parent?_climb hp).2

theorem climb_mem_walk {t : Tree} (hn : n ∈ t.walk []) : g.climb n ∈ t.walk [] :=
  climb_induction hn fun _ _ hp _ hc => (Tree.mem_children_of_parent? hc hp).1

section Numbered

variable {t : Tree} (ht : t.Numbered) (hn : n ∈ t.walk [])
include ht hn

/-- The left side that has the number of the end of a climb is that end. -/
theorem any_left?_same_climb_iff (ha : a ∈ t.walk []) :
    ((g.left? a).any fun left => left.same (g.climb n)) = true ↔
      g.left? a = some (g.climb n) := by
  cases hleft : g.left? a with
  | none => exact iff_of_false Bool.false_ne_true (nofun : none ≠ some _)
  | some left =>
      have hmem := Tree.mem_walk_of_mem_children ha (g.mem_children_of_left? hleft)
      rw [Option.any_some, Node.same, beq_iff_eq, Option.some_inj]
      exact ⟨ht.eq_of_id_eq hmem (climb_mem_walk hn), congrArg Node.id⟩

/-- Whether a name is a left side can be asked of all nodes. -/
theorem isLeftSide_iff :
    g.isLeftSide n = true ↔ ∃ a ∈ t.walk [], g.left? a = some (g.climb n) := by
  rw [isLeftSide]
  constructor
  · intro h
    cases ha : (g.climb n).parent? with
    | none =>
        rw [ha] at h
        cases h
    | some a =>
        have hamem := (Tree.mem_children_of_parent? (climb_mem_walk hn) ha).1
        rw [ha] at h
        exact ⟨a, hamem, (any_left?_same_climb_iff ht hn hamem).mp h⟩
  · rintro ⟨a, hamem, hleft⟩
    rw [Node.parent?_eq_of_mem_children (g.mem_children_of_left? hleft)]
    exact (any_left?_same_climb_iff ht hn hamem).mpr hleft

end Numbered

/-! ## Kinds -/

/-- The kinds of names, with and without what they are accessed on. -/
def nameKinds (g : Grammar) : KindSet :=
  g.identifierName ++ g.memberAccess

/-- Kinds that are met between a name and its assignment are told apart. -/
structure Separates (g : Grammar) : Prop where
  assignment : ∀ k ∈ g.assignment, g.parenthesized.contains k = false
  argument : ∀ k ∈ g.argument, g.parenthesized.contains k = false ∧ g.assignment.contains k = false
  parenthesized : ∀ k ∈ g.parenthesized, isTokenKind k = false
  name : ∀ k ∈ g.nameKinds,
    isTokenKind k = false ∧ g.parenthesized.contains k = false ∧ g.tuple.contains k = false ∧
      g.declarationPattern.contains k = false ∧ g.variableDesignation.contains k = false

theorem separates_csharp : csharp.Separates := by
  constructor <;> decide

theorem separates_visualBasic : visualBasic.Separates := by
  constructor <;> decide

theorem kind_mem_of_isAny {ks : KindSet} (h : n.isAny ks = true) : n.kind ∈ ks :=
  List.contains_iff_mem.mp h

theorem unparenthesized_of_not_parenthesized (h : n.isAny g.parenthesized = false) :
    g.unparenthesized n = n := by
  rw [unparenthesized_eq, h]
  rfl

section Separates

variable (hg : g.Separates)
include hg

theorem Separates.standsFree_left (h : g.left? a = some x) : g.StandsFree x := by
  intro p hp
  rw [Node.parent?_eq_of_mem_children (g.mem_children_of_left? h)] at hp
  cases hp
  exact hg.assignment _ (kind_mem_of_isAny (g.isAny_assignment_of_left? h))

theorem Separates.standsFree_argument (hb : b.isAny g.argument = true)
    (h : argumentExpression? b = some y) : g.StandsFree y := by
  intro p hp
  rw [Node.parent?_eq_of_mem_children (mem_children_of_argumentExpression? h)] at hp
  cases hp
  exact (hg.argument _ (kind_mem_of_isAny hb)).1

/-- Where parentheses hold one expression at most, a name climbs to one whose parentheses have a
name inside them. -/
theorem Separates.isAny_unparenthesized_climb {t : Tree}
    (hparens : ∀ p ∈ t.walk [], p.isAny g.parenthesized = true → p.childNodes.length ≤ 1)
    (hn : n ∈ t.walk []) (hname : n.isAny g.identifierName = true) :
    (g.unparenthesized (g.climb n)).isAny g.nameKinds = true := by
  have hstart : (g.unparenthesized n).isAny g.nameKinds = true := by
    have hkind : n.isAny g.nameKinds = true :=
      List.contains_iff_mem.mpr (List.mem_append_left _ (kind_mem_of_isAny hname))
    rwa [unparenthesized_of_not_parenthesized (hg.name _ (kind_mem_of_isAny hkind)).2.1]
  have hinv := climb_induction (g := g) (n := n)
    (P := fun c => c ∈ t.walk [] ∧ (g.unparenthesized c).isAny g.nameKinds = true)
    ⟨hn, hstart⟩ ?_
  · exact hinv.2
  · rintro c p hcp hgoes ⟨hc, hkind⟩
    obtain ⟨hp, hchild⟩ := Tree.mem_children_of_parent? hc hcp
    refine ⟨hp, ?_⟩
    by_cases hpp : p.isAny g.parenthesized = true
    · have htoken : c.isToken = false := by
        by_cases hcc : c.isAny g.parenthesized = true
        · exact hg.parenthesized _ (kind_mem_of_isAny hcc)
        · rw [unparenthesized_of_not_parenthesized (Bool.eq_false_iff.mpr hcc)] at hkind
          exact (hg.name _ (kind_mem_of_isAny hkind)).1
      rw [unparenthesized_eq, if_pos hpp,
        childNodes_eq_singleton (hparens p hp hpp) hchild htoken]
      exact hkind
    · have haccess : p.isAny g.memberAccess = true := by
        rw [Bool.or_eq_true_iff] at hgoes
        exact (Bool.and_eq_true_iff.mp (hgoes.resolve_right hpp)).1
      rw [unparenthesized_of_not_parenthesized (Bool.eq_false_iff.mpr hpp)]
      exact List.contains_iff_mem.mpr (List.mem_append_right _ (kind_mem_of_isAny haccess))

end Separates

/-! ## The way down -/

@[simp] theorem targetsAt_unparenthesized (n : Node) :
    targetsAt g (g.unparenthesized n) = targetsAt g n := by
  induction n using Node.induction with
  | h n ih =>
      rw [unparenthesized_eq]
      split
      · rename_i hparens
        cases hfirst : n.childNodes.head? with
        | none => rfl
        | some c =>
            rw [targetsAt_eq (n := n), if_pos hparens, hfirst]
            exact ih c (Node.mem_children_of_head?_childNodes hfirst)
      · rfl

/-- A target is what the parentheses hold, a variable that a pattern introduces, or what the
parentheses around the expression of an argument of a tuple hold. -/
theorem mem_targetsAt (h : m ∈ targetsAt g x) :
    g.unparenthesized x = m ∨ m.isAny g.variableDesignation = true ∨
      (g.unparenthesized x).isAny g.tuple = true ∧
        ∃ b y, b.isAny g.argument = true ∧ argumentExpression? b = some y ∧
          g.unparenthesized y = m := by
  induction x using Node.strong_induction with
  | h x ih =>
      rw [targetsAt_eq] at h
      split at h
      · rename_i hparens
        rw [unparenthesized_eq, if_pos hparens]
        cases hfirst : x.childNodes.head? with
        | none =>
            rw [hfirst] at h
            exact .inl (List.mem_singleton.mp h).symm
        | some c =>
            rw [hfirst] at h
            exact ih c (Node.mem_children_of_head?_childNodes hfirst) c c.mem_descendants_self h
      · rename_i hparens
        have hself := unparenthesized_of_not_parenthesized (Bool.eq_false_iff.mpr hparens)
        split at h
        · rename_i htuple
          obtain ⟨b, hb, h⟩ := List.mem_flatMap.mp h
          obtain ⟨hbnode, hbkind⟩ := List.mem_filter.mp hb
          cases hy : argumentExpression? b with
          | none =>
              rw [hy] at h
              cases h
          | some y =>
              rw [hy] at h
              have hbelow := Node.mem_descendants_of_mem_children
                (mem_children_of_argumentExpression? hy)
              rw [← hself] at htuple
              rcases ih b (List.filter_sublist.subset hbnode) y hbelow h with
                hinside | hvariable | ⟨-, hargument⟩
              · exact .inr (.inr ⟨htuple, b, y, hbkind, hy, hinside⟩)
              · exact .inr (.inl hvariable)
              · exact .inr (.inr ⟨htuple, hargument⟩)
        · split at h
          · exact .inr (.inl (List.mem_filter.mp h).2)
          · exact .inl (hself.trans (List.mem_singleton.mp h).symm)

end Grammar
end TreeLint
