import TreeLint.Proofs.Syntax.Wrapping

/-!
# The tokens at the ends of a node

The first token of a node is the first one that the walk meets. The last one is looked for from the
last child back, and where a child has no token, in the child in front of it. The two searches come
to the two ends of one list: of the tokens at and below the node, those that are in no other token
there. This holds also of trees in which tokens hold other nodes, or nodes hold nothing.

**Results.**
* `Tree.mem_descendants_iff_suffix`: a node is below another one if that one is around it.
* `Node.outerTokens_eq`: the outer tokens of a node are its own or those of its children.
* `Node.ends_outerTokens`: the first and the last token are the ends of the outer tokens.
-/

namespace TreeLint
namespace Syntax

/-- Two searches that answer alike at each place find the same. -/
theorem findSome?_congr {α β : Type} {f g : α → Option β} {l : List α}
    (h : ∀ x ∈ l, f x = g x) : l.findSome? f = l.findSome? g := by
  induction l with
  | nil => rfl
  | cons x l ih =>
      rw [List.findSome?_cons, List.findSome?_cons, h x List.mem_cons_self,
        ih fun y hy => h y (List.mem_cons_of_mem x hy)]

namespace Tree

/-- A node of a tree is at or below another one if the other one is itself or around it. -/
theorem mem_descendants_iff_suffix {t : Tree} {a n : Node} (ha : a ∈ t.walk []) :
    a ∈ n.descendants ↔ (n.tree :: n.above) <:+ (a.tree :: a.above) := by
  constructor
  · exact suffix_of_mem_walk
  · intro h
    rcases List.suffix_cons_iff.mp h with heq | habove
    · obtain ⟨tn, an⟩ := n
      obtain ⟨ta, aa⟩ := a
      cases heq
      exact Node.mem_descendants_self _
    · exact (mem_walk_of_mem_ancestors ha (mem_enclosing_iff.mpr habove)).2

/-- Of the nodes above a node below a child, those below the parent are the parent itself and those
below that child. -/
theorem mem_descendants_iff_of_mem_children {t : Tree} {n c d a : Node} (hd : d ∈ t.walk [])
    (hc : c ∈ n.children) (hdc : d ∈ c.descendants) (ha : a ∈ d.ancestors) :
    a ∈ n.descendants ↔ a = n ∨ a ∈ c.descendants := by
  have hawalk : a ∈ t.walk [] := (mem_walk_of_mem_ancestors hd ha).1
  constructor
  · intro han
    have hca : (a.tree :: a.above) <:+ (d.tree :: d.above) :=
      (mem_enclosing_iff.mp ha).trans (List.suffix_cons _ _)
    rcases List.suffix_or_suffix_of_suffix (suffix_of_mem_walk hdc) hca with hin | hout
    · exact .inr ((mem_descendants_iff_suffix hawalk).mpr hin)
    · -- the node is the child or around it, and not around the parent
      obtain ⟨s, -, rfl⟩ := List.mem_map.mp hc
      rcases List.suffix_cons_iff.mp hout with heq | hparent
      · exact .inr ((mem_descendants_iff_suffix hawalk).mpr (heq ▸ List.suffix_refl _))
      · have heq := hparent.eq_of_length_le (suffix_of_mem_walk han).length_le
        obtain ⟨ta, aa⟩ := a
        obtain ⟨tn, an⟩ := n
        cases heq
        exact .inl rfl
  · rintro (rfl | hac)
    · exact a.mem_descendants_self
    · exact Node.mem_descendants_trans hac (Node.mem_descendants_of_mem_children hc)

end Tree

namespace Node

/-- Whether a node is at or below another one of its tree. -/
def isWithin (d n : Node) : Bool :=
  n.descendants.any fun m => m.same d

/-- Whether one of the nodes above a node is a token at or below another node. -/
def isInTokenOf (d n : Node) : Bool :=
  d.ancestors.any fun a => a.isToken && a.isWithin n

/-- The tokens at and below a node that are in no other token there, in pre-order. -/
def outerTokens (n : Node) : List Node :=
  n.descendants.filter fun d => d.isToken && !d.isInTokenOf n

/-! ## The searches from node to node -/

theorem firstToken?_eq (n : Node) :
    n.firstToken? = if n.isToken then some n else n.children.findSome? firstToken? := by
  rw [firstToken?, descendants_eq_cons_flatMap, List.find?_cons, List.find?_flatMap]
  cases n.isToken <;> rfl

theorem lastToken?_eq (n : Node) :
    n.lastToken? = if n.isToken then some n else n.children.reverse.findSome? lastToken? := by
  have hlast : ∀ (above ts : List Tree), Tree.lastTokenOf? above ts =
      (ts.map fun t => (⟨t, above⟩ : Node)).reverse.findSome? lastToken? := by
    intro above ts
    induction ts with
    | nil => rfl
    | cons t ts ih =>
        cases hrest : (ts.map fun t => (⟨t, above⟩ : Node)).reverse.findSome? lastToken? <;>
          simp [Tree.lastTokenOf?, ih, hrest, lastToken?]
  obtain ⟨⟨info, ts⟩, above⟩ := n
  rw [lastToken?, Tree.lastToken?, hlast]
  rfl

/-! ## The outer tokens -/

section Numbered

variable {t : Tree} (ht : t.Numbered) {n : Node} (hn : n ∈ t.walk [])
include ht hn

theorem isWithin_iff {d : Node} (hd : d ∈ t.walk []) : d.isWithin n = true ↔ d ∈ n.descendants := by
  rw [isWithin, List.any_eq_true]
  constructor
  · rintro ⟨m, hm, hsame⟩
    have hmwalk : m ∈ t.walk [] := (Tree.descendants_isInfix_walk hn).subset hm
    rwa [← ht.eq_of_id_eq hmwalk hd (beq_iff_eq.mp hsame)]
  · intro h
    exact ⟨d, h, beq_self_eq_true d.id⟩

/-- No node above a node is below it. -/
theorem isInTokenOf_self : n.isInTokenOf n = false := by
  rw [isInTokenOf, List.any_eq_false]
  intro a ha hwithin
  obtain ⟨hawalk, hbelow⟩ := Tree.mem_walk_of_mem_ancestors hn ha
  have han := (isWithin_iff ht hn hawalk).mp (Bool.and_eq_true_iff.mp hwithin).2
  have hlong := (Tree.suffix_of_mem_walk han).length_le
  have hshort := (mem_enclosing_iff.mp ha).length_le
  rw [List.length_cons, List.length_cons] at hlong
  rw [List.length_cons] at hshort
  omega

/-- What is below a child is in a token below the parent if the parent is a token or if it is in a
token below the child. -/
theorem isInTokenOf_of_mem_children {c d : Node} (hc : c ∈ n.children) (hd : d ∈ c.descendants) :
    d.isInTokenOf n = (n.isToken || d.isInTokenOf c) := by
  have hcwalk : c ∈ t.walk [] := Tree.mem_walk_of_mem_children hn hc
  have hdwalk : d ∈ t.walk [] := (Tree.descendants_isInfix_walk hcwalk).subset hd
  have hwithin : ∀ a ∈ d.ancestors, (a.isWithin n = true ↔ a = n ∨ a.isWithin c = true) := by
    intro a ha
    have hawalk := (Tree.mem_walk_of_mem_ancestors hdwalk ha).1
    rw [isWithin_iff ht hn hawalk, isWithin_iff ht hcwalk hawalk]
    exact Tree.mem_descendants_iff_of_mem_children hdwalk hc hd ha
  rw [Bool.eq_iff_iff, Bool.or_eq_true_iff, isInTokenOf, isInTokenOf, List.any_eq_true,
    List.any_eq_true]
  simp only [Bool.and_eq_true_iff]
  constructor
  · rintro ⟨a, ha, htoken, hain⟩
    rcases (hwithin a ha).mp hain with rfl | hac
    · exact .inl htoken
    · exact .inr ⟨a, ha, htoken, hac⟩
  · rintro (htoken | ⟨a, ha, htoken, hac⟩)
    · have hparent := Tree.mem_ancestors_of_mem_children hc hd
      exact ⟨n, hparent, htoken, (hwithin n hparent).mpr (.inl rfl)⟩
    · exact ⟨a, ha, htoken, (hwithin a ha).mpr (.inr hac)⟩

theorem mem_outerTokens_iff {d : Node} :
    d ∈ n.outerTokens ↔ d ∈ n.descendants ∧ d.isToken = true ∧
      ∀ a ∈ d.ancestors, a ∈ n.descendants → a.isToken = false := by
  rw [outerTokens, List.mem_filter, Bool.and_eq_true_iff, Bool.not_eq_true', isInTokenOf,
    List.any_eq_false]
  refine and_congr_right fun hd => and_congr_right fun _ => forall₂_congr fun a ha => ?_
  have hdwalk : d ∈ t.walk [] := (Tree.descendants_isInfix_walk hn).subset hd
  have hawalk : a ∈ t.walk [] := (Tree.mem_walk_of_mem_ancestors hdwalk ha).1
  rw [← isWithin_iff ht hn hawalk, Bool.and_eq_true_iff, not_and, imp_not_comm, Bool.not_eq_true]

/-- A token is its own outer token; the outer tokens of another node are those of its children. -/
theorem outerTokens_eq :
    n.outerTokens = if n.isToken then [n] else n.children.flatMap outerTokens := by
  have hchild : ∀ c ∈ n.children, (c.descendants.filter fun d => d.isToken && !d.isInTokenOf n) =
      if n.isToken then [] else c.outerTokens := by
    intro c hc
    rw [List.filter_congr fun d hd => by rw [isInTokenOf_of_mem_children ht hn hc hd]]
    cases n.isToken with
    | true => simp
    | false => rfl
  rw [outerTokens, descendants_eq_cons_flatMap, List.filter_cons, isInTokenOf_self ht hn,
    List.filter_flatMap, List.flatMap_congr hchild]
  cases n.isToken with
  | true => simp
  | false => rfl

omit hn in
theorem head?_outerTokens (n : Node) (hn : n ∈ t.walk []) :
    n.outerTokens.head? = n.firstToken? := by
  induction n using Node.induction with
  | h n ih =>
      rw [outerTokens_eq ht hn, firstToken?_eq]
      cases n.isToken with
      | true => rfl
      | false =>
          refine List.head?_flatMap.trans (findSome?_congr fun c hc => ?_)
          exact ih c hc (Tree.mem_walk_of_mem_children hn hc)

omit hn in
theorem getLast?_outerTokens (n : Node) (hn : n ∈ t.walk []) :
    n.outerTokens.getLast? = n.lastToken? := by
  induction n using Node.induction with
  | h n ih =>
      rw [outerTokens_eq ht hn, lastToken?_eq]
      cases n.isToken with
      | true => rfl
      | false =>
          refine List.getLast?_flatMap.trans (findSome?_congr fun c hc => ?_)
          have hc := List.mem_reverse.mp hc
          exact ih c hc (Tree.mem_walk_of_mem_children hn hc)

/-- The outer tokens of a node are the tokens at and below it that have no token above them there.
The first token of the node is the first of them and the last token the last, so that there is no
first or last token if and only if there are no outer tokens. -/
theorem ends_outerTokens :
    (n.outerTokens.Sublist n.descendants ∧ ∀ d, d ∈ n.outerTokens ↔ d ∈ n.descendants ∧
      d.isToken = true ∧ ∀ a ∈ d.ancestors, a ∈ n.descendants → a.isToken = false) ∧
    n.firstToken? = n.outerTokens.head? ∧ n.lastToken? = n.outerTokens.getLast? ∧
    (n.firstToken? = none ↔ n.outerTokens = []) ∧ (n.lastToken? = none ↔ n.outerTokens = []) := by
  have hfirst := head?_outerTokens ht n hn
  have hlast := getLast?_outerTokens ht n hn
  refine ⟨⟨List.filter_sublist, fun d => mem_outerTokens_iff ht hn⟩, hfirst.symm, hlast.symm, ?_⟩
  constructor
  · rw [← hfirst, List.head?_eq_none_iff]
  · rw [← hlast, List.getLast?_eq_none_iff]

end Numbered

/-- Two tokens that hold others stand between nodes that hold none. -/
def nestedTokens : Tree :=
  let node (id : NodeId) (kind : String) (children : List Tree) : Tree :=
    .node (.ofKind id kind ⟨⟨1, id⟩, ⟨1, id⟩⟩) children
  node 0 "Block" [node 1 "ParameterList" [], node 2 "IdentifierToken" [node 3 "DotToken" []],
    node 4 "ArgumentList" [node 5 "CloseParenToken" [node 6 "CommaToken" []]], node 7 "Block" []]

theorem ends_outerTokens_nested :
    let n := root nestedTokens
    nestedTokens.Numbered ∧ n ∈ nestedTokens.walk [] ∧ n.outerTokens.map id = [2, 5] ∧
      n.firstToken?.map id = some 2 ∧ n.lastToken?.map id = some 5 := by
  intro n
  have ht : nestedTokens.Numbered := by
    rfl
  have hn : n ∈ nestedTokens.walk [] := n.mem_descendants_self
  have hids : n.outerTokens.map id = [2, 5] := by
    decide +kernel
  obtain ⟨-, hfirst, hlast, -⟩ := ends_outerTokens ht hn
  refine ⟨ht, hn, hids, ?_, ?_⟩
  · rw [hfirst, ← List.head?_map, hids]
    rfl
  · rw [hlast, ← List.getLast?_map, hids]
    rfl

end Node
end Syntax
end TreeLint
