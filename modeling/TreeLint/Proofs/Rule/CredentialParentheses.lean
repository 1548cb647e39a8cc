import Mathlib.Data.List.Perm.Basic
import TreeLint.Proofs.Grammar.Wrapping
import TreeLint.Proofs.Rule.Access
import TreeLint.Proofs.Rule.CredentialRequests

/-!
# Credentials in parentheses

The rule on hard-coded credentials looks through parentheses for the value of an expression and for
the symbol that it refers to, but not for its name, and not for its type unless a literal stands
inside. So parentheses around a value change nothing if all that is known of the value is known of
what stands inside them, and parentheses around the left side of an assignment hide its name: what
was said about the string that is assigned to it is not said any more.

**Results.**
* `constantArgument_inner`, `constantPassword_inner`: the conditions on tracked interfaces.
* `message?_inner`: what is said about assigned strings.
* `messagesOf_wrap_sides`: the messages of the rule.
-/

namespace TreeLint
namespace Rule
namespace HardcodedCredentials

open Report Source Symbols Syntax

/-- The arguments of an object creation stand in argument nodes. -/
theorem exists_argument_of_argumentAt? {g : Grammar} {t : Tree} {n : Node} {index : Nat}
    {a : Grammar.Argument} (hn : n ∈ t.walk []) (h : argumentAt? g n index = some a) :
    ∃ p ∈ t.walk [], p.isAny g.argument = true ∧
      Grammar.argumentExpression? p = some a.expression := by
  rw [argumentAt?, Grammar.arguments?] at h
  split at h
  · obtain ⟨args, hargs, hget⟩ := Option.bind_eq_some_iff.mp h
    obtain ⟨list, hlist, rfl⟩ := Option.map_eq_some_iff.mp hargs
    obtain ⟨e, he, rfl⟩ := List.mem_map.mp (List.mem_of_getElem? hget)
    obtain ⟨p, hp, hpe⟩ := List.mem_filterMap.mp he
    obtain ⟨hchild, hargument⟩ := List.mem_filter.mp hp
    have hlist := Tree.mem_walk_of_mem_children hn (List.mem_of_find?_eq_some hlist)
    exact ⟨p, Tree.mem_walk_of_mem_children hlist (List.filter_sublist.subset hchild), hargument,
      hpe⟩
  · cases h

/-! ## Parentheses around the sides of assignments and the like -/

/-- A node is a value that stands below another one: the right side of an assignment, the value of
an initializer, or the expression of an argument. -/
inductive IsValueBelow (l : Language) (p n : Node) : Prop
  | right (hn : (grammarOf l).right? p = some n)
  | initializer (hp : p.kind = (sites l).initializer) (hn : p.childNodes.getLast? = some n)
  | argument (hp : p.isAny (grammarOf l).argument = true)
      (hn : Grammar.argumentExpression? p = some n)

/-- Parentheses are put around left sides of assignments and around values, none of them in a string
literal and none of them with an identifier of their own. The constant of such a value, and whether
an argument is a string, is known of what stands inside its parentheses. -/
structure WrapsSides (w : Wrapping) (l : Language) (u : SourceUnit) : Prop where
  site : ∀ n ∈ u.nodes, w.wraps n = true →
    ∃ p ∈ n.parent?, (grammarOf l).left? p = some n ∨ IsValueBelow l p n
  header : ∀ n ∈ u.nodes, w.wraps n = true → n.isAny (grammarOf l).namedHeader = false
  literal : ∀ n ∈ u.nodes, w.wraps n = true →
    ∀ a ∈ n.ancestors, a.isAny (grammarOf l).stringLiteral = false
  mark : ∀ n ∈ u.nodes, ∀ p ∈ w.parens? n.info, ∀ i ∈ p.opening ++ p.closing,
    (grammarOf l).identifierToken.contains i.kind = false
  constant : ∀ p ∈ u.nodes, ∀ n, IsValueBelow l p n → w.wraps n = true →
    (grammarOf l).ShowsConstant n
  type : ∀ p ∈ u.nodes, p.isAny (grammarOf l).argument = true →
    ∀ n ∈ Grammar.argumentExpression? p, w.wraps n = true → (grammarOf l).ShowsType stringType n

@[simp] theorem language_grammarOf (l : Language) : (grammarOf l).language = l := by
  cases l <;> rfl

theorem parenthesizes_grammarOf (l : Language) : (grammarOf l).Parenthesizes := by
  cases l with
  | csharp => exact Grammar.parenthesizes_csharp
  | visualBasic => exact Grammar.parenthesizes_visualBasic

/-- The kinds of nodes below which there are sides of assignments and values. -/
def hostKinds (l : Language) : Grammar.KindSet :=
  (grammarOf l).assignment ++ [(sites l).initializer] ++ (grammarOf l).argument

theorem IsValueBelow.mem_hostKinds {l : Language} {p n : Node} (h : IsValueBelow l p n) :
    p.kind ∈ hostKinds l := by
  rw [hostKinds, List.mem_append, List.mem_append]
  cases h with
  | right hn =>
      exact .inl (.inl (List.contains_iff_mem.mp (Grammar.isAny_assignment_of_right? hn)))
  | initializer hp _ => exact .inl (.inr (List.mem_singleton.mpr hp))
  | argument hp _ => exact .inr (List.contains_iff_mem.mp hp)

theorem mem_hostKinds_of_left? {l : Language} {p n : Node} (h : (grammarOf l).left? p = some n) :
    p.kind ∈ hostKinds l := by
  have hassignment := Grammar.isAny_assignment_of_left? _ h
  exact List.mem_append_left _ (List.mem_append_left _ (List.contains_iff_mem.mp hassignment))

theorem IsValueBelow.mem_children {l : Language} {p n : Node} (h : IsValueBelow l p n) :
    n ∈ p.children := by
  cases h with
  | right hn => exact Grammar.mem_children_of_right? hn
  | initializer _ hn => exact Node.mem_children_of_getLast?_childNodes hn
  | argument _ hn => exact Grammar.mem_children_of_argumentExpression? hn

/-- What is said about assignments whose left side is put between parentheses. -/
def hiddenMessages (words : Credential.WordSet) (l : Language) (w : Wrapping) (u : SourceUnit) :
    List String :=
  (u.nodes.filter fun n => ((grammarOf l).left? n).any w.wraps).filterMap
    (message? words (grammarOf l))

section Wrapped

variable {l : Language} {u : SourceUnit} {w : Wrapping} (h : WrapsSides w l u)
include h

theorem spares_of_wrapsSides {ks : Grammar.KindSet}
    (hks : ∀ k ∈ hostKinds l, ks.contains k = false) : w.Spares u.tree ks := by
  refine Wrapping.spares_of_hosts (fun n hn hwraps => ?_) hks
  obtain ⟨p, hp, hleft | hvalue⟩ := h.site n hn hwraps
  · exact ⟨p, hp, mem_hostKinds_of_left? hleft⟩
  · exact ⟨p, hp, hvalue.mem_hostKinds⟩

theorem sparesNames_of_wrapsSides : w.SparesNames (grammarOf l) u.tree where
  access := spares_of_wrapsSides h (by cases l <;> decide)
  header := by
    intro n hn hheader
    cases hwraps : w.wraps n with
    | false => rfl
    | true => cases hheader.symm.trans (h.header n hn hwraps)

/-! ### Tracked interfaces -/

section Tests

variable {n : Node} (hn : n ∈ u.nodes) (pass : Pass)
include hn

theorem argumentAt?_inner (index : Nat) :
    argumentAt? (grammarOf l) (n.inner w) index =
      (argumentAt? (grammarOf l) n index).map fun a => ⟨a.expression.outer w, a.isConstant⟩ := by
  have hshow : ∀ a ∈ u.tree.walk [], a.isAny (grammarOf l).argument = true →
      ∀ e ∈ Grammar.argumentExpression? a, w.wraps e = true → (grammarOf l).ShowsConstant e :=
    fun a ha hargument e he => h.constant a ha e (.argument hargument he)
  rw [argumentAt?, argumentAt?, Grammar.arguments?_inner (parenthesizes_grammarOf l)
    (spares_of_wrapsSides h (by cases l <;> decide))
    (spares_of_wrapsSides h (by cases l <;> decide)) hshow hn]
  cases (grammarOf l).arguments? n with
  | none => rfl
  | some args => exact List.getElem?_map

/-- An object creation meets the conditions that it met before. -/
theorem constantArgument_inner (type : String) (index : Nat) :
    (constantArgument type index).all
        (Condition.holds (CreationTest.holds ⟨grammarOf l, u.wrap w, n.inner w, pass⟩)) =
      (constantArgument type index).all
        (Condition.holds (CreationTest.holds ⟨grammarOf l, u, n, pass⟩)) := by
  have hg := parenthesizes_grammarOf l
  have hconstructor :
      (CreationTest.constructor type).holds ⟨grammarOf l, u.wrap w, n.inner w, pass⟩ =
        (CreationTest.constructor type).holds ⟨grammarOf l, u, n, pass⟩ := by
    rw [CreationTest.holds, CreationTest.holds,
      Grammar.symbol?_inner hg (sparesNames_of_wrapsSides h) hn]
  have hstring :
      (CreationTest.argumentType index stringType).holds
          ⟨grammarOf l, u.wrap w, n.inner w, pass⟩ =
        (CreationTest.argumentType index stringType).holds ⟨grammarOf l, u, n, pass⟩ := by
    rw [CreationTest.holds, CreationTest.holds, argumentAt?_inner h hn]
    cases hfound : argumentAt? (grammarOf l) n index with
    | none => rfl
    | some a =>
        obtain ⟨p, hp, hargument, he⟩ := exists_argument_of_argumentAt? hn hfound
        rw [Option.map_some, Option.any_some, Option.any_some, Bool.eq_iff_iff, beq_iff_eq,
          beq_iff_eq, Grammar.type?_outer_eq_some_iff hg (h.type p hp hargument _ he)]
  have hconstant :
      (CreationTest.argumentConstant index).holds ⟨grammarOf l, u.wrap w, n.inner w, pass⟩ =
        (CreationTest.argumentConstant index).holds ⟨grammarOf l, u, n, pass⟩ := by
    rw [CreationTest.holds, CreationTest.holds, argumentAt?_inner h hn, Option.any_map]
  simp only [constantArgument, List.all_cons, Condition.holds, hconstructor, hstring, hconstant,
    List.all_nil]

variable (hu : u.tree.Numbered) (hv : (u.tree.wrap w).Numbered)
include hu hv

omit h in
theorem assignedValue?_inner :
    assignedValue? (grammarOf l) (n.inner w) =
      (assignedValue? (grammarOf l) n).map (Node.outer w) := by
  have htop := Grammar.climb_mem_walk (g := grammarOf l) hn
  rw [assignedValue?, assignedValue?,
    Grammar.climb_inner (parenthesizes_grammarOf l) hu hv hn, Node.parent?_outer]
  cases hparent : ((grammarOf l).climb n).parent? with
  | none => rfl
  | some p =>
      have hp := (Tree.mem_children_of_parent? htop hparent).1
      simp only [Option.map_some, Grammar.any_left?_same_outer hu hv hp htop,
        Grammar.right?_inner]
      split <;> rfl

/-- A name passes the tests that it passed before. -/
theorem accessTest_inner (test : AccessTest) :
    test.holds ⟨grammarOf l, u.wrap w, n.inner w, pass⟩ = test.holds ⟨grammarOf l, u, n, pass⟩ := by
  have hg := parenthesizes_grammarOf l
  have hnames := sparesNames_of_wrapsSides h
  cases test with
  | setter => exact Grammar.isLeftSide_inner hu hv hg hn
  | getter => exact congrArg not (Grammar.isLeftSide_inner hu hv hg hn)
  | constant =>
      rw [AccessTest.holds, AccessTest.holds, assignedValue?_inner hn hu hv]
      cases hvalue : assignedValue? (grammarOf l) n with
      | none => rfl
      | some e =>
          obtain ⟨p, hp, -, he⟩ := (assignedValue?_eq_some_iff hu hn).mp hvalue
          exact Grammar.isConstant_outer hg (h.constant p hp e (.right he))
  | property type name =>
      rw [AccessTest.holds, AccessTest.holds, Grammar.name?_inner hg hnames hn,
        Grammar.symbol?_inner hg hnames hn]

theorem constantPassword_inner :
    constantPassword.all
        (Condition.holds (AccessTest.holds ⟨grammarOf l, u.wrap w, n.inner w, pass⟩)) =
      constantPassword.all (Condition.holds (AccessTest.holds ⟨grammarOf l, u, n, pass⟩)) := by
  rw [funext (accessTest_inner h hn pass hu hv)]

end Tests

/-! ### Assigned strings -/

/-- What is asked about an assigned value has the same answers as before. -/
theorem value_outer {p n : Node} (hp : p ∈ u.nodes) (hn : IsValueBelow l p n) :
    (grammarOf l).isStringLiteral (n.outer w) = (grammarOf l).isStringLiteral n ∧
      (grammarOf l).stringValue? (n.outer w) = (grammarOf l).stringValue? n := by
  have hg := parenthesizes_grammarOf l
  have hmem := Tree.mem_walk_of_mem_children hp hn.mem_children
  refine ⟨Grammar.isStringLiteral_outer hg n,
    Grammar.stringValue?_outer hg (h.constant p hp n hn) ?_⟩
  intro hliteral c hc d hd
  cases hwraps : w.wraps d with
  | false => rfl
  | true =>
      have hinside : (grammarOf l).unparenthesized n ∈ u.nodes :=
        (Tree.descendants_isInfix_walk hmem).subset (Grammar.unparenthesized_mem_descendants _ n)
      have hd' : d ∈ u.nodes := (Tree.descendants_isInfix_walk hinside).subset
        (Node.mem_descendants_trans hd (Node.mem_descendants_of_mem_children hc))
      have habove := h.literal d hd' hwraps _ (Tree.mem_ancestors_of_mem_children hc hd)
      cases hliteral.symm.trans habove

omit h in
/-- A declaration has no left side. -/
theorem left?_eq_none_of_declares {n : Node} (hn : n.isAny (sites l).declarations = true) :
    (grammarOf l).left? n = none := by
  have hdisjoint : ∀ k ∈ (sites l).declarations,
      (grammarOf l).assignment.contains k = false := by
    cases l <;> decide
  have hnot := hdisjoint n.kind (List.contains_iff_mem.mp hn)
  rw [Grammar.left?, Node.isAny, hnot]
  rfl

/-- Parentheses around a left side hide its name. -/
theorem name?_left_outer {left : Node} (hleft : left ∈ u.nodes) :
    (grammarOf l).name? (left.outer w) =
      if w.wraps left then none else (grammarOf l).name? left := by
  have hg := parenthesizes_grammarOf l
  cases hp : w.parens? left.info with
  | none =>
      have hwraps := Node.wraps_eq_false_iff.mpr hp
      rw [Node.outer_eq_inner hwraps, Grammar.name?_inner hg (sparesNames_of_wrapsSides h) hleft,
        hwraps]
      rfl
  | some p =>
      have hwraps := Node.wraps_eq_true_of_parens? hp
      rw [Grammar.name?_outer_of_wraps hg hp (h.mark left hleft p hp)
        (h.header left hleft hwraps), hwraps]
      rfl

/-- The name of an assigned value is hidden if the left side is put between parentheses. -/
theorem assigned?_inner {n : Node} (hn : n ∈ u.nodes) :
    assigned? (grammarOf l) (n.inner w) =
      if ((grammarOf l).left? n).any w.wraps then none
      else (assigned? (grammarOf l) n).map fun a => (a.1, a.2.outer w) := by
  rw [assigned?, assigned?, language_grammarOf, Grammar.isAny_inner, Grammar.isAny_inner]
  split
  · rename_i hdeclares
    have hspared : w.Spares u.tree (sites l).declarations :=
      spares_of_wrapsSides h (by cases l <;> decide)
    rw [left?_eq_none_of_declares hdeclares,
      Grammar.name?_inner (parenthesizes_grammarOf l) (sparesNames_of_wrapsSides h) hn,
      Node.childOfKind?_inner_of_not_wraps (hspared n hn hdeclares)]
    cases (grammarOf l).name? n with
    | none => rfl
    | some name =>
        cases n.childOfKind? (sites l).initializer with
        | none => rfl
        | some clause =>
            simp only [Option.map_some, Option.bind_eq_bind, Option.bind_some,
              Node.childNodes_inner, List.getLast?_map]
            cases clause.childNodes.getLast? <;> rfl
  · split
    · rw [Grammar.left?_inner, Grammar.right?_inner]
      cases hleft : (grammarOf l).left? n with
      | none => rfl
      | some left =>
          have hmem := Tree.mem_walk_of_mem_children hn (Grammar.mem_children_of_left? _ hleft)
          simp only [Option.map_some, Option.any_some, Option.bind_eq_bind, Option.bind_some,
            name?_left_outer h hmem]
          split
          · rfl
          · cases (grammarOf l).name? left with
            | none => rfl
            | some name => cases (grammarOf l).right? n <;> rfl
    · split <;> rfl

omit h in
/-- An assigned value stands where the rule looks for values. -/
theorem isValueBelow_of_assigned? {n : Node} (hn : n ∈ u.nodes) {a : String × Node}
    (ha : assigned? (grammarOf l) n = some a) :
    ∃ p ∈ u.nodes, IsValueBelow l p a.2 := by
  rw [assigned?, language_grammarOf] at ha
  simp only [Option.bind_eq_bind] at ha
  split at ha
  · obtain ⟨name, -, ha⟩ := Option.bind_eq_some_iff.mp ha
    obtain ⟨clause, hclause, ha⟩ := Option.bind_eq_some_iff.mp ha
    obtain ⟨value, hvalue, ha⟩ := Option.bind_eq_some_iff.mp ha
    cases ha
    have hkind : clause.kind = (sites l).initializer :=
      beq_iff_eq.mp (List.find?_some (p := fun c : Node => c.kind == (sites l).initializer) hclause)
    exact ⟨clause, Tree.mem_walk_of_mem_children hn (List.mem_of_find?_eq_some hclause),
      .initializer hkind hvalue⟩
  · split at ha
    · obtain ⟨left, -, ha⟩ := Option.bind_eq_some_iff.mp ha
      obtain ⟨name, -, ha⟩ := Option.bind_eq_some_iff.mp ha
      obtain ⟨value, hvalue, ha⟩ := Option.bind_eq_some_iff.mp ha
      cases ha
      exact ⟨n, hn, .right hvalue⟩
    · cases ha

/-- Of an assignment whose left side is put between parentheses nothing is said any more. -/
theorem message?_inner (words : Credential.WordSet) {n : Node} (hn : n ∈ u.nodes) :
    message? words (grammarOf l) (n.inner w) =
      if ((grammarOf l).left? n).any w.wraps then none
      else message? words (grammarOf l) n := by
  rw [message?, message?, assigned?_inner h hn]
  split
  · rfl
  · cases ha : assigned? (grammarOf l) n with
    | none => rfl
    | some a =>
        obtain ⟨p, hp, hvalue⟩ := isValueBelow_of_assigned? hn ha
        obtain ⟨hliteral, htext⟩ := value_outer h hp hvalue
        simp only [Option.map_some, Option.bind_eq_bind, Option.bind_some, hliteral, htext]

/-! ### The messages of the rule -/

variable (hu : u.tree.Numbered) (hv : (u.tree.wrap w).Numbered)
include hu hv

theorem texts_tracker_inner {n : Node} (hn : n ∈ u.nodes) {q : Request}
    (hq : q ∈ trackers (grammarOf l)) :
    q.texts ⟨grammarOf l, u.wrap w, n.inner w, .declaration⟩ =
      q.texts ⟨grammarOf l, u, n, .declaration⟩ := by
  simp only [trackers, List.mem_cons, List.not_mem_nil, or_false] at hq
  rcases hq with rfl | rfl | rfl
  · exact texts_trackAction (constantArgument_inner h hn .declaration _ _) rfl _ _ _
  · exact texts_trackAction (constantArgument_inner h hn .declaration _ _) rfl _ _ _
  · exact texts_trackAction (constantPassword_inner h hn .declaration hu hv) rfl _ _ _

/-- What was said at a node is said in the new unit, or it is hidden. -/
theorem textsAt_inner (words : Credential.WordSet) {n : Node} (hn : n ∈ u.nodes) :
    textsAt words l (u.wrap w) (n.inner w) ++
        (if ((grammarOf l).left? n).any w.wraps then (message? words (grammarOf l) n).toList
        else []) =
      textsAt words l u n := by
  rw [textsAt_eq, textsAt_eq, message?_inner h words hn,
    List.flatMap_congr fun q hq => texts_tracker_inner h hu hv hn hq, List.append_assoc]
  congr 1
  split
  · rfl
  · exact List.append_nil _

/-- What is said about the new unit and what is hidden there make up what was said before. -/
theorem messagesOf_wrap_append_hidden (s : Settings) :
    (messagesOf descriptor s l (u.wrap w) ++ hiddenMessages s.words l w u).Perm
      (messagesOf descriptor s l u) := by
  have hnodes : (u.wrap w).nodes = (u.root.outer w).descendants := rfl
  have hparens : ∀ m : Node, m.kind = parenthesizedKind →
      textsAt s.words l (u.wrap w) m = [] := by
    intro m hm
    have hkinds : ∀ ks ∈ requestedKinds l, ks.contains parenthesizedKind = false := by
      cases l <;> decide
    apply textsAt_eq_nil
    intro ks hks
    rw [Node.isAny, hm]
    exact hkinds ks hks
  have htoken : ∀ m : Node, m.isToken = true → textsAt s.words l (u.wrap w) m = [] := by
    intro m hm
    have hkinds : ∀ ks ∈ requestedKinds l, ∀ k ∈ ks, isTokenKind k = false := by
      cases l <;> decide
    exact textsAt_eq_nil (fun ks hks => Grammar.isAny_eq_false_of_isToken (hkinds ks hks) hm) _ _
  have hhidden : hiddenMessages s.words l w u = u.nodes.flatMap fun n =>
      if ((grammarOf l).left? n).any w.wraps then (message? s.words (grammarOf l) n).toList
      else [] := by
    rw [hiddenMessages, List.filterMap_eq_flatMap_toList, flatMap_filter]
  rw [messagesOf_eq_flatMap_textsAt, messagesOf_eq_flatMap_textsAt, hnodes,
    Node.flatMap_descendants_outer hparens htoken, hhidden]
  refine (List.flatMap_append_perm u.nodes _ _).trans (List.Perm.of_eq ?_)
  exact List.flatMap_congr fun n hn => textsAt_inner h hu hv s.words hn

/-- Parentheses around left sides and values hide what was said about assignments whose left side
they are put around, and change nothing else. So the messages are the same if and only if nothing
was said about those. -/
theorem messagesOf_wrap_sides (s : Settings) :
    (messagesOf descriptor s l (u.wrap w) ++ hiddenMessages s.words l w u).Perm
        (messagesOf descriptor s l u) ∧
      ((messagesOf descriptor s l (u.wrap w)).Perm (messagesOf descriptor s l u) ↔
        hiddenMessages s.words l w u = []) := by
  have hall := messagesOf_wrap_append_hidden h hu hv s
  refine ⟨hall, ?_, ?_⟩
  · intro hsame
    have hlength := hall.length_eq
    rw [List.length_append, hsame.length_eq] at hlength
    exact List.eq_nil_of_length_eq_zero (by omega)
  · intro hnone
    rwa [hnone, List.append_nil] at hall

end Wrapped

/-! ### Two assignments and a creation -/

/-- A password is assigned twice. -/
def assignedPasswords : SourceUnit :=
  let info (id : NodeId) (kind : String) : NodeInfo := .ofKind id kind ⟨⟨1, id⟩, ⟨1, id⟩⟩
  let assignment (id : NodeId) : Tree := .node (info id "SimpleAssignmentExpression")
    [.node (info (id + 1) "IdentifierName")
        [.node { info (id + 2) "IdentifierToken" with text := some "password" } []],
      .node (info (id + 3) "StringLiteralExpression")
        [.node { info (id + 4) "StringLiteralToken" with text := some "\"hunter2\"" } []]]
  ⟨"Passwords.cs", .csharp, false, false, .node (info 0 "Block") [assignment 1, assignment 6],
    SymbolTable.empty⟩

/-- Parentheses around the right side of the first assignment and the left side of the second. -/
def assignedPasswordsParens : Wrapping :=
  let parens (id : NodeId) : Parens := .written id (id + 1) (id + 4) ⟨⟨1, id⟩, ⟨1, id⟩⟩
  .around [(4, parens 4), (7, parens 10)]
    (fun i => [0, 1, 2, 3, 6, 7, 9, 12, 13, 15, 16].getD i.id 0) NodeInfo.span

theorem wrapsSides_assignedPasswords :
    WrapsSides assignedPasswordsParens .csharp assignedPasswords := by
  have hnumbered : assignedPasswords.tree.Numbered := by
    rfl
  have hat : ∀ n ∈ assignedPasswords.nodes, assignedPasswordsParens.wraps n = true →
      (∃ p ∈ n.parent?, Grammar.csharp.left? p = some n ∨ IsValueBelow .csharp p n) ∧
        (∀ a ∈ n.ancestors, a.isAny Grammar.csharp.stringLiteral = false) ∧
        n.isAny Grammar.csharp.parenthesized = false ∧ n.info.type = none := by
    intro n hn hwraps
    have hid : n.id = 4 ∨ n.id = 7 := by
      simpa using Node.id_mem_of_wraps_around hwraps
    have hget := hnumbered.getElem?_id hn
    rcases hid with hid | hid
    · rw [hid] at hget
      cases hget
      exact ⟨⟨_, rfl, .inr (.right rfl)⟩, by decide, by decide, rfl⟩
    · rw [hid] at hget
      cases hget
      exact ⟨⟨_, rfl, .inl rfl⟩, by decide, by decide, rfl⟩
  exact {
    site := fun n hn hwraps => (hat n hn hwraps).1
    header := fun n _ _ => rfl
    literal := fun n hn hwraps => (hat n hn hwraps).2.1
    mark := by
      intro n _ p hp i hi
      have hwritten : ∃ id opening closing span, p = .written id opening closing span := by
        rcases List.mem_cons.mp (Node.mem_of_parens?_around hp) with heq | hmem
        · exact ⟨_, _, _, _, (Prod.mk.inj heq).2⟩
        · exact ⟨_, _, _, _, (Prod.mk.inj (List.mem_singleton.mp hmem)).2⟩
      obtain ⟨id, opening, closing, span, rfl⟩ := hwritten
      rcases Parens.kind_of_mem_written hi with hkind | hkind
      · rw [hkind]
        rfl
      · rw [hkind]
        rfl
    constant := by
      intro p hp n hn hwraps
      have hmem := Tree.mem_walk_of_mem_children hp hn.mem_children
      exact Grammar.showsConstant_of_not_parenthesized (hat n hmem hwraps).2.2.1
    type := by
      intro p hp _ n hn hwraps
      have hmem := Tree.mem_walk_of_mem_children hp (Grammar.mem_children_of_argumentExpression? hn)
      exact Grammar.showsType_of_type_eq_none (hat n hmem hwraps).2.2.2 stringType }

theorem messagesOf_wrap_sides_assignments :
    WrapsSides assignedPasswordsParens .csharp assignedPasswords ∧
      assignedPasswords.tree.Numbered ∧
      (assignedPasswords.tree.wrap assignedPasswordsParens).Numbered ∧
      hiddenMessages Settings.standard.words .csharp assignedPasswordsParens assignedPasswords =
        ["\"password\" detected here, make sure this is not a hard-coded credential."] ∧
      messagesOf descriptor Settings.standard .csharp
          (assignedPasswords.wrap assignedPasswordsParens) =
        ["\"password\" detected here, make sure this is not a hard-coded credential."] ∧
      (messagesOf descriptor Settings.standard .csharp
            (assignedPasswords.wrap assignedPasswordsParens) ++
          hiddenMessages Settings.standard.words .csharp assignedPasswordsParens
            assignedPasswords).Perm
        (messagesOf descriptor Settings.standard .csharp assignedPasswords) := by
  have hu : assignedPasswords.tree.Numbered := by
    rfl
  have hv : (assignedPasswords.tree.wrap assignedPasswordsParens).Numbered := by
    unfold Tree.Numbered
    decide +kernel
  have hsaid : messagesOf descriptor Settings.standard .csharp
        (assignedPasswords.wrap assignedPasswordsParens) =
      ["\"password\" detected here, make sure this is not a hard-coded credential."] := by
    rw [messagesOf_eq_flatMap_textsAt]
    decide +kernel
  exact ⟨wrapsSides_assignedPasswords, hu, hv, by decide +kernel, hsaid,
    (messagesOf_wrap_sides wrapsSides_assignedPasswords hu hv Settings.standard).1⟩

/-- A network credential is created with a name that stands for a constant. -/
def createdCredential : SourceUnit :=
  let info (id : NodeId) (kind : String) : NodeInfo := .ofKind id kind ⟨⟨1, id⟩, ⟨1, id⟩⟩
  let user : Tree := .node (info 2 "Argument") [.node (info 3 "StringLiteralExpression")
    [.node { info 4 "StringLiteralToken" with text := some "\"user\"" } []]]
  let name : Tree := .node { info 6 "IdentifierName" with
      type := some stringType
      constant := some (.string "hunter2") }
    [.node { info 7 "IdentifierToken" with text := some "Secret" } []]
  let arguments : Tree := .node (info 1 "ArgumentList") [user, .node (info 5 "Argument") [name]]
  let symbol : Symbol :=
    ⟨9, ".ctor", .constructor, some networkCredential, none, false, false, false, none⟩
  ⟨"Credential.cs", .csharp, false, false,
    .node { info 0 "ObjectCreationExpression" with reference := some 9 } [arguments],
    SymbolTable.empty.insert symbol⟩

/-- Parentheses around a left side hide its name, and parentheses around an argument hide its
type. -/
theorem messagesOf_wrap_hides :
    let left : Wrapping := .around [(7, .written 7 8 11 ⟨⟨1, 7⟩, ⟨1, 7⟩⟩)]
      (fun i => [0, 1, 2, 3, 4, 5, 6, 9, 10, 12, 13].getD i.id 0) NodeInfo.span
    let argument : Wrapping := .around [(6, .written 6 7 10 ⟨⟨1, 6⟩, ⟨1, 6⟩⟩)]
      (fun i => [0, 1, 2, 3, 4, 5, 8, 9].getD i.id 0) NodeInfo.span
    ((∀ n ∈ assignedPasswords.nodes, left.wraps n = true →
          ∃ p ∈ n.parent?, Grammar.csharp.left? p = some n) ∧
        messagesOf descriptor Settings.standard .csharp assignedPasswords =
          ["\"password\" detected here, make sure this is not a hard-coded credential.",
            "\"password\" detected here, make sure this is not a hard-coded credential."] ∧
        messagesOf descriptor Settings.standard .csharp (assignedPasswords.wrap left) =
          ["\"password\" detected here, make sure this is not a hard-coded credential."]) ∧
      (∀ n ∈ createdCredential.nodes, argument.wraps n = true →
          ∃ p ∈ n.parent?, IsValueBelow .csharp p n) ∧
        messagesOf descriptor Settings.standard .csharp createdCredential = [passwordMessage] ∧
        messagesOf descriptor Settings.standard .csharp (createdCredential.wrap argument) = [] := by
  intro left argument
  simp only [messagesOf_eq_flatMap_textsAt]
  refine ⟨⟨?_, by decide +kernel, by decide +kernel⟩, ?_, by decide +kernel, by decide +kernel⟩
  · intro n hn hwraps
    have hnumbered : assignedPasswords.tree.Numbered := by
      rfl
    have hid : n.id = 7 := by
      simpa using Node.id_mem_of_wraps_around hwraps
    have hget := hnumbered.getElem?_id hn
    rw [hid] at hget
    cases hget
    exact ⟨_, rfl, rfl⟩
  · intro n hn hwraps
    have hnumbered : createdCredential.tree.Numbered := by
      rfl
    have hid : n.id = 6 := by
      simpa using Node.id_mem_of_wraps_around hwraps
    have hget := hnumbered.getElem?_id hn
    rw [hid] at hget
    cases hget
    exact ⟨_, rfl, .argument rfl rfl⟩

end HardcodedCredentials
end Rule
end TreeLint
