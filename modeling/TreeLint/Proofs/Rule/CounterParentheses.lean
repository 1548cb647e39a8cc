import TreeLint.Proofs.Grammar.Wrapping
import TreeLint.Proofs.Rule.LoopCounter
import TreeLint.Proofs.Rule.Wording

/-!
# Loop counters in parentheses

The rule on loop counters looks through parentheses, where it collects the counters of a loop and
where it collects what is changed. So an expression that is changed may as well stand in
parentheses. There is one exception: a declaration in the header of a loop introduces as counters
the declarators right below it, and no others.

**Results.**
* `map_symbol?_changedIn_outer`: what refers to a symbol and is changed in a body.
* `counters_inner`: the counters of a loop.
* `messagesOf_wrap_of_spares`: the messages of the rule, for parentheses around any nodes that the
  rule does not find by where they stand.
* `messagesOf_wrap_changed`: the messages of the rule, for parentheses around what is changed.
-/

namespace TreeLint
namespace Rule

open Report Source Symbols Syntax

namespace LoopCounter

/-- What is said about a symbol that is changed, if it is one of some counters. -/
def text? (counters : List SymbolId) (s : Symbol) : Option String :=
  if counters.contains s.id then some (fill descriptor.message [s.name]) else none

/-- What is said about a loop. -/
def textsAt (u : SourceUnit) (loop : Node) : List String :=
  match body? loop with
  | none => []
  | some body =>
    ((changedIn Grammar.csharp body).map (Grammar.csharp.symbol? u)).filterMap fun s =>
      s.bind (text? (counters Grammar.csharp u loop))

theorem map_text_run (u : SourceUnit) (loop : Node) :
    (run ⟨Grammar.csharp, u, loop, .declaration⟩).map (Finding.text descriptor) =
      textsAt u loop := by
  rw [run, textsAt]
  dsimp only
  cases body? loop with
  | none => rfl
  | some body =>
      show _ = List.filterMap _ (List.map _ (changedIn Grammar.csharp body))
      rw [List.map_filterMap, List.filterMap_map]
      congr 1
      funext target
      rw [finding?, Function.comp_apply]
      cases Grammar.csharp.symbol? u target with
      | none => rfl
      | some s =>
          show Option.map _ (ite _ _ _) = text? _ s
          rw [text?]
          split <;> rfl

/-- The messages of the rule, loop by loop. -/
theorem messagesOf_eq_flatMap_loops (s : Settings) (u : SourceUnit) :
    messagesOf descriptor s .csharp u = u.nodes.flatMap fun n =>
      if n.isAny ["ForStatement"] then textsAt u n else [] := by
  have hrequests : requestsOf descriptor s .csharp = requests := rfl
  have honce : ∀ q ∈ requestsOf descriptor s .csharp, q.AsksOnce Grammar.csharp := by
    rw [hrequests]
    intro q hq
    rw [List.mem_singleton.mp hq]
    exact ⟨⟨List.nodup_singleton _, by decide⟩, by decide⟩
  rw [messagesOf_eq_flatMap_requests u honce]
  congr 1
  funext n
  rw [hrequests, requests, List.flatMap_singleton, Request.texts, ← map_text_run]
  rfl

/-! ## New parentheses -/

/-- The parts of loops and of tuples, and the declarators right below the declaration in the header
of a loop, stay where they are, and so do names. -/
structure SparesCounters (w : Wrapping) (u : SourceUnit) : Prop where
  names : w.SparesNames Grammar.csharp u.tree
  tuple : w.Spares u.tree Grammar.csharp.tuple
  loop : w.Spares u.tree ["ForStatement"]
  declarator : ∀ loop ∈ u.nodes, loop.isAny ["ForStatement"] = true →
    ∀ d ∈ headerDeclaration? loop, ∀ c ∈ d.children, c.kind = "VariableDeclarator" →
      w.wraps c = false

theorem mem_children_of_headerDeclaration? {loop d : Node} (h : headerDeclaration? loop = some d) :
    d ∈ loop.children := by
  rcases Option.or_eq_some_iff.mp h with hrole | ⟨-, hkind⟩
  · exact List.mem_of_find?_eq_some hrole
  · exact List.mem_of_find?_eq_some hkind

theorem changedBy_eq_nil {n : Node} (hstep : n.isAny stepKinds = false)
    (hassignment : n.isAny changingAssignments = false) : changedBy Grammar.csharp n = [] := by
  simp [changedBy, hstep, hassignment]

theorem changedBy_parenthesized {n : Node} (h : n.kind = parenthesizedKind) :
    changedBy Grammar.csharp n = [] := by
  apply changedBy_eq_nil
  · rw [Node.isAny, h]
    decide
  · rw [Node.isAny, h]
    decide

theorem changedBy_token {n : Node} (h : n.isToken = true) : changedBy Grammar.csharp n = [] :=
  changedBy_eq_nil (Grammar.isAny_eq_false_of_isToken (by decide) h)
    (Grammar.isAny_eq_false_of_isToken (by decide) h)

section Spared

variable {w : Wrapping} {u : SourceUnit} (h : SparesCounters w u)
include h

/-- What a node changes refers to the same symbols as before. -/
theorem map_symbol?_changedBy_inner {n : Node} (hn : n ∈ u.nodes) :
    (changedBy Grammar.csharp (n.inner w)).map (Grammar.csharp.symbol? (u.wrap w)) =
      (changedBy Grammar.csharp n).map (Grammar.csharp.symbol? u) := by
  have hg := Grammar.parenthesizes_csharp
  rw [changedBy, changedBy, Grammar.isAny_inner, Grammar.isAny_inner]
  split
  · rw [Node.childNodes_inner, List.head?_map]
    cases hfirst : n.childNodes.head? with
    | none => rfl
    | some c =>
        have hc : c ∈ n.children := Node.mem_children_of_head?_childNodes hfirst
        exact congrArg (fun s => [s])
          (Grammar.symbol?_outer hg h.names (Tree.mem_walk_of_mem_children hn hc))
  · split
    · rw [Grammar.targets_inner hg h.tuple hn, List.map_map]
      apply List.map_congr_left
      intro target htarget
      have hbelow := (Grammar.targets_sublist_descendants Grammar.csharp n).subset htarget
      exact Grammar.symbol?_inner hg h.names ((Tree.descendants_isInfix_walk hn).subset hbelow)
    · rfl

theorem map_symbol?_changedIn_outer {body : Node} (hbody : body ∈ u.nodes) :
    (changedIn Grammar.csharp (body.outer w)).map (Grammar.csharp.symbol? (u.wrap w)) =
      (changedIn Grammar.csharp body).map (Grammar.csharp.symbol? u) := by
  rw [changedIn, changedIn, List.map_flatMap, List.map_flatMap,
    Node.flatMap_descendants_outer
      (fun m hm => by rw [changedBy_parenthesized hm]; rfl)
      (fun m hm => by rw [changedBy_token hm]; rfl)]
  apply List.flatMap_congr
  intro n hn
  exact map_symbol?_changedBy_inner h ((Tree.descendants_isInfix_walk hbody).subset hn)

/-! ### Counters -/

section Loop

variable {loop : Node} (hloop : loop ∈ u.nodes) (hkind : loop.isAny ["ForStatement"] = true)
include hloop hkind

theorem headerDeclaration?_inner :
    headerDeclaration? (loop.inner w) = (headerDeclaration? loop).map (Node.inner w) := by
  have hspared := h.loop loop hloop hkind
  cases hrole : loop.childInRole? "declaration" <;>
    simp [headerDeclaration?, Node.childInRole?_inner_of_not_wraps hspared,
      Node.childOfKind?_inner_of_not_wraps hspared, hrole]

theorem declaredCounters_inner :
    declaredCounters (u.wrap w) (loop.inner w) = declaredCounters u loop := by
  rw [declaredCounters, declaredCounters, headerDeclaration?_inner h hloop hkind]
  cases hd : headerDeclaration? loop with
  | none => rfl
  | some d =>
      have hdeclarator := h.declarator loop hloop hkind d hd
      simp only [Option.map_some, Node.childNodes_inner, List.filterMap_filter, List.filterMap_map]
      apply List.filterMap_congr
      intro c hc
      have hc : c ∈ d.children := List.filter_sublist.subset hc
      cases hwraps : w.wraps c with
      | false => simp [Node.outer_eq_inner hwraps]
      | true =>
          -- neither the node nor its parentheses are a declarator
          have hnot : c.kind ≠ "VariableDeclarator" := by
            intro hdeclares
            rw [hdeclarator c hc hdeclares] at hwraps
            cases hwraps
          have houter : (c.outer w).kind ≠ "VariableDeclarator" := by
            rw [Node.kind_outer hwraps]
            decide
          simp [hnot, houter]

theorem headerAssignments_inner :
    headerAssignments Grammar.csharp (loop.inner w) =
      (headerAssignments Grammar.csharp loop).map (Node.inner w) := by
  have hspared := h.loop loop hloop hkind
  have hsimple : ((fun c : Node => c.isAny Grammar.csharp.simpleAssignment) ∘ Node.inner w) =
      fun c => c.isAny Grammar.csharp.simpleAssignment := rfl
  have hsemicolon : ((fun c : Node => c.kind != "SemicolonToken") ∘ Node.inner w) =
      fun c => c.kind != "SemicolonToken" := rfl
  simp only [headerAssignments, Node.childrenInRole_inner_of_not_wraps hspared]
  cases loop.childrenInRole "initializer" with
  | nil =>
      simp only [List.map_nil, Node.children_inner_of_not_wraps hspared, List.takeWhile_map,
        List.filter_map, hsemicolon, hsimple]
  | cons c found =>
      show ((c :: found).map (Node.inner w)).filter _ = _
      rw [List.filter_map, hsimple]

theorem assignedCounters_inner :
    assignedCounters Grammar.csharp (u.wrap w) (loop.inner w) =
      assignedCounters Grammar.csharp u loop := by
  rw [assignedCounters, assignedCounters, headerAssignments_inner h hloop hkind,
    List.filterMap_map]
  apply List.filterMap_congr
  intro a ha
  have ha : a ∈ u.nodes := by
    apply Tree.mem_walk_of_mem_children hloop
    rw [headerAssignments] at ha
    have ha := List.filter_sublist.subset ha
    split at ha
    · exact (List.takeWhile_sublist _).subset ha
    · rename_i hfound
      exact List.filter_sublist.subset ha
  rw [Function.comp_apply, Grammar.left?_inner]
  cases hleft : Grammar.csharp.left? a with
  | none => rfl
  | some left =>
      have hmem := Tree.mem_walk_of_mem_children ha (Grammar.mem_children_of_left? _ hleft)
      exact congrArg (Option.map Symbol.id)
        (Grammar.symbol?_outer Grammar.parenthesizes_csharp h.names hmem)

/-- A loop has the counters that it had before. -/
theorem counters_inner :
    counters Grammar.csharp (u.wrap w) (loop.inner w) = counters Grammar.csharp u loop := by
  rw [counters, counters, declaredCounters_inner h hloop hkind,
    assignedCounters_inner h hloop hkind]

theorem textsAt_inner : textsAt (u.wrap w) (loop.inner w) = textsAt u loop := by
  have hbody : body? (loop.inner w) = (body? loop).map (Node.outer w) := by
    cases hrole : loop.childInRole? "statement" <;> simp [body?, hrole]
  rw [textsAt, textsAt, hbody, counters_inner h hloop hkind]
  cases hfound : body? loop with
  | none => rfl
  | some body =>
      have hmem := Tree.mem_walk_of_mem_children hloop (mem_children_of_body? hfound)
      exact congrArg (List.filterMap _) (map_symbol?_changedIn_outer h hmem)

end Loop

/-- Parentheses around nodes that the rule does not find by where they stand do not change its
messages. -/
theorem messagesOf_wrap_of_spares (s : Settings) :
    messagesOf descriptor s .csharp (u.wrap w) = messagesOf descriptor s .csharp u := by
  rw [messagesOf_eq_flatMap_loops, messagesOf_eq_flatMap_loops]
  have hnodes : (u.wrap w).nodes = (u.root.outer w).descendants := rfl
  rw [hnodes, Node.flatMap_descendants_outer]
  · apply List.flatMap_congr
    intro n hn
    rw [Grammar.isAny_inner]
    split
    · rename_i hany
      exact textsAt_inner h hn hany
    · rfl
  · intro m hm
    rw [Node.isAny, hm]
    rfl
  · intro m hm
    rw [Grammar.isAny_eq_false_of_isToken (by decide) hm]
    rfl

end Spared

/-! ## Parentheses around what is changed -/

/-- A node stands below another one where it is changed: it is the operand of a step, the left side
of an assignment, or the expression of an argument, as an element of a tuple. -/
inductive IsChangedBelow (g : Grammar) (p n : Node) : Prop
  | operand (hp : p.isAny stepKinds = true) (hn : p.childNodes.head? = some n)
  | left (hn : g.left? p = some n)
  | element (hp : p.isAny g.argument = true) (hn : Grammar.argumentExpression? p = some n)

/-- A node declares a counter in the header of a loop. -/
def IsHeaderDeclarator (n : Node) : Prop :=
  n.kind = "VariableDeclarator" ∧
    ∃ loop d, loop.isAny ["ForStatement"] = true ∧ headerDeclaration? loop = some d ∧ n ∈ d.children

/-- The kinds of nodes below which something is changed. -/
def changingKinds : Grammar.KindSet :=
  stepKinds ++ Grammar.csharp.assignment ++ Grammar.csharp.argument

theorem IsChangedBelow.mem_changingKinds {p n : Node} (h : IsChangedBelow Grammar.csharp p n) :
    p.kind ∈ changingKinds := by
  rw [changingKinds, List.mem_append, List.mem_append]
  cases h with
  | operand hp _ => exact .inl (.inl (List.contains_iff_mem.mp hp))
  | left hn =>
      exact .inl (.inr (List.contains_iff_mem.mp (Grammar.isAny_assignment_of_left? _ hn)))
  | element hp _ => exact .inr (List.contains_iff_mem.mp hp)

theorem sparesCounters_of_isChangedBelow {w : Wrapping} {u : SourceUnit}
    (h : ∀ n ∈ u.nodes, w.wraps n = true →
      (∃ p ∈ n.parent?, IsChangedBelow Grammar.csharp p n) ∧ ¬IsHeaderDeclarator n) :
    SparesCounters w u := by
  have hhosts : ∀ n ∈ u.tree.walk [], w.wraps n = true →
      ∃ p ∈ n.parent?, p.kind ∈ changingKinds := by
    intro n hn hwraps
    obtain ⟨⟨p, hp, hchanged⟩, -⟩ := h n hn hwraps
    exact ⟨p, hp, hchanged.mem_changingKinds⟩
  refine ⟨⟨Wrapping.spares_of_hosts hhosts (by decide), ?_⟩,
    Wrapping.spares_of_hosts hhosts (by decide), Wrapping.spares_of_hosts hhosts (by decide), ?_⟩
  · intro n _ hheader
    cases hheader
  · intro loop hloop hkind d hd c hc hdeclares
    cases hwraps : w.wraps c with
    | false => rfl
    | true =>
        have hmem : c ∈ u.nodes :=
          Tree.mem_walk_of_mem_children (Tree.mem_walk_of_mem_children hloop
            (mem_children_of_headerDeclaration? hd)) hc
        exact absurd ⟨hdeclares, loop, d, hkind, hd, hc⟩ (h c hmem hwraps).2

/-- Parentheses around what is changed do not change the messages of the rule, unless they are put
around a declarator in the header of a loop. -/
theorem messagesOf_wrap_changed (s : Settings) {w : Wrapping} {u : SourceUnit}
    (h : ∀ n ∈ u.nodes, w.wraps n = true →
      (∃ p ∈ n.parent?, IsChangedBelow Grammar.csharp p n) ∧ ¬IsHeaderDeclarator n) :
    messagesOf descriptor s .csharp (u.wrap w) = messagesOf descriptor s .csharp u :=
  messagesOf_wrap_of_spares (sparesCounters_of_isChangedBelow h) s

/-- A loop that assigns its counter in the header, as an element of a tuple and by a step. -/
def assigningLoop : SourceUnit :=
  let info (id : NodeId) (kind : String) : NodeInfo := .ofKind id kind ⟨⟨1, id⟩, ⟨1, id⟩⟩
  let name (id : NodeId) : Tree := .node { info id "IdentifierName" with reference := some 7 } []
  let header : Tree := .node (info 1 "SimpleAssignmentExpression")
    [name 2, .node (info 3 "NumericLiteralExpression") []]
  let tuple : Tree := .node (info 6 "TupleExpression") [.node (info 7 "Argument") [name 8]]
  let body : Tree := .node (info 4 "Block")
    [.node (info 5 "SimpleAssignmentExpression") [tuple, name 9],
      .node (info 10 "PostIncrementExpression") [name 11]]
  let symbol : Symbol := ⟨7, "i", .local, none, none, false, false, false, none⟩
  ⟨"Loop.cs", .csharp, false, false, .node (info 0 "ForStatement") [header, body],
    SymbolTable.empty.insert symbol⟩

/-- Parentheses around the three names that it changes. -/
def assigningLoopParens : Wrapping :=
  let parens (id : NodeId) : Parens := .written id (id + 1) (id + 3) ⟨⟨1, id⟩, ⟨1, id⟩⟩
  .around [(2, parens 2), (8, parens 11), (11, parens 17)]
    (fun i => [0, 1, 4, 6, 7, 8, 9, 10, 13, 15, 16, 19].getD i.id 0) NodeInfo.span

theorem messagesOf_wrap_changed_loop :
    (∀ n ∈ assigningLoop.nodes, assigningLoopParens.wraps n = true →
        (∃ p ∈ n.parent?, IsChangedBelow Grammar.csharp p n) ∧ ¬IsHeaderDeclarator n) ∧
      (assigningLoop.nodes.filter assigningLoopParens.wraps).map Node.id = [2, 8, 11] ∧
      messagesOf descriptor Settings.standard .csharp assigningLoop =
        ["Do not update the loop counter 'i' within the loop body.",
          "Do not update the loop counter 'i' within the loop body."] ∧
      messagesOf descriptor Settings.standard .csharp (assigningLoop.wrap assigningLoopParens) =
        messagesOf descriptor Settings.standard .csharp assigningLoop := by
  have hnumbered : assigningLoop.tree.Numbered := by
    rfl
  have h : ∀ n ∈ assigningLoop.nodes, assigningLoopParens.wraps n = true →
      (∃ p ∈ n.parent?, IsChangedBelow Grammar.csharp p n) ∧ ¬IsHeaderDeclarator n := by
    intro n hn hwraps
    have hid : n.id = 2 ∨ n.id = 8 ∨ n.id = 11 := by
      simpa using Node.id_mem_of_wraps_around hwraps
    have hget := hnumbered.getElem?_id hn
    rcases hid with hid | hid | hid
    · rw [hid] at hget
      cases hget
      exact ⟨⟨_, rfl, .left rfl⟩, fun hn => absurd hn.1 (by decide)⟩
    · rw [hid] at hget
      cases hget
      exact ⟨⟨_, rfl, .element rfl rfl⟩, fun hn => absurd hn.1 (by decide)⟩
    · rw [hid] at hget
      cases hget
      exact ⟨⟨_, rfl, .operand rfl rfl⟩, fun hn => absurd hn.1 (by decide)⟩
  have hmessages : messagesOf descriptor Settings.standard .csharp assigningLoop =
      ["Do not update the loop counter 'i' within the loop body.",
        "Do not update the loop counter 'i' within the loop body."] := by
    rw [messagesOf_eq_flatMap_loops]
    decide +kernel
  exact ⟨h, by decide +kernel, hmessages, messagesOf_wrap_changed Settings.standard h⟩

/-- A loop whose counter is declared on the left side of an assignment. -/
def declaringLoop : SourceUnit :=
  let info (id : NodeId) (kind : String) : NodeInfo := .ofKind id kind ⟨⟨1, id⟩, ⟨1, id⟩⟩
  let header : Tree :=
    .node { info 1 "SimpleAssignmentExpression" with role := some "declaration" }
      [.node { info 2 "VariableDeclarator" with declared := some 7 } [],
        .node (info 3 "NumericLiteralExpression") []]
  let body : Tree := .node { info 4 "PostIncrementExpression" with role := some "statement" }
    [.node { info 5 "IdentifierName" with reference := some 7 } []]
  let symbol : Symbol := ⟨7, "i", .local, none, none, false, false, false, none⟩
  ⟨"Loop.cs", .csharp, false, false, .node (info 0 "ForStatement") [header, body],
    SymbolTable.empty.insert symbol⟩

/-- Parentheses around its declarator. -/
def declaringLoopParens : Wrapping :=
  .around [(2, .written 2 3 5 ⟨⟨1, 2⟩, ⟨1, 2⟩⟩)] (fun i => [0, 1, 4, 6, 7, 8].getD i.id 0)
    NodeInfo.span

/-- Parentheses around a declarator in the header of a loop hide a counter. -/
theorem messagesOf_wrap_headerDeclarator :
    (∀ n ∈ declaringLoop.nodes, declaringLoopParens.wraps n = true →
        ∃ p ∈ n.parent?, IsChangedBelow Grammar.csharp p n) ∧
      messagesOf descriptor Settings.standard .csharp declaringLoop =
        ["Do not update the loop counter 'i' within the loop body."] ∧
      messagesOf descriptor Settings.standard .csharp
          (declaringLoop.wrap declaringLoopParens) = [] := by
  have hnumbered : declaringLoop.tree.Numbered := by
    rfl
  rw [messagesOf_eq_flatMap_loops, messagesOf_eq_flatMap_loops]
  refine ⟨?_, by decide +kernel, by decide +kernel⟩
  intro n hn hwraps
  have hid : n.id = 2 := by
    simpa using Node.id_mem_of_wraps_around hwraps
  have hget := hnumbered.getElem?_id hn
  rw [hid] at hget
  cases hget
  exact ⟨_, rfl, .left rfl⟩

end LoopCounter
end Rule
end TreeLint
