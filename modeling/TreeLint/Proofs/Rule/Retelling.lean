import TreeLint.Proofs.Grammar.Mapping
import TreeLint.Proofs.Rule.CredentialRequests

/-!
# Units that tell the same

Two units tell the same if the second one has the tree of the first, with other things carried by
its nodes, and if what its nodes refer to and declare are symbols that take the place of those of
the first. The rules find the same in both, since they ask a grammar for nodes and symbols and
compare symbols with symbols; only the rule on empty methods looks at comments too. What goes by
symbols needs no texts either, as long as names compare alike.

**Results.**
* `follows_trackAction`, `LoopCounter.follows_run` and the like: each action finds the same.
* `follows_of_mem_actionsFor`: the actions of a language do, with one exception.
* `Registry.map_runsOver_of_retells`: runs are read alike if those of each action are.
* `Registry.runsOver_of_follows`: the runs of actions that find the same are the same.
-/

namespace TreeLint

open Report Source Symbols Syntax

/-- A replacement of symbols that keeps all but the numbers, and tells numbers apart as before. -/
structure Symbols.Symbol.KeepsMeaning (h : Symbol → Symbol) : Prop where
  name : ∀ s, (h s).name = s.name
  kind : ∀ s, (h s).kind = s.kind
  containingType : ∀ s, (h s).containingType = s.containingType
  isAbstract : ∀ s, (h s).isAbstract = s.isAbstract
  isOverride : ∀ s, (h s).isOverride = s.isOverride
  id_eq_iff : ∀ s t, (h s).id = (h t).id ↔ s.id = t.id

/-- The nodes of the second unit stand like those of the first and refer to the same, up to their
texts and trivia and the numbers of symbols. -/
structure Source.SourceUnit.RetellsShape (f : NodeInfo → NodeInfo) (h : Symbol → Symbol)
    (u v : SourceUnit) : Prop where
  keepsShape : NodeInfo.KeepsShape f
  keepsMeaning : Symbol.KeepsMeaning h
  path : v.path = u.path
  language : v.language = u.language
  tree : v.tree = u.tree.mapInfo f
  reference? : ∀ n : Node, v.reference? (n.mapInfo f) = (u.reference? n).map h
  declared? : ∀ n : Node, v.declared? (n.mapInfo f) = (u.declared? n).map h
  overridden? : ∀ s : Symbol,
    (h s).overridden.bind v.symbols.get? = (s.overridden.bind u.symbols.get?).map h

/-- The nodes of the second unit tell the same as those of the first, up to what they carry and the
numbers of symbols. -/
structure Source.SourceUnit.RetellsNodes (f : NodeInfo → NodeInfo) (h : Symbol → Symbol)
    (u v : SourceUnit) : Prop extends SourceUnit.RetellsShape f h u v where
  text : ∀ i, (f i).text = i.text

theorem Source.SourceUnit.RetellsNodes.keepsSyntax {f : NodeInfo → NodeInfo} {h : Symbol → Symbol}
    {u v : SourceUnit} (hr : SourceUnit.RetellsNodes f h u v) : NodeInfo.KeepsSyntax f :=
  { hr.keepsShape with text := hr.text }

/-- The second unit tells the same as the first, also in what its host says about it. -/
structure Source.SourceUnit.Retells (f : NodeInfo → NodeInfo) (h : Symbol → Symbol)
    (u v : SourceUnit) : Prop extends SourceUnit.RetellsNodes f h u v where
  generated : v.generated = u.generated
  testProject : v.testProject = u.testProject

namespace Rule

variable {f : NodeInfo → NodeInfo} {h : Symbol → Symbol} {u v : SourceUnit}

/-- The finding in the tree with other things carried. -/
def Finding.mapInfo (f : NodeInfo → NodeInfo) (x : Finding) : Finding :=
  ⟨x.place.mapInfo f, x.wording⟩

/-- An action finds the same in two units of a language. -/
def Action.FollowsIn (a : Action) (g : Grammar) (f : NodeInfo → NodeInfo) (u v : SourceUnit) :
    Prop :=
  ∀ n pass, a.run ⟨g, v, n.mapInfo f, pass⟩ = (a.run ⟨g, u, n, pass⟩).map (Finding.mapInfo f)

/-- An action finds the same in two units, whatever their language. -/
def Action.Follows (a : Action) (f : NodeInfo → NodeInfo) (u v : SourceUnit) : Prop :=
  ∀ g, a.FollowsIn g f u v

theorem nodes_of_retells (hr : SourceUnit.RetellsShape f h u v) :
    v.nodes = u.nodes.map (Node.mapInfo f) := by
  have hroot : v.root = u.root.mapInfo f := by
    rw [SourceUnit.root, SourceUnit.root, hr.tree]
    rfl
  simp [SourceUnit.nodes, hroot]

/-! ## Tracked nodes -/

section Tests

variable (hr : SourceUnit.RetellsShape f h u v) (g : Grammar) (n : Node) (pass : Pass)
include hr

theorem any_symbol?_of_retells {p : Symbol → Bool} (hp : ∀ s, p (h s) = p s) :
    (g.symbol? v (n.mapInfo f)).any p = (g.symbol? u n).any p := by
  rw [Grammar.symbol?_mapInfo hr.keepsShape g hr.reference?, Option.any_map]
  congr 1
  funext s
  exact hp s

theorem argumentAt?_of_retells (index : Nat) :
    argumentAt? g (n.mapInfo f) index =
      (argumentAt? g n index).map (Grammar.Argument.mapInfo f) := by
  rw [argumentAt?, argumentAt?, Grammar.arguments?_mapInfo hr.keepsShape]
  cases g.arguments? n with
  | none => rfl
  | some args => exact List.getElem?_map

theorem isMemberOf_of_retells (s : Symbol) (type : String) :
    (h s).isMemberOf type = s.isMemberOf type := by
  rw [Symbol.isMemberOf, Symbol.isMemberOf, hr.keepsMeaning.containingType]

theorem creationTest_of_retells (test : CreationTest) :
    test.holds ⟨g, v, n.mapInfo f, pass⟩ = test.holds ⟨g, u, n, pass⟩ := by
  cases test with
  | constructor type =>
      apply any_symbol?_of_retells hr
      intro s
      rw [hr.keepsMeaning.kind, isMemberOf_of_retells hr]
  | argumentType index type =>
      simp only [CreationTest.holds, argumentAt?_of_retells hr, Option.any_map,
        Grammar.Argument.mapInfo, Grammar.type?_mapInfo hr.keepsShape]
  | argumentConstant index =>
      simp only [CreationTest.holds, argumentAt?_of_retells hr, Option.any_map,
        Grammar.Argument.mapInfo]

theorem assignedValue?_of_retells :
    assignedValue? g (n.mapInfo f) = (assignedValue? g n).map (Node.mapInfo f) := by
  simp only [assignedValue?, Grammar.climb_mapInfo hr.keepsShape, Node.parent?_mapInfo]
  cases (g.climb n).parent? with
  | none => rfl
  | some p =>
      simp only [Option.map_some, Grammar.left?_mapInfo hr.keepsShape, Option.any_map,
        Node.same_mapInfo hr.keepsShape, Grammar.right?_mapInfo hr.keepsShape]
      split <;> rfl

theorem accessTest_of_retells (hnames : g.ComparesAlike f) (test : AccessTest) :
    test.holds ⟨g, v, n.mapInfo f, pass⟩ = test.holds ⟨g, u, n, pass⟩ := by
  cases test with
  | setter => exact Grammar.isLeftSide_mapInfo hr.keepsShape g n
  | getter => exact congrArg not (Grammar.isLeftSide_mapInfo hr.keepsShape g n)
  | constant =>
      simp only [AccessTest.holds, assignedValue?_of_retells hr, Option.any_map,
        Grammar.isConstant_mapInfo hr.keepsShape]
  | property type name =>
      simp only [AccessTest.holds, hnames n name]
      congr 1
      apply any_symbol?_of_retells hr
      intro s
      rw [hr.keepsMeaning.kind, hr.keepsMeaning.name, isMemberOf_of_retells hr]

omit hr in
theorem followsIn_trackAction {α : Type} {holds : Visit → α → Bool}
    (hholds : ∀ n pass test, holds ⟨g, v, n.mapInfo f, pass⟩ test = holds ⟨g, u, n, pass⟩ test)
    (d : Descriptor) (args : List String) (conditions : List (Condition α)) :
    (trackAction holds d args conditions).FollowsIn g f u v := by
  intro n pass
  have htests : holds ⟨g, v, n.mapInfo f, pass⟩ = holds ⟨g, u, n, pass⟩ :=
    funext fun test => hholds n pass test
  simp only [trackAction, htests]
  split <;> rfl

omit n pass in
theorem followsIn_trackCreation (d : Descriptor) (args : List String)
    (conditions : List (Condition CreationTest)) :
    (trackAction CreationTest.holds d args conditions).FollowsIn g f u v :=
  followsIn_trackAction g (creationTest_of_retells hr g) d args conditions

omit n pass in
theorem followsIn_trackAccess (hnames : g.ComparesAlike f) (d : Descriptor) (args : List String)
    (conditions : List (Condition AccessTest)) :
    (trackAction AccessTest.holds d args conditions).FollowsIn g f u v :=
  followsIn_trackAction g (fun n pass => accessTest_of_retells hr g n pass hnames) d args conditions

omit n pass in
theorem HardcodedCredentials.followsIn_of_mem_trackers (hnames : g.ComparesAlike f) {g' : Grammar}
    {q : Request} (hq : q ∈ trackers g') : q.action.FollowsIn g f u v := by
  simp only [trackers, List.mem_cons, List.not_mem_nil, or_false] at hq
  rcases hq with rfl | rfl | rfl
  · exact followsIn_trackCreation hr g _ _ _
  · exact followsIn_trackCreation hr g _ _ _
  · exact followsIn_trackAccess hr g hnames _ _ _

end Tests

/-! ## The rules -/

section Rules

variable (hr : SourceUnit.RetellsNodes f h u v)
include hr

namespace HardcodedCredentials

theorem message?_of_retells (words : Credential.WordSet) (g : Grammar) (n : Node) :
    message? words g (n.mapInfo f) = message? words g n := by
  have hassigned : assigned? g (n.mapInfo f) =
      (assigned? g n).map fun a => (a.1, a.2.mapInfo f) := by
    rw [assigned?, assigned?, Node.isAny_mapInfo hr.keepsShape,
      Node.isAny_mapInfo hr.keepsShape, Grammar.name?_mapInfo hr.keepsSyntax,
      Node.childOfKind?_mapInfo hr.keepsShape, Grammar.left?_mapInfo hr.keepsShape,
      Grammar.right?_mapInfo hr.keepsShape]
    split
    · cases g.name? n with
      | none => rfl
      | some name =>
          cases n.childOfKind? (sites g.language).initializer with
          | none => rfl
          | some clause =>
              simp only [Option.map_some, Option.bind_eq_bind, Option.bind_some,
                Node.childNodes_mapInfo hr.keepsShape, List.getLast?_map]
              cases clause.childNodes.getLast? <;> rfl
    · split
      · cases g.left? n with
        | none => rfl
        | some left =>
            simp only [Option.map_some, Option.bind_eq_bind, Option.bind_some,
              Grammar.name?_mapInfo hr.keepsSyntax]
            cases g.name? left with
            | none => rfl
            | some name => cases g.right? n <;> rfl
      · rfl
  rw [message?, message?, hassigned]
  cases assigned? g n with
  | none => rfl
  | some a =>
      simp only [Option.map_some, Option.bind_eq_bind, Option.bind_some,
        Grammar.isStringLiteral_mapInfo hr.keepsShape, Grammar.stringValue?_mapInfo hr.keepsSyntax]

theorem follows_wordAction (words : Credential.WordSet) : (wordAction words).Follows f u v := by
  intro g n pass
  simp only [wordAction, message?_of_retells hr]
  cases message? words g n <;> rfl

theorem follows_of_mem_requests {words : Credential.WordSet} {g : Grammar} {q : Request}
    (hq : q ∈ requests words g) : q.action.Follows f u v := by
  rw [requests_eq, List.mem_append, List.mem_singleton] at hq
  rcases hq with hq | rfl
  · exact fun g =>
      followsIn_of_mem_trackers hr.toRetellsShape g (g.comparesAlike hr.keepsSyntax) hq
  · exact follows_wordAction hr words

end HardcodedCredentials

namespace LoopCounter

theorem changedIn_of_retells (g : Grammar) (body : Node) :
    changedIn g (body.mapInfo f) = (changedIn g body).map (Node.mapInfo f) := by
  have hchanged : ∀ n : Node,
      changedBy g (n.mapInfo f) = (changedBy g n).map (Node.mapInfo f) := by
    intro n
    have hf := hr.keepsShape
    rw [changedBy, changedBy]
    simp only [Node.isAny_mapInfo hf, Node.childNodes_mapInfo hf, Grammar.targets_mapInfo hf,
      List.head?_map]
    split
    · cases n.childNodes.head? <;> simp
    · split <;> simp
  rw [changedIn, changedIn, Node.descendants_mapInfo, List.flatMap_map, List.map_flatMap]
  exact congrArg (List.flatMap · body.descendants) (funext hchanged)

theorem headerDeclaration?_of_retells (loop : Node) :
    headerDeclaration? (loop.mapInfo f) = (headerDeclaration? loop).map (Node.mapInfo f) := by
  cases hrole : loop.childInRole? "declaration" <;>
    simp [headerDeclaration?, hrole, hr.keepsShape]

theorem headerAssignments_of_retells (g : Grammar) (loop : Node) :
    headerAssignments g (loop.mapInfo f) = (headerAssignments g loop).map (Node.mapInfo f) := by
  have hkind : ((fun c : Node => c.kind != "SemicolonToken") ∘ Node.mapInfo f) =
      fun c => c.kind != "SemicolonToken" := by
    funext c
    rw [Function.comp_apply, Node.kind_mapInfo hr.keepsShape]
  have hany : ((fun c : Node => c.isAny g.simpleAssignment) ∘ Node.mapInfo f) =
      fun c => c.isAny g.simpleAssignment :=
    funext fun c => Node.isAny_mapInfo hr.keepsShape c _
  simp only [headerAssignments, Node.childrenInRole_mapInfo hr.keepsShape]
  cases loop.childrenInRole "initializer" with
  | nil =>
      simp only [List.map_nil, Node.children_mapInfo, List.takeWhile_map, List.filter_map, hkind,
        hany]
  | cons c found =>
      show ((c :: found).map (Node.mapInfo f)).filter _ = _
      rw [List.filter_map, hany]

omit hr in
/-- The symbols whose numbers are the counters of a loop. -/
def counterSymbols (g : Grammar) (u : SourceUnit) (loop : Node) : List Symbol :=
  (((headerDeclaration? loop).map fun d =>
      (d.childNodes.filter fun c => c.kind == "VariableDeclarator").filterMap
        u.declared?).getD []) ++
    (headerAssignments g loop).filterMap fun a => (g.left? a).bind (g.symbol? u)

omit hr in
theorem counters_eq (g : Grammar) (u : SourceUnit) (loop : Node) :
    counters g u loop = (counterSymbols g u loop).map Symbol.id := by
  rw [counters, counterSymbols, List.map_append, declaredCounters, assignedCounters,
    List.map_filterMap]
  congr 1
  cases headerDeclaration? loop with
  | none => rfl
  | some d => exact List.map_filterMap.symm

theorem counterSymbols_of_retells (g : Grammar) (loop : Node) :
    counterSymbols g v (loop.mapInfo f) = (counterSymbols g u loop).map h := by
  have hdeclared : ∀ d : Node,
      (((d.mapInfo f).childNodes.filter fun c => c.kind == "VariableDeclarator").filterMap
          v.declared?) =
        ((d.childNodes.filter fun c => c.kind == "VariableDeclarator").filterMap
          u.declared?).map h := by
    intro d
    simp only [Node.childNodes_mapInfo hr.keepsShape, List.filter_map, Function.comp_def,
      Node.kind_mapInfo hr.keepsShape, List.filterMap_map, hr.declared?, List.map_filterMap]
  have hassigned : ∀ a : Node,
      ((g.left? (a.mapInfo f)).bind (g.symbol? v)) =
        ((g.left? a).bind (g.symbol? u)).map h := by
    intro a
    rw [Grammar.left?_mapInfo hr.keepsShape]
    cases g.left? a with
    | none => rfl
    | some left => exact Grammar.symbol?_mapInfo hr.keepsShape g hr.reference? left
  rw [counterSymbols, counterSymbols, headerDeclaration?_of_retells hr,
    headerAssignments_of_retells hr, List.map_append, List.filterMap_map, List.map_filterMap]
  congr 1
  · cases headerDeclaration? loop with
    | none => rfl
    | some d => exact hdeclared d
  · exact congrArg (List.filterMap · _) (funext hassigned)

theorem contains_counters_of_retells (g : Grammar) (loop : Node) (s : Symbol) :
    (counters g v (loop.mapInfo f)).contains (h s).id = (counters g u loop).contains s.id := by
  rw [counters_eq, counters_eq, counterSymbols_of_retells hr, Bool.eq_iff_iff,
    List.contains_iff_mem, List.contains_iff_mem, List.map_map]
  simp only [List.mem_map, Function.comp_apply, hr.keepsMeaning.id_eq_iff]

theorem follows_run : Action.Follows ⟨descriptor, run⟩ f u v := by
  intro g loop pass
  have hfinding : ∀ target : Node,
      finding? g v (counters g v (loop.mapInfo f)) (target.mapInfo f) =
        (finding? g u (counters g u loop) target).map (Finding.mapInfo f) := by
    intro target
    rw [finding?, finding?, Grammar.symbol?_mapInfo hr.keepsShape g hr.reference?]
    cases g.symbol? u target with
    | none => rfl
    | some s =>
        simp only [Option.map_some, contains_counters_of_retells hr, hr.keepsMeaning.name]
        split <;> rfl
  have hbody : body? (loop.mapInfo f) = (body? loop).map (Node.mapInfo f) := by
    cases hrole : loop.childInRole? "statement" <;> simp [body?, hr.keepsShape, hrole]
  simp only [run, hbody]
  cases body? loop with
  | none => rfl
  | some body =>
      simp only [Option.map_some, changedIn_of_retells hr, List.filterMap_map, List.map_filterMap]
      exact congrArg (List.filterMap · _) (funext hfinding)

end LoopCounter

namespace GenericParameters

theorem parameterCount_of_retells (n : Node) : parameterCount (n.mapInfo f) = parameterCount n := by
  rw [parameterCount, parameterCount, Node.childOfKind?_mapInfo hr.keepsShape]
  cases n.childOfKind? "TypeParameterList" with
  | none => rfl
  | some list =>
      simp only [Option.map_some, Node.childNodes_mapInfo hr.keepsShape, List.countP_map,
        Function.comp_def, Node.kind_mapInfo hr.keepsShape]

theorem follows_runType (max : Nat) : Action.Follows ⟨descriptor, runType max⟩ f u v := by
  intro g n pass
  simp only [runType, parameterCount_of_retells hr, Grammar.identifier?_mapInfo hr.keepsShape,
    Grammar.name?_mapInfo hr.keepsSyntax, Node.kind_mapInfo hr.keepsShape]
  split
  · rfl
  · cases g.identifier? n with
    | none => rfl
    | some token => cases g.name? n <;> rfl

theorem qualifiedName_of_retells (g : Grammar) (n : Node) (name : String) :
    qualifiedName g (n.mapInfo f) name = qualifiedName g n name := by
  have henclosing :
      ((n.mapInfo f).ancestors.find? fun a => a.isAny enclosingKinds).bind g.name? =
        (n.ancestors.find? fun a => a.isAny enclosingKinds).bind g.name? := by
    simp only [Node.ancestors_mapInfo, List.find?_map, Function.comp_def,
      Node.isAny_mapInfo hr.keepsShape, Option.bind_map, Grammar.name?_mapInfo hr.keepsSyntax]
  rw [qualifiedName, qualifiedName, henclosing]

theorem follows_runMethod (max : Nat) : Action.Follows ⟨descriptor, runMethod max⟩ f u v := by
  intro g n pass
  simp only [runMethod, parameterCount_of_retells hr, Grammar.identifier?_mapInfo hr.keepsShape,
    Grammar.name?_mapInfo hr.keepsSyntax, qualifiedName_of_retells hr]
  split
  · rfl
  · cases g.identifier? n with
    | none => rfl
    | some token => cases g.name? n <;> rfl

theorem follows_of_mem_requests {maxInClass maxInMethod : Nat} {q : Request}
    (hq : q ∈ requests maxInClass maxInMethod) : q.action.Follows f u v := by
  simp only [requests, List.mem_cons, List.not_mem_nil, or_false] at hq
  rcases hq with rfl | rfl
  · exact follows_runType hr maxInClass
  · exact follows_runMethod hr maxInMethod

end GenericParameters

namespace EmptyMethod

theorem mayBeEmpty_of_retells (htest : v.testProject = u.testProject) (n : Node) :
    mayBeEmpty v (n.mapInfo f) = mayBeEmpty u n := by
  have hoverrides : overridesAbstract v (n.mapInfo f) = overridesAbstract u n := by
    rw [overridesAbstract, overridesAbstract, hr.declared?, Option.any_map]
    congr 1
    funext s
    simp only [hr.keepsMeaning.isOverride, hr.overridden?, Option.any_map,
      hr.keepsMeaning.isAbstract]
  simp [mayBeEmpty, hoverrides, htest, hr.keepsShape]

/-- The rule on empty methods finds the same if there are comments where there were before. -/
theorem follows_run (htest : v.testProject = u.testProject)
    (hcomments : ∀ i, (f i).comments = i.comments) :
    Action.Follows ⟨descriptor, run⟩ f u v := by
  intro g n pass
  have hempty : ∀ body : Node, isEmptyBody (body.mapInfo f) = isEmptyBody body := by
    intro body
    simp [isEmptyBody, Node.childNodes_mapInfo hr.keepsShape,
      Grammar.hasDelimiterComment_mapInfo_of_comments hr.keepsShape hcomments]
  simp only [run, Node.childOfKind?_mapInfo hr.keepsShape]
  cases n.childOfKind? "Block" with
  | none => rfl
  | some body =>
      simp only [Option.map_some, hempty, Node.kind_mapInfo hr.keepsShape,
        mayBeEmpty_of_retells hr htest, Grammar.identifier?_mapInfo hr.keepsShape]
      split
      · cases g.identifier? n <;> rfl
      · rfl

end EmptyMethod

namespace SystemClock

omit hr in
theorem followsIn_run (hr : SourceUnit.RetellsShape f h u v) {g : Grammar}
    (hnames : g.ComparesAlike f) : Action.FollowsIn ⟨descriptor, run⟩ g f u v := by
  intro n pass
  have hnamed : ∀ m : Node,
      ((g.name? m).any fun name => clockNames.any fun c => g.comparison.equal c name) =
        clockNames.any fun c => (g.name? m).any (g.comparison.equal · c) := by
    intro m
    cases g.name? m with
    | none => simp
    | some name => simp only [Option.any_some, g.comparison.equal_comm name]
  have hproperty :
      ((g.symbol? v (n.mapInfo f)).any fun s => s.kind == .property && s.isMemberOf dateTime) =
        (g.symbol? u n).any fun s => s.kind == .property && s.isMemberOf dateTime := by
    apply any_symbol?_of_retells hr
    intro s
    rw [hr.keepsMeaning.kind, isMemberOf_of_retells hr]
  have hplace : (n.mapInfo f).parent?.getD (n.mapInfo f) = (n.parent?.getD n).mapInfo f := by
    cases hparent : n.parent? <;> simp [hparent]
  simp only [run, hnamed, hnames n, hproperty, hplace]
  split <;> rfl

theorem follows_run : Action.Follows ⟨descriptor, run⟩ f u v :=
  fun g => followsIn_run hr.toRetellsShape (g.comparesAlike hr.keepsSyntax)

end SystemClock

omit hr in
/-- The actions of the registry of a language are those that its rules ask for. -/
theorem exists_rule_of_mem_actionsFor {s : Settings} {l : Language} {kind : String} {a : Action}
    (h : a ∈ (registryOf s l).actionsFor kind) :
    ∃ rule ∈ rulesOf s l, ∃ q ∈ rule.2, kind ∈ q.kinds ∧ a = q.action := by
  rw [(Registry.answers_registryOf s l).actions, askedFor] at h
  split at h
  · obtain ⟨q, hq, ha⟩ := List.mem_flatMap.mp h
    obtain ⟨rule, hrule, hq⟩ := List.mem_flatMap.mp hq
    obtain ⟨hcount, rfl⟩ := List.mem_replicate.mp ha
    exact ⟨rule, hrule, q, hq, List.count_pos_iff.mp (by omega), rfl⟩
  · cases h

/-- The actions of a language find the same in both units, apart from that for empty methods, which
asks for comments. -/
theorem follows_of_mem_actionsFor {s : Settings} {l : Language} {kind : String} {a : Action}
    (ha : a ∈ (registryOf s l).actionsFor kind) :
    a = ⟨EmptyMethod.descriptor, EmptyMethod.run⟩ ∨
      a.descriptor.id ≠ EmptyMethod.descriptor.id ∧ a.Follows f u v := by
  obtain ⟨rule, hrule, q, hq, -, rfl⟩ := exists_rule_of_mem_actionsFor ha
  rw [(isOwn_of_mem_rulesOf hrule hq).2]
  have hcredentials : HardcodedCredentials.descriptor.id ≠ EmptyMethod.descriptor.id := by decide
  have hcounter : LoopCounter.descriptor.id ≠ EmptyMethod.descriptor.id := by decide
  have hparameters : GenericParameters.descriptor.id ≠ EmptyMethod.descriptor.id := by decide
  have hclock : SystemClock.descriptor.id ≠ EmptyMethod.descriptor.id := by decide
  cases l with
  | csharp =>
      simp only [rulesOf, List.mem_cons, List.not_mem_nil, or_false] at hrule
      rcases hrule with rfl | rfl | rfl | rfl | rfl
      · exact .inr ⟨hcredentials, HardcodedCredentials.follows_of_mem_requests hr hq⟩
      · rw [List.mem_singleton.mp hq]
        exact .inr ⟨hcounter, LoopCounter.follows_run hr⟩
      · exact .inr ⟨hparameters, GenericParameters.follows_of_mem_requests hr hq⟩
      · rw [List.mem_singleton.mp hq]
        exact .inl rfl
      · rw [List.mem_singleton.mp hq]
        exact .inr ⟨hclock, SystemClock.follows_run hr⟩
  | visualBasic =>
      simp only [rulesOf, List.mem_cons, List.not_mem_nil, or_false] at hrule
      rcases hrule with rfl | rfl
      · exact .inr ⟨hcredentials, HardcodedCredentials.follows_of_mem_requests hr hq⟩
      · rw [List.mem_singleton.mp hq]
        exact .inr ⟨hclock, SystemClock.follows_run hr⟩

end Rules

/-! ## Runs -/

theorem Action.diagnostic_of_retells (hr : SourceUnit.RetellsShape f h u v) (a : Action)
    (x : Finding) :
    a.diagnostic v (x.mapInfo f) = a.diagnostic u x := by
  simp only [Action.diagnostic, Finding.mapInfo, hr.path, Node.span_mapInfo hr.keepsShape]

theorem Action.FollowsIn.runAt_eq {a : Action} {g : Grammar} (ha : a.FollowsIn g f u v)
    (hr : SourceUnit.RetellsShape f h u v) (n : Node) (pass : Pass) :
    a.runAt ⟨g, v, n.mapInfo f, pass⟩ = a.runAt ⟨g, u, n, pass⟩ := by
  rw [Action.runAt, Action.runAt, ha, List.map_map]
  congr 2
  exact funext (a.diagnostic_of_retells hr)

namespace Registry

variable {β : Type} (r : Registry) (enabled : String → Bool)

/-- The runs at a node are read alike in two units if those of each action are. -/
theorem map_runsAt_of_retells (hr : SourceUnit.RetellsShape f h u v) (readU readV : Run → β)
    {n : Node}
    (hread : ∀ a ∈ r.actionsFor n.kind, enabled a.descriptor.id = true → ∀ pass,
      readV (a.runAt ⟨r.grammar, v, n.mapInfo f, pass⟩) =
        readU (a.runAt ⟨r.grammar, u, n, pass⟩)) :
    (r.runsAt enabled v (n.mapInfo f)).map readV = (r.runsAt enabled u n).map readU := by
  have hpasses : passes r.grammar (n.mapInfo f) = passes r.grammar n := by
    simp [passes, hr.keepsShape]
  rw [runsAt, runsAt, hpasses, Node.kind_mapInfo hr.keepsShape, List.map_flatMap, List.map_flatMap]
  apply List.flatMap_congr
  intro pass _
  rw [List.map_map, List.map_map]
  apply List.map_congr_left
  intro a ha
  obtain ⟨ha, henabled⟩ := List.mem_filter.mp ha
  exact hread a ha henabled pass

/-- So are the runs over nodes. -/
theorem map_runsOver_of_retells (hr : SourceUnit.RetellsShape f h u v) (read : Run → β)
    (hread : ∀ kind, ∀ a ∈ r.actionsFor kind, enabled a.descriptor.id = true → ∀ n pass,
      read (a.runAt ⟨r.grammar, v, n.mapInfo f, pass⟩) =
        read (a.runAt ⟨r.grammar, u, n, pass⟩))
    (nodes : List Node) :
    (r.runsOver enabled v (nodes.map (Node.mapInfo f))).map read =
      (r.runsOver enabled u nodes).map read := by
  rw [runsOver, runsOver, List.flatMap_map, List.map_flatMap, List.map_flatMap]
  apply List.flatMap_congr
  intro n _
  exact r.map_runsAt_of_retells enabled hr read read fun a ha henabled pass =>
    hread n.kind a ha henabled n pass

/-- The runs of actions that find the same in two units are the same. -/
theorem runsOver_of_follows {r : Registry} {enabled : String → Bool}
    (hr : SourceUnit.RetellsShape f h u v)
    (hfollows : ∀ kind, ∀ a ∈ r.actionsFor kind, enabled a.descriptor.id = true →
      a.FollowsIn r.grammar f u v)
    (nodes : List Node) :
    r.runsOver enabled v (nodes.map (Node.mapInfo f)) = r.runsOver enabled u nodes := by
  have hruns := r.map_runsOver_of_retells enabled hr id
    (fun kind a ha henabled n pass => (hfollows kind a ha henabled).runAt_eq hr n pass) nodes
  rwa [List.map_id, List.map_id] at hruns

end Registry

end Rule
end TreeLint
