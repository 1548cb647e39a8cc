import TreeLint.Proofs.Engine.Watching
import TreeLint.Proofs.Rule.Recasing

/-!
# Visual Basic in another case

Visual Basic does not tell names apart by their case. An analysis of a unit agrees with that as far
as it goes by symbols: the rule on the system clock and the trackers of the rule on credentials find
the same in any two units that differ in the case of letters only.

**Results.**
* `Engine.filter_diagnostics_watchUnit_inLowerCase`: a unit and the unit in lower case.
* `Engine.watchUnit_ignores_case`: any two units that differ in case.
-/

namespace TreeLint

open Report Rule Source Symbols Syntax

/-- The requests that go by symbols find the same in a unit and in the unit in lower case. -/
theorem Rule.analyze_inLowerCase {q : Request} (hq : q ∈ symbolRequests Grammar.visualBasic)
    (u : SourceUnit) :
    ((Registry.empty Grammar.visualBasic).request q).analyze u.inLowerCase =
      ((Registry.empty Grammar.visualBasic).request q).analyze u := by
  have hfollows : ∀ p ∈ [q], p.action.FollowsIn Grammar.visualBasic NodeInfo.inLowerCase u
      u.inLowerCase := by
    intro p hp
    rw [List.mem_singleton.mp hp]
    exact followsIn_of_mem_symbolRequests u.retellsShape_inLowerCase
      Grammar.comparesAlike_inLowerCase hq
  exact Registry.analyze_of_followsIn u.retellsShape_inLowerCase hfollows

namespace Engine

/-- So does an analysis, as far as it goes by symbols. -/
theorem filter_diagnostics_watchUnit_inLowerCase (e : Engine) (w : Watch) {u : SourceUnit}
    (hu : u.language = .visualBasic) :
    (e.watchUnit w u.inLowerCase).diagnostics.filter goesBySymbols =
      (e.watchUnit w u).diagnostics.filter goesBySymbols := by
  have hr := u.retellsShape_inLowerCase
  have hskips : e.skips u.inLowerCase = e.skips u := rfl
  have hseverity : goesBySymbols ∘ e.withSeverity = goesBySymbols := rfl
  have hruns : ∀ nodes,
      ((e.runsOver u.inLowerCase (nodes.map (Node.mapInfo NodeInfo.inLowerCase))).flatMap
          Run.diagnostics).filter goesBySymbols =
        ((e.runsOver u nodes).flatMap Run.diagnostics).filter goesBySymbols := by
    intro nodes
    have hlanguage : u.inLowerCase.language = .visualBasic := hu
    rw [runsOver, runsOver, hlanguage, hu]
    exact filter_diagnostics_runsOver hr Grammar.comparesAlike_inLowerCase e.settings _ nodes
  rw [diagnostics_watchUnit_eq, diagnostics_watchUnit_eq, hskips, nodes_of_retells hr,
    Watch.admitted_map]
  split
  · rfl
  · dsimp only
    rw [Diagnostic.filter_sort, Diagnostic.filter_sort, List.filter_map, List.filter_map,
      hseverity, hruns]

/-- In two Visual Basic units that differ in the case of letters only, the rule on the system clock
has the same diagnostics, and so has each tracker of the rule on credentials, both by themselves and
among all that an analysis finds under any configuration. -/
theorem watchUnit_ignores_case (e : Engine) (w : Watch) {u v : SourceUnit}
    (hu : u.language = .visualBasic) (h : u.SameButCase v) :
    (∀ q ∈ SystemClock.requests Grammar.visualBasic ++
        HardcodedCredentials.trackers Grammar.visualBasic,
      ((Registry.empty Grammar.visualBasic).request q).analyze u =
        ((Registry.empty Grammar.visualBasic).request q).analyze v) ∧
    (e.watchUnit w u).diagnostics.filter goesBySymbols =
      (e.watchUnit w v).diagnostics.filter goesBySymbols := by
  have hlower : u.inLowerCase = v.inLowerCase := h
  have hv : v.language = .visualBasic := by
    show v.inLowerCase.language = .visualBasic
    rw [← hlower]
    exact hu
  constructor
  · intro q hq
    rw [← analyze_inLowerCase hq u, hlower, analyze_inLowerCase hq v]
  · rw [← e.filter_diagnostics_watchUnit_inLowerCase w hu, hlower,
      e.filter_diagnostics_watchUnit_inLowerCase w hv]

/-- Of a password that is set and a clock that is read, under names in small and in capital letters,
one of them in brackets. -/
theorem watchUnit_ignores_case_bracketed :
    let e : Engine := ⟨Config.standard, Settings.standard, Glob.isMatch, false⟩
    let w : Watch := .steady false
    let g := Grammar.visualBasic
    let node (id : NodeId) (kind : String) (text : Option String) (reference : Option SymbolId) :
        List Tree → Tree :=
      .node ⟨id, kind, none, text, ⟨⟨1, id⟩, ⟨1, id⟩⟩, [], [], reference, none, none, none⟩
    let name (id : NodeId) (text : String) (symbol : SymbolId) : Tree :=
      node id "IdentifierName" none symbol [node (id + 1) "IdentifierToken" text none []]
    let property (id : SymbolId) (name type : String) : Symbol :=
      ⟨id, name, .property, type, none, false, false, false, none⟩
    let unit (set read : String) : SourceUnit :=
      ⟨"Clock.vb", .visualBasic, false, false,
        node 0 "SimpleAssignmentStatement" none none
          [node 1 "SimpleMemberAccessExpression" none none [name 2 set 1],
            node 4 "StringLiteralExpression" none none [name 5 read 2]],
        (SymbolTable.empty.insert (property 1 "Password" "System.Net.NetworkCredential")).insert
          (property 2 "Now" "System.DateTime")⟩
    let u := unit "Password" "[Now]"
    let v := unit "PASSWORD" "[NOW]"
    u.SameButCase v ∧
    (symbolRequests g).map (fun q =>
        (((Registry.empty g).request q).analyze u).map fun d => d.span.start.column) =
      [[4], [], [], [2]] ∧
    (symbolRequests g).map (fun q => ((Registry.empty g).request q).analyze u) =
      (symbolRequests g).map (fun q => ((Registry.empty g).request q).analyze v) ∧
    (e.watchUnit w u).diagnostics.filter goesBySymbols =
      (e.watchUnit w v).diagnostics.filter goesBySymbols := by
  intro e w g node name property unit u v
  have hset : Text.lowerEach "Password".toList = Text.lowerEach "PASSWORD".toList := by
    decide +kernel
  have hread : Text.lowerEach "[Now]".toList = Text.lowerEach "[NOW]".toList := by
    decide +kernel
  have hcase : u.SameButCase v := by
    simp only [SourceUnit.SameButCase, SourceUnit.inLowerCase, u, v, unit, node, name,
      Tree.mapInfo, Tree.mapInfoAll, NodeInfo.inLowerCase, Option.map_some, hset, hread]
  obtain ⟨halone, hamong⟩ := watchUnit_ignores_case e w rfl hcase
  exact ⟨hcase, by decide +kernel, List.map_congr_left halone, hamong⟩

end Engine

end TreeLint
