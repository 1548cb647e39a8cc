import TreeLint.Proofs.Engine.Watching

/-!
# Filtering by the configuration

The rules that a configuration turns on are chosen in front of each action, severities are replaced
afterwards, and what is left is sorted twice. Still a configuration only makes a selection: what an
analysis finds are the findings of all rules that the configuration lets through, in their order,
each with the severity that is set for its rule. So no setting for one rule has an effect on the
findings of another one.

**Results.**
* `Engine.diagnostics_analyze`: an analysis in one formula, as a projection of everything that the
  rules say.
* `Engine.analyze_filters_everything`: an analysis against one in which every rule runs.
* `Config.agreesOn_switch`: switching one rule leaves what is said about the others.
-/

namespace TreeLint

open Report Rule Source Syntax

namespace Config

variable {matching : String → String → Bool}

/-- The configuration that turns on every rule of the catalogue, everywhere, with the severity of
the rule. -/
def withEveryRule (c : Config) : Config :=
  { c with rules := ⟨[], c.rules.enabled ++ catalogueIds, [], ∅, ∅⟩ }

/-- Two configurations say the same about a rule. -/
structure AgreesOn (matching : String → String → Bool) (c d : Config) (id : String) : Prop where
  isEnabled : c.isEnabled id = d.isEnabled id
  isIgnored : ∀ path, c.isIgnoredWhere matching id path = d.isIgnoredWhere matching id path
  severity : c.severity? id = d.severity? id

theorem AgreesOn.runsOnWhere {c d : Config} {id : String} (h : AgreesOn matching c d id)
    (path : String) : c.runsOnWhere matching id path = d.runsOnWhere matching id path := by
  rw [Config.runsOnWhere, Config.runsOnWhere, h.isEnabled, h.isIgnored path]

theorem namesRule_of_mem {ids : List String} {id : String} (h : id ∈ ids) :
    namesRule ids id = true :=
  List.any_eq_true.mpr ⟨id, h, by simp [Text.sameAsciiString, Text.sameAscii]⟩

/-- Nothing keeps a rule of the catalogue from running when every rule is turned on. -/
theorem runsOnWhere_withEveryRule (c : Config) {id : String} (h : id ∈ catalogueIds)
    (path : String) : c.withEveryRule.runsOnWhere matching id path = true := by
  have hnamed : namesRule (c.rules.enabled ++ catalogueIds) id = true :=
    namesRule_of_mem (List.mem_append_right _ h)
  have henabled : c.withEveryRule.isEnabled id = true := by
    show (if namesRule [] id then false
      else if !([] : List String).isEmpty then namesRule [] id
      else namesRule (c.rules.enabled ++ catalogueIds) id || runsByDefault id) = true
    rw [hnamed]
    rfl
  have hkept : c.withEveryRule.isIgnoredWhere matching id path = false := by
    simp [isIgnoredWhere, withEveryRule]
  rw [runsOnWhere, henabled, hkept]
  rfl

@[simp] theorem severity?_withEveryRule (c : Config) (id : String) :
    c.withEveryRule.severity? id = none := by
  simp [severity?, withEveryRule]

/-! ## Settings for one rule -/

/-- The ids in the catalogue differ in more than the case of their letters. -/
theorem sameAsciiString_of_mem_catalogue {ruleId id : String} (hrule : ruleId ∈ catalogueIds)
    (hid : id ∈ catalogueIds) (hne : id ≠ ruleId) : Text.sameAsciiString ruleId id = false := by
  have hall : ∀ r ∈ catalogueIds, ∀ i ∈ catalogueIds, i ≠ r →
      Text.sameAsciiString r i = false := by
    decide +kernel
  exact hall ruleId hrule id hid hne

theorem namesRule_cons_of_ne {ruleId id : String} (h : Text.sameAsciiString ruleId id = false)
    (ids : List String) : namesRule (ruleId :: ids) id = namesRule ids id := by
  rw [namesRule, List.any_cons, h, Bool.false_or, namesRule]

theorem namesRule_filter_of_ne {ruleId id : String} (h : Text.sameAsciiString ruleId id = false)
    (ids : List String) :
    namesRule (ids.filter fun i => !Text.sameAsciiString i ruleId) id = namesRule ids id := by
  rw [namesRule, namesRule, List.any_filter]
  congr 1
  funext i
  -- an entry that names the switched rule does not name the other one
  cases hi : Text.sameAsciiString i ruleId with
  | false =>
      rfl
  | true =>
      rw [Text.sameAsciiString, Text.sameAscii, beq_iff_eq] at hi
      rw [Text.sameAsciiString, Text.sameAscii, ← hi] at h
      exact h.symm

/-- How a rule can be switched. -/
inductive Switch where
  | off
  | on
  | severity (s : Severity)

/-- What is said about rules after one of them is switched. A rule that is switched on is no longer
disabled, and stands among the only rules if there are such. -/
def RuleOptions.switch (r : RuleOptions) (ruleId : String) : Switch → RuleOptions
  | .off => { r with disabled := ruleId :: r.disabled }
  | .on =>
    { r with
      disabled := r.disabled.filter fun i => !Text.sameAsciiString i ruleId
      enabled := ruleId :: r.enabled
      only := if r.only.isEmpty then [] else ruleId :: r.only }
  | .severity s => { r with severity := r.severity.insert ruleId s }

/-- Switching one rule leaves what is said about the others. -/
theorem agreesOn_switch (c : Config) {ruleId id : String} (hrule : ruleId ∈ catalogueIds)
    (hid : id ∈ catalogueIds) (hne : id ≠ ruleId) (switch : Switch) :
    AgreesOn matching c { c with rules := c.rules.switch ruleId switch } id := by
  have hother := sameAsciiString_of_mem_catalogue hrule hid hne
  cases switch with
  | off =>
      refine ⟨?_, fun _ => rfl, rfl⟩
      rw [isEnabled, isEnabled, RuleOptions.switch, namesRule_cons_of_ne hother]
  | on =>
      refine ⟨?_, fun _ => rfl, rfl⟩
      rw [isEnabled, isEnabled, RuleOptions.switch, namesRule_filter_of_ne hother,
        namesRule_cons_of_ne hother]
      cases honly : c.rules.only with
      | nil =>
          rfl
      | cons i only =>
          simp [namesRule_cons_of_ne hother]
  | severity s =>
      refine ⟨rfl, fun _ => rfl, ?_⟩
      rw [severity?, severity?, RuleOptions.switch, Std.TreeMap.getElem?_insert]
      simp [hne.symm]

end Config

namespace Engine

variable {e : Engine} {matching : String → String → Bool} {c : Config}

/-! ## Analyses as projections -/

/-- Everything that the rules say about a unit, in the order of the walk. -/
def findings (e : Engine) (u : SourceUnit) : List Diagnostic :=
  if e.skips u then [] else (registryOf e.settings u.language).analyze u

/-- Whether the configuration lets a diagnostic through. -/
def keeps (e : Engine) (d : Diagnostic) : Bool :=
  e.config.runsOnWhere e.matching d.ruleId d.path

theorem mem_catalogue_of_mem_runsOver {s : Settings} {l : Language} {enabled : String → Bool}
    {u : SourceUnit} {nodes : List Node} {d : Diagnostic}
    (h : d ∈ ((registryOf s l).runsOver enabled u nodes).flatMap Run.diagnostics) :
    d.ruleId ∈ catalogueIds := by
  obtain ⟨run, hrun, hd⟩ := List.mem_flatMap.mp h
  rw [(Registry.reportsFor_of_mem_runsOver (owned_registryOf _ _) hrun d hd).1]
  exact mem_catalogue_of_mem_ids (Registry.mem_ids_of_mem_runsOver (owned_registryOf _ _) hrun)

theorem mem_catalogue_of_mem_findings {u : SourceUnit} {d : Diagnostic} (h : d ∈ e.findings u) :
    d.ruleId ∈ catalogueIds := by
  unfold findings at h
  split at h
  · simp at h
  · exact mem_catalogue_of_mem_runsOver h

/-- The diagnostics of the active rules are those that the configuration lets through. -/
theorem flatMap_diagnostics_runsOver (e : Engine) (u : SourceUnit) :
    (e.runsOver u u.nodes).flatMap Run.diagnostics =
      ((registryOf e.settings u.language).analyze u).filter e.keeps := by
  rw [runsOver, Registry.flatMap_diagnostics_runsOver (owned_registryOf _ _), Registry.analyze,
    Registry.runs]
  apply List.filter_congr
  intro d hd
  obtain ⟨run, hrun, hd⟩ := List.mem_flatMap.mp hd
  obtain ⟨hid, hpath⟩ := Registry.reportsFor_of_mem_runsOver (owned_registryOf _ _) hrun d hd
  have hmem : run.ruleId ∈ (registryOf e.settings u.language).ids :=
    Registry.mem_ids_of_mem_runsOver (owned_registryOf _ _) hrun
  rw [hid, contains_activeRules hmem, keeps, hid, hpath]

/-- What is found in one unit. -/
theorem diagnostics_analyzeUnit (hclear : e.cancelled = false) (u : SourceUnit) :
    (e.analyzeUnit u).diagnostics =
      Diagnostic.sort (((e.findings u).filter e.keeps).map e.withSeverity) := by
  rw [analyzeUnit, watchUnit, hclear, Watch.steady_zero, if_neg Bool.false_ne_true, findings]
  split
  · simp [Summary.skipped, Summary.empty, Diagnostic.sort]
  · rw [← flatMap_diagnostics_runsOver, examine, Watch.next_steady, Watch.admitted_steady_false]
    rfl

/-- What is found in several units is a projection of what all rules say about them. -/
theorem diagnostics_analyze (hclear : e.cancelled = false) (us : List SourceUnit) :
    (e.analyze us).diagnostics =
      ((Diagnostic.sort (us.flatMap e.findings)).filter e.keeps).map e.withSeverity := by
  have hunits :
      (us.flatMap fun u => (e.analyzeUnit u).diagnostics) =
        us.flatMap fun u =>
          Diagnostic.sort (((e.findings u).filter e.keeps).map e.withSeverity) := by
    congr 1
    funext u
    exact diagnostics_analyzeUnit hclear u
  calc
    (e.analyze us).diagnostics
        = Diagnostic.sort (us.flatMap fun u => (e.analyzeUnit u).diagnostics) := by
          rw [analyze_eq_ofFiles, Summary.diagnostics_ofFiles, List.flatMap_map]
    _ = Diagnostic.sort
          (us.flatMap fun u => ((e.findings u).filter e.keeps).map e.withSeverity) := by
          rw [hunits, Diagnostic.sort_flatMap_sort]
    _ = Diagnostic.sort (((us.flatMap e.findings).filter e.keeps).map e.withSeverity) := by
          rw [List.filter_flatMap, List.map_flatMap]
    _ = ((Diagnostic.sort (us.flatMap e.findings)).filter e.keeps).map e.withSeverity := by
          rw [Diagnostic.filter_sort, Diagnostic.map_sort]
          exact fun _ => rfl

/-! ## Engines that differ in their rules only -/

/-- The engine of a configuration has its settings, and is not cancelled. -/
theorem ofConfigWhere_eq_ok_iff :
    ofConfigWhere matching c = .ok e ↔
      ∃ s, c.settings = .ok s ∧ e = ⟨c, s, matching, false⟩ := by
  rw [ofConfigWhere]
  cases c.settings with
  | error cause =>
      constructor
      · intro h
        cases h
      · rintro ⟨s, hs, -⟩
        cases hs
  | ok s =>
      constructor
      · intro h
        cases h
        exact ⟨s, rfl, rfl⟩
      · rintro ⟨t, ht, rfl⟩
        cases ht
        rfl

theorem mem_catalogue_of_mem_sort_findings {us : List SourceUnit} {d : Diagnostic}
    (h : d ∈ Diagnostic.sort (us.flatMap e.findings)) : d.ruleId ∈ catalogueIds := by
  obtain ⟨u, -, hd⟩ := List.mem_flatMap.mp ((Diagnostic.sort_perm _).mem_iff.mp h)
  exact mem_catalogue_of_mem_findings hd

/-- An analysis in which every rule runs leaves out nothing and changes no severity. -/
theorem diagnostics_analyze_withEveryRule (hconfig : e.config = c.withEveryRule)
    (hclear : e.cancelled = false) (us : List SourceUnit) :
    (e.analyze us).diagnostics = Diagnostic.sort (us.flatMap e.findings) := by
  have hkeeps :
      (Diagnostic.sort (us.flatMap e.findings)).filter e.keeps =
        Diagnostic.sort (us.flatMap e.findings) := by
    apply List.filter_eq_self.mpr
    intro d hd
    rw [keeps, hconfig]
    exact c.runsOnWhere_withEveryRule (mem_catalogue_of_mem_sort_findings hd) d.path
  have hseverity : e.withSeverity = id := by
    funext d
    simp [withSeverity, hconfig]
  rw [diagnostics_analyze hclear, hkeeps, hseverity, List.map_id]

/-- A part of the diagnostics that is chosen by rule can be chosen before the projection. -/
theorem filter_map_withSeverity (e : Engine) (p : String → Bool) (ds : List Diagnostic) :
    (((ds.filter e.keeps).map e.withSeverity).filter fun d => p d.ruleId) =
      ((ds.filter fun d => p d.ruleId).filter e.keeps).map e.withSeverity := by
  have hrule : ((fun d : Diagnostic => p d.ruleId) ∘ e.withSeverity) = fun d => p d.ruleId :=
    rfl
  rw [List.filter_map, hrule, List.filter_filter, List.filter_filter]
  congr 2
  funext d
  exact Bool.and_comm _ _

/-- Engines that say the same about all other rules agree on the findings of these. -/
theorem filter_diagnostics_analyze_of_agreesOn {f : Engine} {ruleId : String}
    (he : e.cancelled = false) (hf : f.cancelled = false)
    (hfindings : f.findings = e.findings) (hmatching : f.matching = e.matching)
    (hsame : ∀ id ∈ catalogueIds, id ≠ ruleId →
      Config.AgreesOn e.matching e.config f.config id)
    (us : List SourceUnit) :
    ((f.analyze us).diagnostics.filter fun d => d.ruleId ≠ ruleId) =
      (e.analyze us).diagnostics.filter fun d => d.ruleId ≠ ruleId := by
  let others := (Diagnostic.sort (us.flatMap e.findings)).filter fun d => d.ruleId ≠ ruleId
  have hagrees : ∀ d ∈ others, Config.AgreesOn e.matching e.config f.config d.ruleId := by
    intro d hd
    obtain ⟨hmem, hne⟩ := List.mem_filter.mp hd
    exact hsame d.ruleId (mem_catalogue_of_mem_sort_findings hmem) (by simpa using hne)
  have hkeeps : others.filter f.keeps = others.filter e.keeps := by
    apply List.filter_congr
    intro d hd
    rw [keeps, keeps, hmatching, (hagrees d hd).runsOnWhere]
  have hseverity :
      (others.filter e.keeps).map f.withSeverity = (others.filter e.keeps).map e.withSeverity := by
    apply List.map_congr_left
    intro d hd
    rw [withSeverity, withSeverity, (hagrees d (List.mem_filter.mp hd).1).severity]
  rw [diagnostics_analyze he, diagnostics_analyze hf, hfindings,
    filter_map_withSeverity f fun id => id ≠ ruleId,
    filter_map_withSeverity e fun id => id ≠ ruleId]
  show (others.filter f.keeps).map f.withSeverity = (others.filter e.keeps).map e.withSeverity
  rw [hkeeps, hseverity]

/-- A configuration makes a selection among what every rule finds, and replaces severities. What is
changed in what it says about one rule leaves the findings of the other rules, in particular when
the rule is switched on, off or to another severity. -/
theorem analyze_filters_everything (h : ofConfigWhere matching c = .ok e)
    (us : List SourceUnit) :
    (∃ every,
      ofConfigWhere matching c.withEveryRule = .ok every ∧
      (e.analyze us).diagnostics =
        ((every.analyze us).diagnostics.filter fun d =>
            c.isEnabled d.ruleId && !c.isIgnoredWhere matching d.ruleId d.path).map fun d =>
          { d with severity := (c.severity? d.ruleId).getD d.severity }) ∧
    (∀ (rules : Config.RuleOptions) (ruleId : String),
      (∀ id ∈ catalogueIds, id ≠ ruleId →
        Config.AgreesOn matching c { c with rules := rules } id) →
      ∃ switched,
        ofConfigWhere matching { c with rules := rules } = .ok switched ∧
        ((switched.analyze us).diagnostics.filter fun d => d.ruleId ≠ ruleId) =
          (e.analyze us).diagnostics.filter fun d => d.ruleId ≠ ruleId) ∧
    ∀ ruleId ∈ catalogueIds, ∀ switch : Config.Switch,
      ∃ switched,
        ofConfigWhere matching { c with rules := c.rules.switch ruleId switch } = .ok switched ∧
        ((switched.analyze us).diagnostics.filter fun d => d.ruleId ≠ ruleId) =
          (e.analyze us).diagnostics.filter fun d => d.ruleId ≠ ruleId := by
  -- neither the settings nor the findings of an engine depend on what is said about rules
  obtain ⟨s, hs, rfl⟩ := ofConfigWhere_eq_ok_iff.mp h
  have hothers : ∀ (rules : Config.RuleOptions) (ruleId : String),
      (∀ id ∈ catalogueIds, id ≠ ruleId →
        Config.AgreesOn matching c { c with rules := rules } id) →
      ∃ switched,
        ofConfigWhere matching { c with rules := rules } = .ok switched ∧
        ((switched.analyze us).diagnostics.filter fun d => d.ruleId ≠ ruleId) =
          ((⟨c, s, matching, false⟩ : Engine).analyze us).diagnostics.filter
            fun d => d.ruleId ≠ ruleId := by
    intro rules ruleId hsame
    let e : Engine := ⟨c, s, matching, false⟩
    let f : Engine := ⟨{ c with rules := rules }, s, matching, false⟩
    refine ⟨f, ofConfigWhere_eq_ok_iff.mpr ⟨s, hs, rfl⟩, ?_⟩
    exact filter_diagnostics_analyze_of_agreesOn (e := e) (f := f) rfl rfl rfl rfl hsame us
  refine ⟨?_, hothers, ?_⟩
  · refine ⟨⟨c.withEveryRule, s, matching, false⟩,
      ofConfigWhere_eq_ok_iff.mpr ⟨s, hs, rfl⟩, ?_⟩
    rw [diagnostics_analyze rfl, diagnostics_analyze_withEveryRule (c := c) rfl rfl]
    rfl
  · intro ruleId hrule switch
    apply hothers
    intro id hid hne
    exact c.agreesOn_switch hrule hid hne switch

/-- Of the standard configuration and one method without statements, where the rule on such
methods is turned off. -/
theorem analyze_filters_everything_emptyMethod :
    let c := Config.standard
    let e : Engine := ⟨c, Settings.standard, Glob.isMatch, false⟩
    let info (id : NodeId) (kind : String) (text : Option String) : NodeInfo :=
      ⟨id, kind, none, text, ⟨⟨1, 1⟩, ⟨1, 2⟩⟩, [], [], none, none, none, none⟩
    let name : Tree := .node (info 1 "IdentifierToken" (some "F")) []
    let body : Tree := .node (info 2 "Block" none) []
    let method : Tree := .node (info 0 "MethodDeclaration" none) [name, body]
    let u : SourceUnit := ⟨"Empty.cs", .csharp, false, false, method, Symbols.SymbolTable.empty⟩
    ofConfigWhere Glob.isMatch c = .ok e ∧
      (∃ every,
        ofConfigWhere Glob.isMatch c.withEveryRule = .ok every ∧
        (e.analyze [u]).diagnostics =
          ((every.analyze [u]).diagnostics.filter fun d =>
              c.isEnabled d.ruleId && !c.isIgnoredWhere Glob.isMatch d.ruleId d.path).map fun d =>
            { d with severity := (c.severity? d.ruleId).getD d.severity }) ∧
      ∃ switched,
        ofConfigWhere Glob.isMatch { c with rules := c.rules.switch "S1186" .off } = .ok switched ∧
        ((switched.analyze [u]).diagnostics.filter fun d => d.ruleId ≠ "S1186") =
          (e.analyze [u]).diagnostics.filter fun d => d.ruleId ≠ "S1186" := by
  intro c e info name body method u
  have h : ofConfigWhere Glob.isMatch c = .ok e := by
    rfl
  obtain ⟨hevery, -, hswitch⟩ := analyze_filters_everything h [u]
  exact ⟨h, hevery, hswitch "S1186" (by decide) .off⟩

end Engine
end TreeLint
