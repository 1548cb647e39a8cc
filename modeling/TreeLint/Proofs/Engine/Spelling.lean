import Mathlib.Data.List.Forall2
import TreeLint.Proofs.Config.Merging
import TreeLint.Proofs.Engine.Filtering

/-!
# Spellings of rule ids

An id in a list of a configuration names a rule in whatever case its letters are written, while a
severity is looked up under the exact id of a rule. So another spelling of the ids in a
configuration changes nothing but severities, and these only where a rule's own id is among the keys
that change.

**Results.**
* `Config.Respelled.runsOnWhere`: the same rules run.
* `Engine.analyze_respelled`: an analysis under another spelling.
-/

namespace TreeLint

open Report Rule Source Syntax

namespace Config

/-- The same id, with its letters perhaps in another case. -/
def SameId (i j : String) : Prop :=
  Text.sameAsciiString i j = true

instance (i j : String) : Decidable (SameId i j) :=
  inferInstanceAs (Decidable (Text.sameAsciiString i j = true))

/-- The same entry in a list of rules left out for a file. The word for all rules is no id. -/
def SameIgnored (i j : String) : Prop :=
  SameId i j ∧ (i = allRules ↔ j = allRules)

/-- Two configurations that differ only in how ids of rules are spelled. -/
structure Respelled (c d : Config) : Prop where
  bases : d.bases = c.bases
  engine : d.engine = c.engine
  output : d.output = c.output
  files : d.files = c.files
  parameters : d.parameters = c.parameters
  disabled : List.Forall₂ SameId c.rules.disabled d.rules.disabled
  enabled : List.Forall₂ SameId c.rules.enabled d.rules.enabled
  only : List.Forall₂ SameId c.rules.only d.rules.only
  perFile : List.Forall₂ (fun e f => e.1 = f.1 ∧ List.Forall₂ SameIgnored e.2 f.2)
    c.rules.perFile.toList d.rules.perFile.toList
  severity : ∀ id s, c.rules.severity[id]? = some s →
    ∃ other, SameId id other ∧ d.rules.severity[other]? = some s
  severity_back : ∀ other s, d.rules.severity[other]? = some s →
    ∃ id, SameId id other ∧ c.rules.severity[id]? = some s
  keys_distinct : ∀ i ∈ c.rules.severity, ∀ j ∈ c.rules.severity, SameId i j → i = j
  keys_distinct_back : ∀ i ∈ d.rules.severity, ∀ j ∈ d.rules.severity, SameId i j → i = j

theorem SameId.sameAsciiString_eq {i j : String} (h : SameId i j) (id : String) :
    Text.sameAsciiString i id = Text.sameAsciiString j id := by
  rw [SameId, Text.sameAsciiString, Text.sameAscii, beq_iff_eq] at h
  rw [Text.sameAsciiString, Text.sameAsciiString, Text.sameAscii, Text.sameAscii, h]

theorem any_congr {α β : Type} {as : List α} {bs : List β} {f : α → Bool} {g : β → Bool}
    (h : List.Forall₂ (fun a b => f a = g b) as bs) : as.any f = bs.any g := by
  induction h with
  | nil => rfl
  | cons hab _ ih => rw [List.any_cons, List.any_cons, hab, ih]

theorem namesRule_congr {is js : List String} (h : List.Forall₂ SameId is js) (id : String) :
    namesRule is id = namesRule js id :=
  any_congr (h.imp fun _ _ hij => hij.sameAsciiString_eq id)

theorem contains_allRules_congr {is js : List String} (h : List.Forall₂ SameIgnored is js) :
    is.contains allRules = js.contains allRules := by
  rw [List.contains_eq_any_beq, List.contains_eq_any_beq]
  refine any_congr (h.imp fun i j hij => ?_)
  rw [Bool.eq_iff_iff, beq_iff_eq, beq_iff_eq, eq_comm, hij.2, eq_comm]

theorem takesIn_congr {is js : List String} (h : List.Forall₂ SameIgnored is js) (id : String) :
    takesIn is id = takesIn js id := by
  rw [takesIn, takesIn, contains_allRules_congr h, namesRule_congr (h.imp fun _ _ hij => hij.1)]

namespace Respelled

variable {c d : Config}

theorem isEnabled (h : Respelled c d) (id : String) : d.isEnabled id = c.isEnabled id := by
  have honly : d.rules.only.isEmpty = c.rules.only.isEmpty := by
    rw [Bool.eq_iff_iff, List.isEmpty_iff_length_eq_zero, List.isEmpty_iff_length_eq_zero,
      h.only.length_eq]
  rw [Config.isEnabled, Config.isEnabled, honly, namesRule_congr h.disabled,
    namesRule_congr h.enabled, namesRule_congr h.only]

theorem isIgnoredWhere (h : Respelled c d) (matching : String → String → Bool) (id path : String) :
    d.isIgnoredWhere matching id path = c.isIgnoredWhere matching id path := by
  refine (any_congr (h.perFile.imp fun e f hentry => ?_)).symm
  rw [hentry.1, takesIn_congr hentry.2]

/-- The same rules run on each file. -/
theorem runsOnWhere (h : Respelled c d) (matching : String → String → Bool) (id path : String) :
    d.runsOnWhere matching id path = c.runsOnWhere matching id path := by
  rw [Config.runsOnWhere, Config.runsOnWhere, h.isEnabled, h.isIgnoredWhere]

theorem settings (h : Respelled c d) : d.settings = c.settings :=
  settingsUnder_congr .never fun key => by rw [h.parameters]

end Respelled
end Config

namespace Engine

variable {c d : Config} {matching : String → String → Bool}

/-- What a unit is analyzed to depends on the configuration only by what it says about generated
units and about the rules of the catalogue. -/
theorem watchUnit_congr {e f : Engine} (hsettings : f.settings = e.settings)
    (hengine : f.config.engine = e.config.engine)
    (hruns : ∀ id path,
      f.config.runsOnWhere f.matching id path = e.config.runsOnWhere e.matching id path)
    (hseverity : ∀ id ∈ catalogueIds, f.config.severity? id = e.config.severity? id)
    (w : Watch) (u : SourceUnit) : f.watchUnit w u = e.watchUnit w u := by
  have hskips : f.skips u = e.skips u := by
    rw [skips, skips, hengine]
  have hover : ∀ nodes, f.runsOver u nodes = e.runsOver u nodes := by
    intro nodes
    simp only [runsOver, activeRules, hsettings, hruns]
  have hfound : ∀ nodes,
      ((e.runsOver u nodes).flatMap Run.diagnostics).map f.withSeverity =
        ((e.runsOver u nodes).flatMap Run.diagnostics).map e.withSeverity := by
    intro nodes
    apply List.map_congr_left
    intro x hx
    rw [withSeverity, withSeverity, hseverity x.ruleId (mem_catalogue_of_mem_runsOver hx)]
  simp only [watchUnit, hskips, examine, hover, hfound]

/-- A method without statements. -/
def emptyMethod : SourceUnit :=
  let info (id : NodeId) (kind : String) (role text : Option String) : NodeInfo :=
    ⟨id, kind, role, text, ⟨⟨1, 1⟩, ⟨1, 2⟩⟩, [], [], none, none, none, none⟩
  let name : Tree := .node (info 1 "IdentifierToken" none (some "F")) []
  let body : Tree := .node (info 2 "Block" (some "body") none) []
  ⟨"Empty.cs", .csharp, false, false, .node (info 0 "MethodDeclaration" none none) [name, body],
    Symbols.SymbolTable.empty⟩

/-- The configuration that makes the findings of a rule errors, if it spells the id of the rule. -/
def rating (id : String) : Config :=
  { Config.standard with
    rules := { Config.standard.rules with
      severity := (∅ : Std.TreeMap String Severity).insert id .error } }

theorem respelled_rating {i j : String} (h : Config.SameId i j) :
    (rating i).Respelled (rating j) where
  bases := rfl
  engine := rfl
  output := rfl
  files := rfl
  parameters := rfl
  disabled := .nil
  enabled := .nil
  only := .nil
  perFile := by simp [rating, Config.standard]
  severity := by simpa [rating, Std.TreeMap.getElem?_insert] using h
  severity_back := by simpa [rating, Std.TreeMap.getElem?_insert] using h
  keys_distinct := by simp [rating]
  keys_distinct_back := by simp [rating]

/-- An analysis under another spelling of the ids comes out the same, if the severities set under
the exact ids of rules are. And in any case it finds the same, apart from severities. -/
theorem analyze_respelled (h : c.Respelled d) (us : List SourceUnit) :
    ((∀ id ∈ catalogueIds, d.severity? id = c.severity? id) →
      ((ofConfigWhere matching d).map fun e => e.analyze us) =
        (ofConfigWhere matching c).map fun e => e.analyze us) ∧
      ∀ e, ofConfigWhere matching c = .ok e →
        ∃ f, ofConfigWhere matching d = .ok f ∧
          ∃ found : List Diagnostic, (e.analyze us).diagnostics = found.map e.withSeverity ∧
            (f.analyze us).diagnostics = found.map f.withSeverity := by
  constructor
  · intro hseverity
    rw [ofConfigWhere, ofConfigWhere, h.settings]
    cases c.settings with
    | error cause => rfl
    | ok s =>
        let e : Engine := ⟨c, s, matching, false⟩
        let f : Engine := ⟨d, s, matching, false⟩
        have hunit : ∀ w u, f.watchUnit w u = e.watchUnit w u :=
          watchUnit_congr rfl h.engine (h.runsOnWhere matching) hseverity
        show Except.ok (f.analyze us) = Except.ok (e.analyze us)
        rw [analyze, analyze, watchUnits, watchUnits]
        simp only [hunit]
        rfl
  · intro e he
    obtain ⟨s, hs, rfl⟩ := ofConfigWhere_eq_ok_iff.mp he
    let e : Engine := ⟨c, s, matching, false⟩
    let f : Engine := ⟨d, s, matching, false⟩
    refine ⟨f, ofConfigWhere_eq_ok_iff.mpr ⟨s, h.settings.trans hs, rfl⟩,
      (Diagnostic.sort (us.flatMap e.findings)).filter e.keeps, diagnostics_analyze rfl us, ?_⟩
    have hfindings : f.findings = e.findings := by
      funext u
      have hskips : f.skips u = e.skips u :=
        congrArg (fun o : Config.EngineOptions => u.generated && !o.analyzeGenerated) h.engine
      rw [findings, findings, hskips]
    have hkeeps : f.keeps = e.keeps := by
      funext x
      exact h.runsOnWhere matching x.ruleId x.path
    rw [diagnostics_analyze rfl, hfindings, hkeeps]

/-- A rule is turned off in lower case. -/
theorem analyze_respelled_disabled :
    let c : Config := { Config.standard with rules := ⟨["S1186"], [], [], ∅, ∅⟩ }
    let d : Config := { Config.standard with rules := ⟨["s1186"], [], [], ∅, ∅⟩ }
    let e : Engine := ⟨c, Settings.standard, Glob.isMatch, false⟩
    c.Respelled d ∧ (∀ id ∈ catalogueIds, d.severity? id = c.severity? id) ∧
      ofConfigWhere Glob.isMatch c = .ok e ∧
      ((ofConfigWhere Glob.isMatch d).map fun e => e.analyze [emptyMethod]) =
        ((ofConfigWhere Glob.isMatch c).map fun e => e.analyze [emptyMethod]) ∧
      ∃ f, ofConfigWhere Glob.isMatch d = .ok f ∧
        ∃ found : List Diagnostic,
          (e.analyze [emptyMethod]).diagnostics = found.map e.withSeverity ∧
          (f.analyze [emptyMethod]).diagnostics = found.map f.withSeverity := by
  intro c d e
  have h : c.Respelled d :=
    { bases := rfl, engine := rfl, output := rfl, files := rfl, parameters := rfl
      disabled := .cons (by decide) .nil
      enabled := .nil
      only := .nil
      perFile := by simp [c, d]
      severity := by simp [c]
      severity_back := by simp [d]
      keys_distinct := by simp [c]
      keys_distinct_back := by simp [d] }
  have hseverity : ∀ id ∈ catalogueIds, d.severity? id = c.severity? id :=
    fun _ _ => rfl
  have he : ofConfigWhere Glob.isMatch c = .ok e := rfl
  obtain ⟨hsame, hfound⟩ := @analyze_respelled c d Glob.isMatch h [emptyMethod]
  exact ⟨h, hseverity, he, hsame hseverity, hfound e he⟩

/-- A severity is set in upper case, and then in lower case. -/
theorem errorCount_analyze_respelled :
    ∃ e f, (rating "S1186").Respelled (rating "s1186") ∧
      ofConfigWhere Glob.isMatch (rating "S1186") = .ok e ∧
      ofConfigWhere Glob.isMatch (rating "s1186") = .ok f ∧
      (e.analyze [emptyMethod]).errorCount = 1 ∧ (f.analyze [emptyMethod]).errorCount = 0 := by
  refine ⟨⟨rating "S1186", Settings.standard, Glob.isMatch, false⟩,
    ⟨rating "s1186", Settings.standard, Glob.isMatch, false⟩,
    respelled_rating (by decide), rfl, rfl, ?_, ?_⟩ <;> decide +kernel

end Engine
end TreeLint
