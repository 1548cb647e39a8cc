import TreeLint.Proofs.CommandLine.Reading
import TreeLint.Proofs.CommandLine.Running
import TreeLint.Proofs.Engine.Counting

/-!
# What a run reports

A run that gets to an analysis reports the diagnostics that reach a level, and its exit code tells
the worst of them. The code is made from counts: those of the analysis, or those taken anew for the
diagnostics that are left. The counts of files are not taken anew, so they tell of warnings that are
no longer listed.

**Results.**
* `tellsWorst_exitCode`: the exit code of a summary tells the worst of its diagnostics.
* `run_tells_worst`: codes and diagnostics of runs under all levels.
* `run_counts_files`: which counts go with the diagnostics that are listed.
-/

namespace TreeLint

open Report

namespace Report

namespace Severity

@[simp] theorem reaches_info (s : Severity) : s.reaches info = true := by
  simp [reaches, rank]

theorem reaches_trans {s high low : Severity} (hs : s.reaches high = true)
    (h : high.reaches low = true) : s.reaches low = true := by
  simp only [reaches, decide_eq_true_eq] at *
  omega

end Severity

namespace Summary

/-- The counts of a summary are those of the diagnostics in it. -/
structure Listed (s : Summary) : Prop where
  errorCount : s.errorCount = Diagnostic.countOf .error s.diagnostics
  warningCount : s.warningCount = Diagnostic.countOf .warning s.diagnostics
  infoCount : s.infoCount = Diagnostic.countOf .info s.diagnostics

theorem Counted.listed {inputs : List Summary} {s : Summary} (h : Counted inputs s) : s.Listed :=
  ⟨h.errorCount, h.warningCount, h.infoCount⟩

end Summary

namespace Diagnostic

/-- Whether some diagnostic has a severity. -/
def Occurs (s : Severity) (ds : List Diagnostic) : Prop :=
  ∃ d ∈ ds, d.severity = s

theorem countOf_pos_iff {s : Severity} {ds : List Diagnostic} : 0 < countOf s ds ↔ Occurs s ds := by
  simp [countOf, Occurs, List.countP_pos_iff]

theorem Occurs.mono {s : Severity} {ds es : List Diagnostic} (h : Occurs s ds) (hsub : ds ⊆ es) :
    Occurs s es := by
  obtain ⟨d, hd, hs⟩ := h
  exact ⟨d, hsub hd, hs⟩

/-- Of the diagnostics that reach a level, those of a severity are all or none. -/
theorem occurs_filter_reaches_iff {s level : Severity} {ds : List Diagnostic} :
    Occurs s (ds.filter fun d => d.severity.reaches level) ↔
      s.reaches level = true ∧ Occurs s ds := by
  simp only [Occurs, List.mem_filter]
  constructor
  · rintro ⟨d, ⟨hd, hlevel⟩, rfl⟩
    exact ⟨hlevel, d, hd, rfl⟩
  · rintro ⟨hlevel, d, hd, rfl⟩
    exact ⟨d, ⟨hd, hlevel⟩, rfl⟩

end Diagnostic

end Report

namespace CommandLine

open Diagnostic (Occurs)

/-! ## Codes and diagnostics -/

/-- A code tells the worst severity of some diagnostics: two of errors, one of warnings. -/
structure TellsWorst (code : Nat) (ds : List Diagnostic) : Prop where
  errors : code = 2 ↔ Occurs .error ds
  warnings : code = 1 ↔ ¬ Occurs .error ds ∧ Occurs .warning ds
  neither : code = 0 ↔ ¬ Occurs .error ds ∧ ¬ Occurs .warning ds

variable {s : Summary} {ds es : List Diagnostic} {m n : Nat}

theorem tellsWorst_exitCode (h : s.Listed) : TellsWorst s.exitCode s.diagnostics := by
  have herrors : 0 < s.errorCount ↔ Occurs .error s.diagnostics := by
    rw [h.errorCount, Diagnostic.countOf_pos_iff]
  have hwarnings : 0 < s.warningCount ↔ Occurs .warning s.diagnostics := by
    rw [h.warningCount, Diagnostic.countOf_pos_iff]
  constructor
  all_goals
    simp only [Summary.exitCode, Summary.hasErrors, Summary.hasWarnings, decide_eq_true_eq,
      ← herrors, ← hwarnings]
    split
    · omega
    · split <;> omega

/-- Fewer diagnostics have a code that is not higher. -/
theorem TellsWorst.le_of_subset (hm : TellsWorst m ds) (hn : TellsWorst n es) (h : ds ⊆ es) :
    m ≤ n := by
  by_cases herror : Occurs .error ds
  · have hm2 : m = 2 := hm.errors.mpr herror
    have hn2 : n = 2 := hn.errors.mpr (herror.mono h)
    omega
  · by_cases hwarning : Occurs .warning ds
    · have hm1 : m = 1 := hm.warnings.mpr ⟨herror, hwarning⟩
      have hn0 : n ≠ 0 := fun hn0 => (hn.neither.mp hn0).2 (hwarning.mono h)
      omega
    · have hm0 : m = 0 := hm.neither.mpr ⟨herror, hwarning⟩
      omega

/-! ## What is left of a summary -/

/-- The level that diagnostics have to reach. -/
def Arguments.level (a : Arguments) : Severity :=
  a.minSeverity.getD .info

@[simp] theorem filter_reaches_info (ds : List Diagnostic) :
    (ds.filter fun d => d.severity.reaches .info) = ds := by
  simp [Severity.reaches_info]

/-- The diagnostics that reach the level are reported, in their order. -/
@[simp] theorem diagnostics_reported (a : Arguments) (s : Summary) :
    (reported a s).diagnostics = s.diagnostics.filter fun d => d.severity.reaches a.level := by
  rw [reported, Arguments.level]
  cases a.minSeverity with
  | none => exact (filter_reaches_info s.diagnostics).symm
  | some level => rfl

theorem listed_reported (a : Arguments) (h : s.Listed) : (reported a s).Listed := by
  rw [reported]
  cases a.minSeverity with
  | none => exact h
  | some level => exact ⟨rfl, rfl, rfl⟩

@[simp] theorem filesWithErrors_reported (a : Arguments) (s : Summary) :
    (reported a s).filesWithErrors = s.filesWithErrors := by
  rw [reported]
  cases a.minSeverity <;> rfl

@[simp] theorem filesWithWarnings_reported (a : Arguments) (s : Summary) :
    (reported a s).filesWithWarnings = s.filesWithWarnings := by
  rw [reported]
  cases a.minSeverity <;> rfl

/-! ## Levels and analyses -/

/-- Arguments with another level. -/
def Arguments.withLevel (a : Arguments) (level : Option Severity) : Arguments :=
  { a with minSeverity := level }

variable {files : Path.FileTree} {args others : List String} {a : Arguments} {c : Config}
  {e : Engine} {paths : List String}

/-- The level has no part in how a run gets to its analysis. -/
theorem Reaches.withLevel (h : Reaches files a c e paths) (level : Option Severity) :
    Reaches files (a.withLevel level) c e paths :=
  ⟨h.explain, h.listRules, h.config, h.given, h.found, h.some_found, h.engine⟩

theorem counted_analyzeFiles (e : Engine) (files : Path.FileTree) (paths : List String) :
    ∃ inputs, Summary.Counted inputs (e.analyzeFiles files paths) := by
  rw [Engine.analyzeFiles_eq_ofFiles]
  exact ⟨_, Summary.counted_ofFiles_map (fun path => e.counted_watchFile files _ path) paths⟩

/-! ## Arguments that name a level -/

/-- The argument that names a level. -/
def levelArgument (level : Severity) : String :=
  "--min-severity=" ++ level.name

theorem one_levelArgument (level : Severity) :
    One (levelArgument level) [.field .minSeverity level.name] none := by
  have harg : (levelArgument level).toList =
      '-' :: '-' :: ("min-severity".toList ++ '=' :: level.name.toList) := by
    cases level <;> rfl
  simpa using One.equals harg (by decide)

/-- Items that name no level are read alike under all levels. -/
theorem put_withLevel {item : Item} (h : item.option? ≠ some (.field .minSeverity))
    (level : Option Severity) (a : Arguments) :
    item.put (a.withLevel level) = (item.put a).map fun b => b.withLevel level := by
  cases item with
  | file path => rfl
  | switch s =>
      cases s with
      | help => rfl
      | version => rfl
      | _ =>
          simp only [Item.put, Arguments.turnOn, once, apply_ite (Except.map _)]
          rfl
  | field f value =>
      cases f with
      | minSeverity => exact absurd rfl h
      | disable | enable | select => rfl
      | _ =>
          simp only [Item.put, Arguments.set, Arguments.setOnce, Arguments.withLevel]
          split <;> rfl

theorem foldlM_withLevel (level : Option Severity) (items : List Item)
    (h : ∀ item ∈ items, item.option? ≠ some (.field .minSeverity)) :
    ∀ a : Arguments, items.foldlM Item.put (a.withLevel level) =
      (items.foldlM Item.put a).map fun b => b.withLevel level := by
  induction items with
  | nil =>
      intro a
      rfl
  | cons item items ih =>
      intro a
      rw [List.foldlM_cons, List.foldlM_cons, put_withLevel (h item List.mem_cons_self)]
      cases item.put a with
      | error stop => rfl
      | ok b => exact ih (fun other hother => h other (List.mem_cons_of_mem item hother)) b

/-- A level in front of arguments without one adds the level to what is read. -/
theorem read_levelArgument (hread : Arguments.read args = .ok a) (hnone : a.minSeverity = none)
    (level : Severity) :
    Arguments.read (levelArgument level :: args) = .ok (a.withLevel (some level)) := by
  obtain ⟨items, hitems⟩ := exists_says args hread
  have hunnamed : ∀ item ∈ items, item.option? ≠ some (.field .minSeverity) := by
    intro item hmem hitem
    have hset := (has_iff_names hread (.field .minSeverity)).mpr ⟨items, hitems, item, hmem, hitem⟩
    simp [Arguments.has, hnone] at hset
  have hput : Item.put Arguments.none (.field .minSeverity level.name) =
      .ok (Arguments.none.withLevel (some level)) := by
    cases level <;> rfl
  rw [Arguments.read, hitems.readAll_eq] at hread
  rw [Arguments.read, (Says.complete (one_levelArgument level) hitems).readAll_eq,
    List.singleton_append, List.foldlM_cons, hput]
  show items.foldlM Item.put (Arguments.none.withLevel (some level)) = _
  rw [foldlM_withLevel _ _ hunnamed, hread]
  rfl

/-! ## Codes and levels -/

/-- A file with a method without statements. -/
def warnedFiles : Path.FileTree :=
  ⟨[(["Empty.cs.json"],
      "\x7b\"language\":\"csharp\",\"root\":\x7b\"kind\":\"MethodDeclaration\",\"children\":[" ++
        "\x7b\"kind\":\"IdentifierToken\",\"text\":\"F\"\x7d," ++
        "\x7b\"kind\":\"Block\",\"role\":\"body\"\x7d]\x7d\x7d")],
    [], none⟩

def warnedArguments : List String :=
  ["--format=json", "Empty.cs.json"]

def warnedRead : Arguments :=
  { Arguments.none with files := ["Empty.cs.json"], format := some .json }

def warnedEngine : Engine :=
  ⟨Config.standard.override warnedRead.overrides, Rule.Settings.standard, Glob.isMatch, false⟩

theorem read_warnedArguments : Arguments.read warnedArguments = .ok warnedRead :=
  rfl

theorem reaches_warned :
    Reaches warnedFiles warnedRead warnedEngine.config warnedEngine ["Empty.cs.json"] where
  explain := rfl
  listRules := rfl
  config := by
    have hnone : Config.defaultFile? warnedFiles = none := by decide +kernel
    refine ⟨Config.standard, ?_, rfl⟩
    simp [loadConfig, Config.loadDefault, hnone, warnedRead, Arguments.none]
  given := by simp [warnedRead]
  found := by decide +kernel
  some_found := by simp
  engine := rfl

theorem exists_warned : ∃ d : Diagnostic, d.severity = .warning ∧
    (warnedEngine.analyzeFiles warnedFiles ["Empty.cs.json"]).diagnostics = [d] := by
  have hseverities : (warnedEngine.analyzeFiles warnedFiles ["Empty.cs.json"]).diagnostics.map
      Diagnostic.severity = [.warning] := by
    decide +kernel
  obtain ⟨d, hd, hseverity⟩ := List.map_eq_singleton_iff.mp hseverities
  exact ⟨d, hseverity, hd⟩

theorem read_onlyErrors : Arguments.read (levelArgument .error :: warnedArguments) =
    .ok (warnedRead.withLevel (some .error)) :=
  read_levelArgument read_warnedArguments rfl .error

/-- The exit code tells the worst severity that is reported, unless it is to be zero. A level leaves
the diagnostics that reach it, and under a higher level the code is not higher. -/
theorem run_tells_worst (h : Reaches files a c e paths) (terminal : Bool) :
    let shown (level : Option Severity) : Summary :=
      reported (a.withLevel level) (e.analyzeFiles files paths)
    let formatter := formatterOf a c (usesStyles terminal a.noColor c.output.color) e.rules
    (∀ level args, Arguments.read args = .ok (a.withLevel level) →
      (run files terminal args).output = formatter.summaryText (shown level) ∧
      (Names args (.switch .exitZero) → (run files terminal args).code = 0) ∧
      (¬ Names args (.switch .exitZero) →
        TellsWorst (run files terminal args).code (shown level).diagnostics)) ∧
    (∀ level, (shown (some level)).diagnostics =
      (shown none).diagnostics.filter fun d => d.severity.reaches level) ∧
    ∀ (low high : Option Severity) args others,
      Arguments.read args = .ok (a.withLevel low) →
      Arguments.read others = .ok (a.withLevel high) →
      (high.getD .info).reaches (low.getD .info) = true →
      (run files terminal others).code ≤ (run files terminal args).code := by
  intro shown formatter
  have hlisted : ∀ level, (shown level).Listed := by
    intro level
    obtain ⟨inputs, hcounted⟩ := counted_analyzeFiles e files paths
    exact listed_reported _ hcounted.listed
  have hkept : ∀ level : Option Severity, (shown level).diagnostics =
      (e.analyzeFiles files paths).diagnostics.filter fun d =>
        d.severity.reaches (level.getD .info) :=
    fun level => diagnostics_reported _ _
  have hrun : ∀ level args, Arguments.read args = .ok (a.withLevel level) →
      (run files terminal args).output = formatter.summaryText (shown level) ∧
      (run files terminal args).code = exitCode a (shown level) := by
    intro level args hread
    obtain ⟨notes, hnotes⟩ := (h.withLevel level).run_eq hread terminal
    rw [hnotes]
    exact ⟨rfl, rfl⟩
  refine ⟨?_, ?_, ?_⟩
  · intro level args hread
    obtain ⟨houtput, hcode⟩ := hrun level args hread
    have hzero : a.exitZero = true ↔ Names args (.switch .exitZero) :=
      has_iff_names hread (.switch .exitZero)
    refine ⟨houtput, ?_, ?_⟩
    · intro hnamed
      rw [hcode, exitCode, if_pos (hzero.mpr hnamed)]
    · intro hnamed
      rw [hcode, exitCode, if_neg fun hset => hnamed (hzero.mp hset)]
      exact tellsWorst_exitCode (hlisted level)
  · intro level
    simp [hkept]
  · intro low high args others hread hother hlevels
    rw [(hrun low args hread).2, (hrun high others hother).2, exitCode, exitCode]
    split
    · omega
    · apply (tellsWorst_exitCode (hlisted high)).le_of_subset (tellsWorst_exitCode (hlisted low))
      intro d hd
      rw [hkept, List.mem_filter] at *
      exact ⟨hd.1, Severity.reaches_trans hd.2 hlevels⟩

/-- A warning and no error: the code is one, and not higher if only errors are to be reported. -/
theorem run_tells_worst_warned :
    Reaches warnedFiles warnedRead warnedEngine.config warnedEngine ["Empty.cs.json"] ∧
      Arguments.read (levelArgument .error :: warnedArguments) =
        .ok (warnedRead.withLevel (some .error)) ∧
      (run warnedFiles false warnedArguments).code = 1 ∧
      (run warnedFiles false (levelArgument .error :: warnedArguments)).code ≤
        (run warnedFiles false warnedArguments).code := by
  obtain ⟨hruns, -, hlevels⟩ := run_tells_worst reaches_warned false
  have hunnamed : ¬ Names warnedArguments (.switch .exitZero) := by
    rw [← has_iff_names read_warnedArguments]
    simp [Arguments.has, warnedRead, Arguments.none]
  have htells := (hruns none warnedArguments read_warnedArguments).2.2 hunnamed
  refine ⟨reaches_warned, read_onlyErrors, htells.warnings.mpr ?_,
    hlevels none (some .error) _ _ read_warnedArguments read_onlyErrors (by decide)⟩
  obtain ⟨d, hseverity, hd⟩ := exists_warned
  simp [reported, Arguments.withLevel, hd, hseverity, Occurs]

/-! ## Counts and levels -/

/-- The counts of diagnostics are those of what is listed, and there are files with errors just if
errors are listed. But there are files with warnings just if any were found, so the two fall apart
where warnings were found and only errors are listed. -/
theorem run_counts_files (h : Reaches files a c e paths) (hread : Arguments.read args = .ok a)
    (terminal : Bool) :
    let full := e.analyzeFiles files paths
    let shown := reported a full
    (run files terminal args).output =
        (formatterOf a c (usesStyles terminal a.noColor c.output.color) e.rules).summaryText shown ∧
      shown.Listed ∧
      (0 < shown.filesWithErrors ↔ 0 < shown.errorCount) ∧
      (0 < shown.filesWithWarnings ↔ Occurs .warning full.diagnostics) ∧
      ((0 < shown.filesWithWarnings ↔ 0 < shown.warningCount) ↔
        (a.minSeverity = some .error → ¬ Occurs .warning full.diagnostics)) := by
  intro full shown
  obtain ⟨inputs, hcounted⟩ := counted_analyzeFiles e files paths
  obtain ⟨notes, hnotes⟩ := h.run_eq hread terminal
  have hlisted : shown.Listed := listed_reported a hcounted.listed
  have hcount : ∀ s : Severity, 0 < Diagnostic.countOf s shown.diagnostics ↔
      s.reaches a.level = true ∧ Occurs s full.diagnostics := by
    intro s
    rw [Diagnostic.countOf_pos_iff, diagnostics_reported, Diagnostic.occurs_filter_reaches_iff]
  have herrors : 0 < shown.filesWithErrors ↔ Occurs .error full.diagnostics := by
    rw [filesWithErrors_reported, hcounted.filesWithErrors_pos, hcounted.errorCount,
      Diagnostic.countOf_pos_iff]
  have hwarnings : 0 < shown.filesWithWarnings ↔ Occurs .warning full.diagnostics := by
    rw [filesWithWarnings_reported, hcounted.filesWithWarnings_pos, hcounted.warningCount,
      Diagnostic.countOf_pos_iff]
  have hlevel : Severity.warning.reaches a.level = true ↔ a.minSeverity ≠ some .error := by
    rw [Arguments.level]
    rcases a.minSeverity with _ | _ | _ | _ <;> decide
  refine ⟨by rw [hnotes]; rfl, hlisted, ?_, hwarnings, ?_⟩
  · rw [herrors, hlisted.errorCount, hcount]
    have herror : Severity.error.reaches a.level = true := by
      cases a.level <;> decide
    simp [herror]
  · rw [hwarnings, hlisted.warningCount, hcount, hlevel]
    by_cases hfound : Occurs .warning full.diagnostics <;> simp [hfound]

/-- A warning was found and only errors are to be listed. -/
theorem run_counts_files_onlyErrors :
    let a := warnedRead.withLevel (some .error)
    let full := warnedEngine.analyzeFiles warnedFiles ["Empty.cs.json"]
    Reaches warnedFiles a warnedEngine.config warnedEngine ["Empty.cs.json"] ∧
      Arguments.read (levelArgument .error :: warnedArguments) = .ok a ∧
      (reported a full).Listed ∧
      ¬ (0 < (reported a full).filesWithWarnings ↔ 0 < (reported a full).warningCount) := by
  intro a full
  have hreaches := reaches_warned.withLevel (some .error)
  obtain ⟨-, hlisted, -, -, hfiles⟩ := run_counts_files hreaches read_onlyErrors false
  refine ⟨hreaches, read_onlyErrors, hlisted, fun h => hfiles.mp h rfl ?_⟩
  obtain ⟨d, hseverity, hd⟩ := exists_warned
  exact ⟨d, by simp [hd], hseverity⟩

/-- The summary of that run has a file with warnings and no warning. -/
theorem filesWithWarnings_onlyErrors :
    let a := warnedRead.withLevel (some .error)
    let shown := reported a (warnedEngine.analyzeFiles warnedFiles ["Empty.cs.json"])
    Arguments.read (levelArgument .error :: warnedArguments) = .ok a ∧
      Reaches warnedFiles a warnedEngine.config warnedEngine ["Empty.cs.json"] ∧
      shown.diagnostics = [] ∧ shown.warningCount = 0 ∧ 0 < shown.filesWithWarnings := by
  intro a shown
  obtain ⟨d, hseverity, hd⟩ := exists_warned
  obtain ⟨inputs, hcounted⟩ := counted_analyzeFiles warnedEngine warnedFiles ["Empty.cs.json"]
  have hshown : shown.diagnostics = [] := by
    rw [diagnostics_reported, hd]
    simp [hseverity, a, Arguments.level, Arguments.withLevel, Severity.reaches, Severity.rank]
  have hlisted : shown.Listed := listed_reported a hcounted.listed
  refine ⟨read_onlyErrors, reaches_warned.withLevel (some .error), hshown, ?_, ?_⟩
  · rw [hlisted.warningCount, hshown]
    rfl
  · rw [filesWithWarnings_reported, hcounted.filesWithWarnings_pos, hcounted.warningCount,
      Diagnostic.countOf_pos_iff]
    exact ⟨d, by simp [hd], hseverity⟩

end CommandLine
end TreeLint
