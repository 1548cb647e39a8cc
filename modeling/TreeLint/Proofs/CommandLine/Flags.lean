import TreeLint.Proofs.CommandLine.Reading
import TreeLint.Proofs.CommandLine.Running
import TreeLint.Proofs.Config.Loading

/-!
# Options and the configuration

Six options change a setting of the configuration that was loaded, and the rest of a run goes by
the configuration with their changes. An option that the arguments do not name leaves its setting
alone, except that verbose output is on in no run that does not ask for it.

**Results.**
* `Flag.setting_override`: an option that is not set changes nothing.
* `run_leaves_settings`: what a run goes by when options are not named.
* `verbose_not_kept`: verbose output that is set in a file alone is not shown.
-/

namespace TreeLint

/-- A configuration without verbose output. -/
def Config.quiet (c : Config) : Config :=
  { c with output := { c.output with verbose := false } }

theorem Config.quiet_eq_self {c : Config} (h : c.output.verbose = false) : c.quiet = c := by
  rw [quiet, ← h]

namespace CommandLine

/-- An option that changes a setting of the configuration. -/
inductive Flag where
  | format
  | verbose
  | jobs
  | disable
  | enable
  | select
deriving DecidableEq

namespace Flag

def option : Flag → OptionName
  | format => .field .format
  | verbose => .switch .verbose
  | jobs => .field .jobs
  | disable => .field .disable
  | enable => .field .enable
  | select => .field .select

def Value : Flag → Type
  | format => Output.Format
  | verbose => Bool
  | jobs => Nat
  | disable | enable | select => List String

/-- The setting that an option changes. -/
def setting : (k : Flag) → Config → k.Value
  | format, c => c.output.format
  | verbose, c => c.output.verbose
  | jobs, c => c.engine.jobs
  | disable, c => c.rules.disabled
  | enable, c => c.rules.enabled
  | select, c => c.rules.only

variable {a : Arguments}

/-- An option that is not set changes nothing. -/
theorem setting_override {k : Flag} (hset : a.has k.option = false) (hk : k ≠ verbose)
    (c : Config) : k.setting (c.override a.overrides) = k.setting c := by
  cases k with
  | verbose => exact absurd rfl hk
  | _ =>
      have hnone := Option.isNone_iff_eq_none.mp (by simpa [Arguments.has, option] using hset)
      simp only [setting, Config.override, Arguments.overrides, hnone, Option.getD_none,
        List.append_nil]
      rfl

/-- Without any of the options only verbose output is changed: it is turned off. -/
theorem override_eq_quiet (h : ∀ k : Flag, a.has k.option = false) (c : Config) :
    c.override a.overrides = c.quiet := by
  have hformat : a.format = none := by simpa [Arguments.has, option] using h format
  have hverbose : a.verbose = false := h verbose
  have hjobs : a.jobs = none := by simpa [Arguments.has, option] using h jobs
  have hdisable : a.disable = none := by simpa [Arguments.has, option] using h disable
  have henable : a.enable = none := by simpa [Arguments.has, option] using h enable
  have hselect : a.select = none := by simpa [Arguments.has, option] using h select
  simp [Config.override, Arguments.overrides, Config.quiet, hformat, hverbose, hjobs, hdisable,
    henable, hselect]

end Flag

variable {files : Path.FileTree} {args : List String} {a : Arguments} {loaded : Config}

/-- What a run goes by where options are not named: each setting is as it was loaded, except that
verbose output is off. So a run without any of the options goes by what was loaded, but without
verbose output. -/
theorem run_leaves_settings (hread : Arguments.read args = .ok a) (hexplain : a.explain = none)
    (hload : loadConfig files a = .ok loaded) (terminal : Bool) :
    let used := loaded.override a.overrides
    run files terminal args = runUnder files terminal a used ∧
      (∀ k : Flag, ¬ Names args k.option →
        (k.setting used = k.setting loaded ↔ (k = .verbose → loaded.output.verbose = false))) ∧
      (¬ Names args Flag.verbose.option → used.output.verbose = false) ∧
      ((∀ k : Flag, ¬ Names args k.option) →
        used = loaded.quiet ∧
        (loaded.output.verbose = false →
          run files terminal args = runUnder files terminal a loaded)) := by
  intro used
  have hset : ∀ k : Flag, ¬ Names args k.option → a.has k.option = false := by
    intro k hk
    rw [Bool.eq_false_iff]
    exact fun hhas => hk ((has_iff_names hread k.option).mp hhas)
  have hrun : run files terminal args = runUnder files terminal a used :=
    run_eq_runUnder hread hexplain hload terminal
  have hoff : ¬ Names args Flag.verbose.option → used.output.verbose = false := hset .verbose
  refine ⟨hrun, ?_, hoff, ?_⟩
  · intro k hk
    by_cases hverbose : k = .verbose
    · subst hverbose
      exact ⟨fun hsame _ => hsame.symm.trans (hoff hk),
        fun hloaded => (hoff hk).trans (hloaded rfl).symm⟩
    · have hsame : k.setting used = k.setting loaded := Flag.setting_override (hset k hk) hverbose _
      simp [hsame, hverbose]
  · intro hnone
    have hquiet : used = loaded.quiet := Flag.override_eq_quiet (fun k => hset k (hnone k)) loaded
    refine ⟨hquiet, fun hloaded => ?_⟩
    rw [hrun, hquiet, Config.quiet_eq_self hloaded]

/-- A file to analyze beside a configuration that asks for verbose output. -/
def verboseFiles : Path.FileTree :=
  ⟨[(["netlint.json"], "\x7b\"output\":\x7b\"verbose\":true\x7d\x7d"),
    (["Empty.cs.json"], "\x7b\"language\":\"csharp\",\"root\":\x7b\"kind\":\"Block\"\x7d\x7d")],
    [], none⟩

def verboseArguments : List String :=
  ["Empty.cs.json"]

def verboseRead : Arguments :=
  { Arguments.none with files := verboseArguments }

theorem read_verboseArguments : Arguments.read verboseArguments = .ok verboseRead :=
  rfl

theorem not_names_verboseArguments (k : Flag) : ¬ Names verboseArguments k.option := by
  rw [← has_iff_names read_verboseArguments]
  cases k <;> decide

/-- No option is named, and the run goes by the configuration without its verbose output. -/
theorem run_leaves_settings_verbose : ∃ loaded,
    Arguments.read verboseArguments = .ok verboseRead ∧ verboseRead.explain = none ∧
      loadConfig verboseFiles verboseRead = .ok loaded ∧
      (∀ k : Flag, ¬ Names verboseArguments k.option) ∧
      loaded.override verboseRead.overrides = loaded.quiet := by
  obtain ⟨loaded, hload⟩ : ∃ loaded, loadConfig verboseFiles verboseRead = .ok loaded :=
    Config.exists_of_isOk (by decide +kernel)
  obtain ⟨-, -, -, hquiet⟩ := run_leaves_settings read_verboseArguments rfl hload false
  exact ⟨loaded, read_verboseArguments, rfl, hload, not_names_verboseArguments,
    (hquiet not_names_verboseArguments).1⟩

/-- The configuration asks for verbose output and the arguments say nothing about it. The run is
silent, where one that goes by the configuration would tell how many files there are. -/
theorem verbose_not_kept : ∃ loaded,
    Arguments.read verboseArguments = .ok verboseRead ∧
      loadConfig verboseFiles verboseRead = .ok loaded ∧
      ¬ Names verboseArguments Flag.verbose.option ∧
      loaded.output.verbose = true ∧
      (loaded.override verboseRead.overrides).output.verbose = false ∧
      (run verboseFiles false verboseArguments).errors = "" ∧
      (runUnder verboseFiles false verboseRead loaded).errors = "Analyzing 1 file(s)\n" := by
  obtain ⟨loaded, hload⟩ : ∃ loaded, loadConfig verboseFiles verboseRead = .ok loaded :=
    Config.exists_of_isOk (by decide +kernel)
  have hloaded : (loadConfig verboseFiles verboseRead).toOption.map (fun c =>
      (c.output.verbose, (runUnder verboseFiles false verboseRead c).errors)) =
        some (true, "Analyzing 1 file(s)\n") := by
    decide +kernel
  rw [hload] at hloaded
  obtain ⟨hverbose, herrors⟩ := Prod.mk.inj (Option.some.inj hloaded)
  exact ⟨loaded, read_verboseArguments, hload, not_names_verboseArguments .verbose, hverbose, rfl,
    by decide +kernel, herrors⟩

end CommandLine
end TreeLint
