import TreeLint.CommandLine.Run

/-!
# The stages of a run

A run reads its arguments, loads a configuration, finds files, makes an engine and has it analyze
the files. Each stage may end the run. If all of them succeed the outcome is that of the analysis.

**Results.**
* `run_eq_runUnder`: a run goes by the configuration with what the arguments say put in.
* `Reaches.run_eq`: the outcome of a run that gets to its analysis.
* `reaches_or_unanalyzed`: the outcomes of all other runs.
-/

namespace TreeLint
namespace CommandLine

/-- The rest of a run, which goes by a configuration. -/
def runUnder (files : Path.FileTree) (terminal : Bool) (a : Arguments) (c : Config) : Outcome :=
  let styled := usesStyles terminal a.noColor c.output.color
  if a.listRules then Outcome.shown (listing styled c) else analyze files a c styled

/-- What it takes for a run to analyze some paths by an engine. -/
structure Reaches (files : Path.FileTree) (a : Arguments) (c : Config) (e : Engine)
    (paths : List String) : Prop where
  explain : a.explain = none
  listRules : a.listRules = false
  config : ∃ loaded, loadConfig files a = .ok loaded ∧ c = loaded.override a.overrides
  given : a.files ≠ []
  found : collectFiles files c.files a.files = .ok paths
  some_found : paths ≠ []
  engine : Engine.ofConfig c = .ok e

/-- An outcome without an analysis. -/
inductive Unanalyzed : Outcome → Prop
  | stopped (stop : Stop) : Unanalyzed (Outcome.stopped stop)
  | shown (text : String) : Unanalyzed (Outcome.shown text)
  | failed (styled : Bool) (message : String) : Unanalyzed (Outcome.failed styled message)
  | withoutFiles (styled : Bool) : Unanalyzed (Outcome.withoutFiles styled)

variable {files : Path.FileTree} {args : List String} {a : Arguments} {loaded c : Config}
  {e : Engine} {paths : List String}

theorem run_eq_runUnder (hread : Arguments.read args = .ok a) (hexplain : a.explain = none)
    (hload : loadConfig files a = .ok loaded) (terminal : Bool) :
    run files terminal args = runUnder files terminal a (loaded.override a.overrides) := by
  rw [run, hread]
  dsimp only
  rw [runWith, hexplain, hload]
  rfl

theorem Reaches.run_eq (h : Reaches files a c e paths) (hread : Arguments.read args = .ok a)
    (terminal : Bool) : ∃ notes,
      run files terminal args =
        Outcome.ofSummary a c (usesStyles terminal a.noColor c.output.color) notes e.rules
          (reported a (e.analyzeFiles files paths)) := by
  obtain ⟨loaded, hload, rfl⟩ := h.config
  obtain ⟨path, rest, rfl⟩ := List.exists_cons_of_ne_nil h.some_found
  have hgiven : a.files.isEmpty = false := by simpa using h.given
  rw [run_eq_runUnder hread h.explain hload]
  simp only [runUnder, h.listRules, analyze, hgiven, h.found, analyzeFiles, h.engine]
  exact ⟨_, rfl⟩

theorem analyze_cases (files : Path.FileTree) (a : Arguments) (c : Config) (styled : Bool) :
    (∃ e paths, a.files ≠ [] ∧ collectFiles files c.files a.files = .ok paths ∧ paths ≠ [] ∧
      Engine.ofConfig c = .ok e) ∨ Unanalyzed (analyze files a c styled) := by
  rw [analyze]
  split
  · exact .inr (.withoutFiles styled)
  · next hgiven =>
      split
      · exact .inr (.failed styled _)
      · exact .inr (.failed styled _)
      · next paths hnil hfound =>
          rw [analyzeFiles]
          cases hengine : Engine.ofConfig c with
          | error cause => exact .inr (.failed styled _)
          | ok e =>
              refine .inl ⟨e, paths, by simpa using hgiven, hfound, ?_, rfl⟩
              rintro rfl
              exact hnil rfl

/-- A run that does not get to an analysis ends with a text, with an error or without files. -/
theorem reaches_or_unanalyzed (files : Path.FileTree) (terminal : Bool) (args : List String) :
    (∃ a c e paths, Arguments.read args = .ok a ∧ Reaches files a c e paths) ∨
      Unanalyzed (run files terminal args) := by
  -- One case per stage, in the order of the run: each stage ends it or leads to the next one.
  cases hread : Arguments.read args with
  | error stop =>
      rw [run, hread]
      exact .inr (.stopped stop)
  | ok a =>
      cases hexplain : a.explain with
      | some id =>
          rw [run, hread]
          dsimp only
          rw [runWith, hexplain]
          dsimp only
          rw [explain]
          split
          · exact .inr (.shown _)
          · exact .inr (.failed _ _)
      | none =>
          cases hload : loadConfig files a with
          | error cause =>
              rw [run, hread]
              dsimp only
              rw [runWith, hexplain, hload]
              exact .inr (.failed _ _)
          | ok loaded =>
              rw [run_eq_runUnder hread hexplain hload, runUnder]
              cases hlist : a.listRules with
              | true => exact .inr (.shown _)
              | false =>
                  rcases analyze_cases files a (loaded.override a.overrides)
                    (usesStyles terminal a.noColor (loaded.override a.overrides).output.color)
                    with ⟨e, paths, hgiven, hfound, hnonempty, hengine⟩ | h
                  · exact .inl ⟨a, _, e, paths, rfl, hexplain, hlist, ⟨loaded, hload, rfl⟩, hgiven,
                      hfound, hnonempty, hengine⟩
                  · exact .inr h

end CommandLine
end TreeLint
