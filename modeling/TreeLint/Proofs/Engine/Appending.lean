import TreeLint.Proofs.Engine.Watching

/-!
# Putting analyses together

The analysis of several inputs can be put together from those of any parts of the sequence: up to
durations, what two sequences give one behind the other is what they give merged and sorted. So
each file speaks for itself, and one without a unit adds its own error and nothing else.

**Results.**
* `Engine.agrees_analyze_append`: the analysis of two sequences of units.
* `Engine.agrees_analyzeFiles_singletons`: files, from the analyses of single files.
* `Engine.gainsError_analyzeFiles`: one more file without a unit.
* `Engine.analyzeFiles_eq_analyze`: files that all have units.
* `Engine.analyze_isHomomorphism`: all of these together.
-/

namespace TreeLint

open Report Source

namespace Engine

variable (e : Engine)

/-- Two sequences of units, one behind the other, give what they give merged and sorted. -/
theorem agrees_analyze_append (us vs : List SourceUnit) :
    (e.analyze (us ++ vs)).Agrees ((e.analyze us).merge (e.analyze vs)).sort := by
  simpa [analyze_eq_ofFiles] using Summary.ofFiles_append _ _

/-- Files give what the analyses of the single files give merged and sorted. -/
theorem agrees_analyzeFiles_singletons (files : Path.FileTree) (paths : List String) :
    (e.analyzeFiles files paths).Agrees
      (Summary.ofFiles (paths.map fun p => e.analyzeFiles files [p])) := by
  have hflat :
      paths.map (e.analyzeFile files) =
        (paths.map fun p => [e.analyzeFile files p]).flatten := by
    rw [List.map_eq_flatMap, List.flatMap_def]
  have hsingles :
      (paths.map fun p => e.analyzeFiles files [p]) =
        (paths.map fun p => [e.analyzeFile files p]).map Summary.ofFiles := by
    rw [List.map_map]
    apply List.map_congr_left
    intro p _
    exact e.analyzeFiles_eq_ofFiles files [p]
  rw [analyzeFiles_eq_ofFiles, hsingles, hflat]
  exact Summary.ofFiles_flatten _

variable {e}

/-- What a file without a unit gives. -/
theorem analyzeFile_of_error (hclear : e.cancelled = false) {files : Path.FileTree}
    {path : String} {cause : DocumentError} (h : loadUnit files path = .error cause) :
    e.analyzeFile files path = Summary.ofFile [unreadableFile path cause] := by
  simp [analyzeFile, watchFile, hclear, Watch.steady_zero, h]

/-- What a file with a unit gives. -/
theorem analyzeFile_of_ok {files : Path.FileTree} {path : String} {u : SourceUnit}
    (h : loadUnit files path = .ok u) : e.analyzeFile files path = e.analyzeUnit u := by
  rw [analyzeFile, watchFile, h]
  cases hflag : e.cancelled with
  | false =>
      rw [analyzeUnit, hflag]
      rfl
  | true =>
      rw [analyzeUnit, hflag]
      rfl

/-- A file without a unit adds one error, and nothing else changes. -/
theorem gainsError_analyzeFiles (hclear : e.cancelled = false) {files : Path.FileTree}
    {path : String} {cause : DocumentError} (h : loadUnit files path = .error cause)
    (ps qs : List String) :
    Summary.GainsError (e.analyzeFiles files (ps ++ qs)) (e.analyzeFiles files (ps ++ path :: qs))
      (unreadableFile path cause) := by
  simpa [analyzeFiles_eq_ofFiles, analyzeFile_of_error hclear h]
    using Summary.gainsError_ofFiles _ _ rfl

theorem map_analyzeFile_of_mapM {files : Path.FileTree} (paths : List String) :
    ∀ us : List SourceUnit, paths.mapM (loadUnit files) = .ok us →
      paths.map (e.analyzeFile files) = us.map e.analyzeUnit := by
  induction paths with
  | nil =>
      intro us h
      cases h
      rfl
  | cons p paths ih =>
      intro us h
      rw [List.mapM_cons] at h
      cases hp : loadUnit files p with
      | error cause =>
          rw [hp] at h
          cases h
      | ok u =>
          cases hpaths : paths.mapM (loadUnit files) with
          | error cause =>
              rw [hp, hpaths] at h
              cases h
          | ok rest =>
              rw [hp, hpaths] at h
              cases h
              simp [analyzeFile_of_ok hp, ih rest hpaths]

/-- Files that all have units give what their units give. -/
theorem analyzeFiles_eq_analyze {files : Path.FileTree} {paths : List String}
    {us : List SourceUnit} (h : paths.mapM (loadUnit files) = .ok us) :
    e.analyzeFiles files paths = e.analyze us := by
  rw [analyzeFiles_eq_ofFiles, analyze_eq_ofFiles, map_analyzeFile_of_mapM paths us h]

/-- Analysis respects the concatenation of its inputs: units are analyzed in parts, files one by
one. A file without a unit only adds its error, and files that all have units stand for these. -/
theorem analyze_isHomomorphism (e : Engine) (hclear : e.cancelled = false) :
    (∀ us vs : List SourceUnit,
      (e.analyze (us ++ vs)).Agrees ((e.analyze us).merge (e.analyze vs)).sort) ∧
    (∀ (files : Path.FileTree) (paths : List String),
      (e.analyzeFiles files paths).Agrees
        (Summary.ofFiles (paths.map fun p => e.analyzeFiles files [p]))) ∧
    (∀ (files : Path.FileTree) (ps qs : List String) (path : String) (cause : DocumentError),
      loadUnit files path = .error cause →
      Summary.GainsError (e.analyzeFiles files (ps ++ qs))
        (e.analyzeFiles files (ps ++ path :: qs)) (unreadableFile path cause)) ∧
    ∀ (files : Path.FileTree) (paths : List String) (us : List SourceUnit),
      paths.mapM (loadUnit files) = .ok us → e.analyzeFiles files paths = e.analyze us := by
  refine ⟨e.agrees_analyze_append, e.agrees_analyzeFiles_singletons, ?_, ?_⟩
  · intro files ps qs path cause h
    exact gainsError_analyzeFiles hclear h ps qs
  · intro files paths us h
    exact analyzeFiles_eq_analyze h

/-- Of the standard engine and a directory in which one of two files is missing. -/
theorem analyze_isHomomorphism_missing :
    let e : Engine := ⟨Config.standard, Rule.Settings.standard, Glob.isMatch, false⟩
    let text := "\x7b\"language\":\"csharp\",\"root\":\x7b\"kind\":\"Block\"\x7d\x7d"
    let files : Path.FileTree := ⟨[(["A.cs.json"], text)], [], none⟩
    e.cancelled = false ∧
      loadUnit files "B.cs.json" = .error .unreadable ∧
      Summary.GainsError (e.analyzeFiles files ["A.cs.json"])
        (e.analyzeFiles files ["A.cs.json", "B.cs.json"])
        (unreadableFile "B.cs.json" .unreadable) ∧
      ∃ u, ["A.cs.json"].mapM (loadUnit files) = .ok [u] ∧
        e.analyzeFiles files ["A.cs.json"] = e.analyze [u] := by
  intro e text files
  have hmissing : loadUnit files "B.cs.json" = .error .unreadable := by
    rfl
  have hparse : Document.parse? text = some ⟨none, .csharp, false, false, [],
      .node ⟨"Block", none, none, none, [], [], none, none, none, none⟩ []⟩ := by
    have hvalue : Json.read? text.toList = some (.object [("language", .string "csharp"),
        ("root", .object [("kind", .string "Block")])]) := by
      dsimp only [text]
      rfl
    rw [Document.parse?, hvalue]
    rfl
  have hread : files.read? "A.cs.json" = some text := by
    rfl
  have hloaded : ∃ u, ["A.cs.json"].mapM (loadUnit files) = .ok [u] := by
    rw [List.mapM_cons, loadUnit, hread]
    dsimp only
    rw [SourceUnit.ofText, hparse]
    exact ⟨_, rfl⟩
  obtain ⟨-, -, hgains, hunits⟩ := analyze_isHomomorphism e rfl
  obtain ⟨u, hu⟩ := hloaded
  exact ⟨rfl, hmissing, hgains files ["A.cs.json"] [] "B.cs.json" .unreadable hmissing,
    u, hu, hunits files ["A.cs.json"] [u] hu⟩

end Engine
end TreeLint
