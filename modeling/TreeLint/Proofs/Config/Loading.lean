import TreeLint.Config.Load

/-!
# What loading does with one file

A file is read, the entries in it are looked at from left to right, and the file is put on top of
them. It comes out as a configuration if and only if it can be read and every entry can be had.

**Results.**
* `Config.layered_of_read`: what becomes of a file that can be read.
* `Config.exists_layered_iff`: when a file can be loaded, from its entries.
* `Config.readFile_eq_ok_iff`, `Config.load_eq_ok_iff`: what it takes to read and to load a file.
-/

namespace TreeLint
namespace Config

theorem exists_of_isOk {α : Type} {r : Except ConfigError α} (h : r.isOk = true) :
    ∃ a, r = .ok a := by
  cases r with
  | error cause => cases h
  | ok a => exact ⟨a, rfl⟩

/-! ## What an entry stands for -/

theorem base_of_eq_preset_iff {path entry : String} {c : Config} :
    Base.of path entry = .preset c ↔ preset? entry = some c := by
  rw [Base.of]
  cases preset? entry <;> cases Path.extension? entry <;> simp

theorem base_of_eq_file_iff {path entry base : String} :
    Base.of path entry = .file base ↔
      preset? entry = none ∧ (Path.extension? entry).isSome ∧ Path.beside path entry = base := by
  rw [Base.of]
  cases preset? entry <;> cases Path.extension? entry <;> simp

theorem base_of_ne_unknown_iff (path entry : String) :
    (∀ name, Base.of path entry ≠ .unknown name) ↔
      (Path.extension? entry = none → (preset? entry).isSome) := by
  rw [Base.of]
  cases preset? entry <;> cases Path.extension? entry <;> simp

/-! ## Entries one by one -/

section Loading

variable {read load : String → Except ConfigError Config} {path : String}

/-- Whether what an entry stands for can be had. -/
def Base.IsLoaded (load : String → Except ConfigError Config) : Base → Prop
  | preset _ => True
  | file path => ∃ c, load path = .ok c
  | unknown _ => False

theorem stack_cons_preset {entry : String} {p : Config} (h : Base.of path entry = .preset p)
    (c : Config) (entries : List String) :
    stack load path c (entry :: entries) = stack load path (c.merge p) entries := by
  rw [stack, h]
  rfl

theorem stack_cons_file {entry base : String} (h : Base.of path entry = .file base)
    (c : Config) (entries : List String) :
    stack load path c (entry :: entries) =
      (load base).bind fun d => stack load path (c.merge d) entries := by
  rw [stack, h]
  rfl

theorem stack_cons_unknown {entry name : String} (h : Base.of path entry = .unknown name)
    (c : Config) (entries : List String) :
    stack load path c (entry :: entries) = .error (.unknownPreset name) := by
  rw [stack, h]
  rfl

/-- Entries can be stacked if and only if each of them can be had. -/
theorem exists_stack_iff (c : Config) (entries : List String) :
    (∃ d, stack load path c entries = .ok d) ↔
      ∀ entry ∈ entries, (Base.of path entry).IsLoaded load := by
  induction entries generalizing c with
  | nil => simp [stack]
  | cons entry entries ih =>
      rw [List.forall_mem_cons]
      cases hbase : Base.of path entry with
      | preset p =>
          rw [stack_cons_preset hbase, ih]
          simp [Base.IsLoaded]
      | file base =>
          rw [stack_cons_file hbase]
          cases hload : load base with
          | error cause => simp [Base.IsLoaded, hload, Except.bind]
          | ok d => simpa [Base.IsLoaded, hload, Except.bind] using ih (c.merge d)
      | unknown name =>
          simp [stack_cons_unknown hbase, Base.IsLoaded]

/-! ## Files -/

theorem layered_of_read {own : Config} (h : read path = .ok own) (depth : Nat) :
    layered read (depth + 1) path =
      if own.bases = [] then .ok own
      else (stack (layered read depth) path standard own.bases).map fun base => base.merge own := by
  rw [layered, h]
  cases hbases : own.bases with
  | nil => simp [bind, Except.bind, pure, Except.pure, hbases]
  | cons entry entries =>
      cases hstack : stack (layered read depth) path standard (entry :: entries) <;>
        simp [bind, Except.bind, pure, Except.pure, hbases, hstack, Except.map]

theorem layered_of_read_error {cause : ConfigError} (h : read path = .error cause) (depth : Nat) :
    layered read (depth + 1) path = .error cause := by
  rw [layered, h]
  rfl

/-- A file can be loaded if and only if it can be read and all its entries can be had. -/
theorem exists_layered_iff (depth : Nat) :
    (∃ c, layered read (depth + 1) path = .ok c) ↔
      ∃ own, read path = .ok own ∧
        ∀ entry ∈ own.bases, (Base.of path entry).IsLoaded (layered read depth) := by
  cases hread : read path with
  | error cause => simp [layered_of_read_error hread]
  | ok own =>
      have hentries : (∃ c, layered read (depth + 1) path = .ok c) ↔
          ∃ base, stack (layered read depth) path standard own.bases = .ok base := by
        rw [layered_of_read hread]
        by_cases hbases : own.bases = []
        · simp [hbases, stack]
        · cases hstack : stack (layered read depth) path standard own.bases <;>
            simp [hbases, Except.map]
      rw [hentries, exists_stack_iff]
      simp

/-- What it takes to read a file: it is there, its extension is that of a known form, and its text
is a configuration in this form. -/
theorem readFile_eq_ok_iff {loader : Loader} {files : Path.FileTree} {path : String} {c : Config} :
    loader.readFile files path = .ok c ↔
      ∃ text, files.read? path = some text ∧
        ((((Path.extension? path).getD "" = "yaml" ∨ (Path.extension? path).getD "" = "yml") ∧
            loader.yaml? text = some c) ∨
          ((Path.extension? path).getD "" = "json" ∧ loader.json? text = some c)) := by
  rw [Loader.readFile]
  cases files.read? path with
  | none => simp
  | some text =>
      generalize (Path.extension? path).getD "" = extension
      simp only [Loader.decode, Bool.or_eq_true, decide_eq_true_eq, Option.some.injEq,
        exists_eq_left']
      split
      · next hyaml =>
          have hjson : extension ≠ "json" := by
            rintro rfl
            simp at hyaml
          cases loader.yaml? text <;> simp [hyaml, hjson]
      · next hyaml =>
          split
          · next hjson => cases loader.json? text <;> simp [hjson]
          · next hjson => simp [hyaml, hjson]

theorem load_eq (loader : Loader) (files : Path.FileTree) (path : String) :
    loader.load files path =
      (layered (loader.readFile files) deepestBase path).bind fun c =>
        (c.settingsUnder loader.refusal).map fun _ => c := by
  rw [Loader.load]
  cases layered (loader.readFile files) deepestBase path with
  | error cause => rfl
  | ok c =>
      simp only [bind, Except.bind, Except.map]
      cases c.settingsUnder loader.refusal <;> rfl

theorem load_eq_ok_iff {loader : Loader} {files : Path.FileTree} {c : Config} :
    loader.load files path = .ok c ↔
      layered (loader.readFile files) deepestBase path = .ok c ∧
        ∃ s, c.settingsUnder loader.refusal = .ok s := by
  rw [load_eq]
  cases layered (loader.readFile files) deepestBase path with
  | error cause => simp [Except.bind]
  | ok d =>
      constructor
      · intro h
        cases hs : d.settingsUnder loader.refusal with
        | error cause => simp [Except.bind, Except.map, hs] at h
        | ok s =>
            obtain rfl : d = c := by
              simpa [Except.bind, Except.map, hs] using h
            exact ⟨rfl, s, hs⟩
      · rintro ⟨h, s, hs⟩
        obtain rfl := Except.ok.inj h
        simp [Except.bind, Except.map, hs]

end Loading

end Config
end TreeLint
