import Mathlib.Data.List.Chain
import Mathlib.Logic.Relation
import TreeLint.Proofs.Config.Layering
import TreeLint.Proofs.Config.Parameters
import TreeLint.Proofs.Path.Following

/-!
# Files that build on each other

Loading ends for all files, however they build on each other, because it goes only so deep. It
succeeds if and only if all files that it meets can be read and name only presets that exist, no
chain of files is too long, and the parameters are valid in the end. Files that build on each other
in a circle have chains of any length. The same file may stand in a circle under different paths.

**Results.**
* `Config.loads_iff`: loading has one outcome for each file.
* `Config.exists_layered_iff_chains`: when a file can be loaded, from the files that it leads to.
* `Config.load_follows_chains`: all outcomes of loading.
-/

namespace TreeLint
namespace Config

open Relation

/-! ## Loading, step by step -/

section Steps

variable (read : String → Except ConfigError Config)

mutual

/-- How loading a file comes out, where `depth` files already build on each other. -/
inductive Loads : Nat → String → Except ConfigError Config → Prop
  | tooDeep {depth : Nat} {path : String} :
      deepestBase ≤ depth →
      Loads depth path (.error .tooDeep)
  | unread {depth : Nat} {path : String} {cause : ConfigError} :
      depth < deepestBase →
      read path = .error cause →
      Loads depth path (.error cause)
  | alone {depth : Nat} {path : String} {own : Config} :
      depth < deepestBase →
      read path = .ok own →
      own.bases = [] →
      Loads depth path (.ok own)
  | above {depth : Nat} {path : String} {own : Config} {below : Except ConfigError Config} :
      depth < deepestBase →
      read path = .ok own →
      own.bases ≠ [] →
      Stacks depth path standard own.bases below →
      Loads depth path (below.map fun base => base.merge own)

/-- How it comes out to put entries of a file on top of a configuration. -/
inductive Stacks : Nat → String → Config → List String → Except ConfigError Config → Prop
  | nil {depth : Nat} {path : String} {c : Config} :
      Stacks depth path c [] (.ok c)
  | preset {depth : Nat} {path entry : String} {entries : List String} {c p : Config}
      {outcome : Except ConfigError Config} :
      Base.of path entry = .preset p →
      Stacks depth path (c.merge p) entries outcome →
      Stacks depth path c (entry :: entries) outcome
  | unknown {depth : Nat} {path entry name : String} {entries : List String} {c : Config} :
      Base.of path entry = .unknown name →
      Stacks depth path c (entry :: entries) (.error (.unknownPreset name))
  | refused {depth : Nat} {path entry base : String} {entries : List String} {c : Config}
      {cause : ConfigError} :
      Base.of path entry = .file base →
      Loads (depth + 1) base (.error cause) →
      Stacks depth path c (entry :: entries) (.error cause)
  | file {depth : Nat} {path entry base : String} {entries : List String} {c d : Config}
      {outcome : Except ConfigError Config} :
      Base.of path entry = .file base →
      Loads (depth + 1) base (.ok d) →
      Stacks depth path (c.merge d) entries outcome →
      Stacks depth path c (entry :: entries) outcome

end

end Steps

variable {read : String → Except ConfigError Config}

/-- What is left of the depth in one file and in a file that it builds on. -/
theorem deepestBase_sub {depth : Nat} (h : depth < deepestBase) :
    deepestBase - depth = deepestBase - (depth + 1) + 1 := by
  omega

mutual

theorem Loads.layered_eq {depth : Nat} {path : String} {outcome : Except ConfigError Config} :
    Loads read depth path outcome → layered read (deepestBase - depth) path = outcome
  | .tooDeep hdepth => by
      rw [Nat.sub_eq_zero_of_le hdepth]
      rfl
  | .unread hdepth hread => by
      rw [deepestBase_sub hdepth, layered_of_read_error hread]
  | .alone hdepth hread hbases => by
      rw [deepestBase_sub hdepth, layered_of_read hread, if_pos hbases]
  | .above hdepth hread hbases hbelow => by
      rw [deepestBase_sub hdepth, layered_of_read hread, if_neg hbases, hbelow.stack_eq]

theorem Stacks.stack_eq {depth : Nat} {path : String} {c : Config} {entries : List String}
    {outcome : Except ConfigError Config} :
    Stacks read depth path c entries outcome →
      stack (layered read (deepestBase - (depth + 1))) path c entries = outcome
  | .nil => rfl
  | .preset hbase hrest => by
      rw [stack_cons_preset hbase, hrest.stack_eq]
  | .unknown hbase => by
      rw [stack_cons_unknown hbase]
  | .refused hbase hload => by
      rw [stack_cons_file hbase, hload.layered_eq]
      rfl
  | .file hbase hload hrest => by
      rw [stack_cons_file hbase, hload.layered_eq]
      exact hrest.stack_eq

end

theorem stacks_stack {depth : Nat} {path : String}
    (hload : ∀ base, Loads read (depth + 1) base (layered read (deepestBase - (depth + 1)) base))
    (c : Config) (entries : List String) :
    Stacks read depth path c entries
      (stack (layered read (deepestBase - (depth + 1))) path c entries) := by
  induction entries generalizing c with
  | nil => exact .nil
  | cons entry entries ih =>
      cases hbase : Base.of path entry with
      | preset p =>
          rw [stack_cons_preset hbase]
          exact .preset hbase (ih _)
      | file base =>
          rw [stack_cons_file hbase]
          have hbelow := hload base
          cases hlayered : layered read (deepestBase - (depth + 1)) base with
          | error cause =>
              rw [hlayered] at hbelow
              exact .refused hbase hbelow
          | ok d =>
              rw [hlayered] at hbelow
              exact .file hbase hbelow (ih _)
      | unknown name =>
          rw [stack_cons_unknown hbase]
          exact .unknown hbase

theorem loads_layered (depth : Nat) (path : String) :
    Loads read depth path (layered read (deepestBase - depth) path) := by
  -- on how much deeper loading may go
  induction hleft : deepestBase - depth generalizing depth path with
  | zero =>
      exact .tooDeep (by omega)
  | succ left ih =>
      have hdepth : depth < deepestBase := by
        omega
      have hbelow : deepestBase - (depth + 1) = left := by
        omega
      cases hread : read path with
      | error cause =>
          rw [layered_of_read_error hread]
          exact .unread hdepth hread
      | ok own =>
          rw [layered_of_read hread]
          split
          · next hbases => exact .alone hdepth hread hbases
          · next hbases =>
              have hload : ∀ base,
                  Loads read (depth + 1) base (layered read (deepestBase - (depth + 1)) base) := by
                intro base
                rw [hbelow]
                exact ih (depth + 1) base hbelow
              rw [← hbelow]
              exact .above hdepth hread hbases (stacks_stack hload standard own.bases)

/-- Loading has one outcome for each file, whatever files build on each other. -/
theorem loads_iff {depth : Nat} {path : String} {outcome : Except ConfigError Config} :
    Loads read depth path outcome ↔ layered read (deepestBase - depth) path = outcome := by
  constructor
  · exact Loads.layered_eq
  · rintro rfl
    exact loads_layered depth path

/-! ## Chains of files -/

section Relations

variable (read : String → Except ConfigError Config)

/-- One of the entries in a file means another file. -/
def BuildsOn (path base : String) : Prop :=
  ∃ own, read path = .ok own ∧ ∃ entry ∈ own.bases, Base.of path entry = .file base

/-- A file can be read, and its entries without an extension are presets. -/
def IsUsable (path : String) : Prop :=
  ∃ own, read path = .ok own ∧
    ∀ entry ∈ own.bases, Path.extension? entry = none → (preset? entry).isSome

end Relations

/-- A file can be loaded if and only if it is usable and the files that it builds on can be
loaded. -/
theorem exists_layered_iff_buildsOn {depth : Nat} {path : String} :
    (∃ c, layered read (depth + 1) path = .ok c) ↔
      IsUsable read path ∧
        ∀ base, BuildsOn read path base → ∃ c, layered read depth base = .ok c := by
  rw [exists_layered_iff]
  constructor
  · rintro ⟨own, hread, hentries⟩
    constructor
    · refine ⟨own, hread, fun entry hmem => (base_of_ne_unknown_iff path entry).mp ?_⟩
      intro name hname
      have hloaded := hentries entry hmem
      rwa [hname] at hloaded
    · rintro base ⟨own', hread', entry, hmem, hbase⟩
      obtain rfl := Except.ok.inj (hread.symm.trans hread')
      have hloaded := hentries entry hmem
      rwa [hbase] at hloaded
  · rintro ⟨⟨own, hread, hpresets⟩, hbelow⟩
    refine ⟨own, hread, fun entry hmem => ?_⟩
    cases hbase : Base.of path entry with
    | preset p => trivial
    | file base => exact hbelow base ⟨own, hread, entry, hmem, hbase⟩
    | unknown name => exact (base_of_ne_unknown_iff path entry).mpr (hpresets entry hmem) name hbase

/-- A file can be loaded if and only if all files that it leads to are usable and no chain of files
that starts with it is too long. -/
theorem exists_layered_iff_chains {depth : Nat} {path : String} :
    (∃ c, layered read depth path = .ok c) ↔
      (∀ q, ReflTransGen (BuildsOn read) path q → IsUsable read q) ∧
        ∀ rest, List.IsChain (BuildsOn read) (path :: rest) → (path :: rest).length ≤ depth := by
  induction depth generalizing path with
  | zero =>
      constructor
      · rintro ⟨c, h⟩
        cases h
      · rintro ⟨-, hchain⟩
        have hlength := hchain [] (.singleton path)
        simp at hlength
  | succ depth ih =>
      rw [exists_layered_iff_buildsOn]
      constructor
      · rintro ⟨husable, hbelow⟩
        constructor
        · intro q hq
          rcases hq.cases_head with rfl | ⟨base, hfirst, hrest⟩
          · exact husable
          · exact (ih.mp (hbelow base hfirst)).1 q hrest
        · intro rest hchain
          cases rest with
          | nil => simp
          | cons base rest =>
              obtain ⟨hfirst, hrest⟩ := List.isChain_cons_cons.mp hchain
              have hlength := (ih.mp (hbelow base hfirst)).2 rest hrest
              rw [List.length_cons]
              omega
      · rintro ⟨husable, hchain⟩
        refine ⟨husable path .refl, fun base hfirst => ih.mpr ⟨?_, ?_⟩⟩
        · intro q hq
          exact husable q (.head hfirst hq)
        · intro rest hrest
          have hlength := hchain (base :: rest) (List.isChain_cons_cons.mpr ⟨hfirst, hrest⟩)
          simp only [List.length_cons] at hlength ⊢
          omega

/-! ## Circles of files -/

theorem exists_layered_of_buildsOn {depth : Nat} {path base : String}
    (h : ∃ c, layered read depth path = .ok c) (hbase : BuildsOn read path base) :
    ∃ less < depth, ∃ c, layered read less base = .ok c := by
  cases depth with
  | zero =>
      obtain ⟨c, hc⟩ := h
      cases hc
  | succ depth =>
      exact ⟨depth, Nat.lt_succ_self depth, (exists_layered_iff_buildsOn.mp h).2 base hbase⟩

theorem exists_layered_of_reflTransGen {depth : Nat} {path base : String}
    (h : ∃ c, layered read depth path = .ok c) (hbase : ReflTransGen (BuildsOn read) path base) :
    ∃ less ≤ depth, ∃ c, layered read less base = .ok c := by
  induction hbase with
  | refl => exact ⟨depth, Nat.le_refl depth, h⟩
  | tail _ hlast ih =>
      obtain ⟨less, hless, hloaded⟩ := ih
      obtain ⟨least, hleast, hloaded'⟩ := exists_layered_of_buildsOn hloaded hlast
      exact ⟨least, by omega, hloaded'⟩

section Circles

variable {loader : Loader} {files : Path.FileTree}

/-- What a file builds on does not depend on the path by which it was found. -/
theorem exists_buildsOn_of_follow?_eq (hproper : files.IsProper) {p q base : String}
    (hsame : files.follow? q = files.follow? p) (h : BuildsOn (loader.readFile files) p base) :
    ∃ other, BuildsOn (loader.readFile files) q other ∧
      files.follow? other = files.follow? base := by
  obtain ⟨own, hread, entry, hmem, hbase⟩ := h
  obtain ⟨hpreset, hextension, rfl⟩ := base_of_eq_file_iff.mp hbase
  cases hp : files.follow? p with
  | none =>
      rw [Loader.readFile, Path.FileTree.read?, hp] at hread
      cases hread
  | some names =>
      have hreads : files.read? q = files.read? p := by
        rw [Path.FileTree.read?, Path.FileTree.read?, hsame]
      cases htext : files.text? names with
      | none =>
          simp [Loader.readFile, Path.FileTree.read?, hp, htext] at hread
      | some text =>
          have hfile := hproper.isDirectory_eq_false htext
          obtain ⟨hname, hbeside⟩ :=
            Path.FileTree.follow?_beside_congr (hsame.trans hp) hp hfile
          have hreadOther : loader.readFile files q = .ok own := by
            rw [← hread, Loader.readFile, Loader.readFile, hreads, Path.extension?, Path.extension?,
              hname]
          refine ⟨Path.beside q entry, ⟨own, hreadOther, entry, hmem, ?_⟩, hbeside entry ?_⟩
          · exact base_of_eq_file_iff.mpr ⟨hpreset, hextension, rfl⟩
          · cases hentry : Path.fileName? entry with
            | none => simp [Path.extension?, hentry] at hextension
            | some name => rfl

theorem exists_transGen_of_follow?_eq (hproper : files.IsProper) {p q base : String}
    (hsame : files.follow? q = files.follow? p)
    (h : TransGen (BuildsOn (loader.readFile files)) p base) :
    ∃ other, TransGen (BuildsOn (loader.readFile files)) q other ∧
      files.follow? other = files.follow? base := by
  induction h with
  | single hfirst =>
      obtain ⟨other, hother, hfollow⟩ := exists_buildsOn_of_follow?_eq hproper hsame hfirst
      exact ⟨other, .single hother, hfollow⟩
  | tail _ hlast ih =>
      obtain ⟨middle, hmiddle, hfollow⟩ := ih
      obtain ⟨other, hother, hfollow'⟩ := exists_buildsOn_of_follow?_eq hproper hfollow hlast
      exact ⟨other, hmiddle.tail hother, hfollow'⟩

end Circles

/-- Files that lead to each other again and again cannot be loaded. -/
theorem not_exists_layered_of_returns {S : String → Prop}
    (hreturns : ∀ p, S p → ∃ q, TransGen (BuildsOn read) p q ∧ S q) (depth : Nat) {p : String}
    (hp : S p) : ¬ ∃ c, layered read depth p = .ok c := by
  -- each return takes from the depth
  induction depth using Nat.strongRecOn generalizing p with
  | ind depth ih =>
      intro hloaded
      obtain ⟨q, hpath, hq⟩ := hreturns p hp
      obtain ⟨base, hfirst, hrest⟩ := TransGen.head'_iff.mp hpath
      obtain ⟨less, hless, hbase⟩ := exists_layered_of_buildsOn hloaded hfirst
      obtain ⟨least, hleast, hagain⟩ := exists_layered_of_reflTransGen hbase hrest
      exact ih least (by omega) hq hagain

/-- A file that leads back to itself cannot be loaded, be it by another path. -/
theorem not_exists_layered_of_circle {loader : Loader} {files : Path.FileTree} {p q : String}
    (hcircle : TransGen (BuildsOn (loader.readFile files)) p q)
    (hsame : q = p ∨ files.IsProper ∧ files.follow? q = files.follow? p) (depth : Nat) :
    ¬ ∃ c, layered (loader.readFile files) depth p = .ok c := by
  rcases hsame with rfl | ⟨hproper, hsame⟩
  · refine not_exists_layered_of_returns (S := fun x => x = q) ?_ depth rfl
    rintro x rfl
    exact ⟨x, hcircle, rfl⟩
  · refine not_exists_layered_of_returns
      (S := fun x => files.follow? x = files.follow? p) (fun x hx => ?_) depth rfl
    obtain ⟨again, hagain, hfollow⟩ := exists_transGen_of_follow?_eq hproper hx hcircle
    exact ⟨again, hagain, hfollow.trans hsame⟩

/-! ## All outcomes -/

/-- Two files that build on each other; the way back to the first one is spelled differently. -/
def circlingFiles : Path.FileTree :=
  ⟨[(["a.json"], "\x7b\"extends\":[\"b.json\"]\x7d"),
    (["b.json"], "\x7b\"extends\":[\"all\",\"./a.json\"]\x7d")], [], none⟩

/-- Loading a file ends, with one outcome, whatever files build on each other and however texts are
read. If the file leads to a circle of files, the outcome is an error; a file comes back under the
same path, or under another one in a tree of files that is proper. And it is a configuration if and
only if all files that the file leads to are usable, no chain of files that starts with it is longer
than ten files, and each parameter of the whole is valid. -/
theorem load_follows_chains (loader : Loader) (files : Path.FileTree) (path : String) :
    let read := loader.readFile files
    (∃ outcome, Loads read 0 path outcome ∧
      (∀ other, Loads read 0 path other → other = outcome) ∧
      loader.load files path =
        outcome.bind fun c => (c.settingsUnder loader.refusal).map fun _ => c) ∧
      (∀ p q,
        ReflTransGen (BuildsOn read) path p →
        TransGen (BuildsOn read) p q →
        q = p ∨ files.IsProper ∧ files.follow? q = files.follow? p →
        ∃ cause, loader.load files path = .error cause) ∧
      ((∃ c, loader.load files path = .ok c) ↔
        (∀ q, ReflTransGen (BuildsOn read) path q → IsUsable read q) ∧
          (∀ rest, List.IsChain (BuildsOn read) (path :: rest) → (path :: rest).length ≤ 10) ∧
          ∀ layers, LayersOf read path layers →
            ∀ key v, (sumLayers layers).parameters[key]? = some v →
              IsValid loader.refusal (key, v)) := by
  intro read
  have hsettings : ∀ {c layers}, Agrees c (sumLayers layers) →
      c.settingsUnder loader.refusal = (sumLayers layers).settingsUnder loader.refusal :=
    fun hsum => settingsUnder_congr loader.refusal hsum.parameters
  refine ⟨?_, ?_, ?_⟩
  · exact ⟨_, loads_layered 0 path, fun other hother => (loads_iff.mp hother).symm,
      load_eq loader files path⟩
  · intro p q hpath hcircle hsame
    cases hload : loader.load files path with
    | error cause => exact ⟨cause, rfl⟩
    | ok c =>
        obtain ⟨less, -, hp⟩ :=
          exists_layered_of_reflTransGen ⟨c, (load_eq_ok_iff.mp hload).1⟩ hpath
        exact absurd hp (not_exists_layered_of_circle hcircle hsame less)
  · rw [← and_assoc, ← deepestBase, ← exists_layered_iff_chains]
    simp only [← exists_settingsUnder_iff]
    constructor
    · rintro ⟨c, hc⟩
      obtain ⟨hlayered, s, hs⟩ := load_eq_ok_iff.mp hc
      refine ⟨⟨c, hlayered⟩, fun layers hlayers => ⟨s, ?_⟩⟩
      obtain ⟨found, hfound, hsum⟩ := exists_layersOf hlayered
      rw [hlayers.unique hfound, ← hsettings hsum, hs]
    · rintro ⟨⟨c, hlayered⟩, hvalid⟩
      obtain ⟨layers, hlayers, hsum⟩ := exists_layersOf hlayered
      obtain ⟨s, hs⟩ := hvalid layers hlayers
      exact ⟨c, load_eq_ok_iff.mpr ⟨hlayered, s, (hsettings hsum).trans hs⟩⟩

/-- A circle is refused, and a chain of three files is not. -/
theorem load_follows_chains_circle :
    (∃ cause, load circlingFiles "a.json" = .error cause) ∧
      ∃ c, load chainedFiles "child.json" = .ok c := by
  constructor
  · have hfirst : BuildsOn (readFile circlingFiles) "a.json" "b.json" :=
      ⟨buildingOn ["b.json"], rfl, "b.json", by simp [buildingOn], rfl⟩
    have hback : BuildsOn (readFile circlingFiles) "b.json" "./a.json" :=
      ⟨buildingOn ["all", "./a.json"], rfl, "./a.json", by simp [buildingOn], rfl⟩
    have hproper : circlingFiles.IsProper := by
      decide +kernel
    exact (load_follows_chains .standard circlingFiles "a.json").2.1 "a.json" "./a.json" .refl
      (.tail (.single hfirst) hback) (.inr ⟨hproper, rfl⟩)
  · have hlayered : ∃ c, layered (readFile chainedFiles) deepestBase "child.json" = .ok c :=
      exists_of_isOk (by decide +kernel)
    obtain ⟨husable, hchain⟩ := exists_layered_iff_chains.mp hlayered
    refine (load_follows_chains .standard chainedFiles "child.json").2.2.mpr ⟨husable, hchain, ?_⟩
    intro layers hlayers
    rw [hlayers.unique layersOf_chainedFiles]
    exact exists_settingsUnder_iff.mp (exists_of_isOk (by decide +kernel))

end Config
end TreeLint
