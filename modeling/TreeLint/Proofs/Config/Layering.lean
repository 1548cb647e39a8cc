import TreeLint.Proofs.Config.Loading
import TreeLint.Proofs.Config.Merging

/-!
# The layers of a configuration file

A file that builds on others lies on top of the layers of all its entries, and these on top of the
standard configuration; a file that builds on nothing, and a preset, is a layer by itself. Because
merging is associative, what is loaded is the sum of the layers, whatever the shape in which files
build on each other.

**Results.**
* `Config.exists_layersOf`: a file that can be loaded has layers, and what is loaded is their sum.
* `Config.LayersOf.unique`: a file has its layers in one way only.
* `Config.load_eq_sum_layers`: merging is associative, and loading adds up layers.
-/

namespace TreeLint
namespace Config

/-! ## Layers -/

/-- Something that is put on top of what is below it. -/
inductive Layer where
  | standard
  | preset (c : Config)
  | file (path : String) (own : Config)

/-- What a layer says. What the file of a layer builds on is said by the layers below it. -/
def Layer.contents : Layer → Config
  | standard => Config.standard
  | preset c => c
  | file _ own => { own with bases := [] }

/-- The sum of layers. -/
def sumLayers (layers : List Layer) : Config :=
  sum (layers.map Layer.contents)

section Relations

variable (read : String → Except ConfigError Config)

mutual

/-- The layers of a file. -/
inductive LayersOf : String → List Layer → Prop
  | alone {path : String} {own : Config} :
      read path = .ok own →
      own.bases = [] →
      LayersOf path [.file path own]
  | above {path : String} {own : Config} {below : List Layer} :
      read path = .ok own →
      own.bases ≠ [] →
      LayersOfAll path own.bases below →
      LayersOf path (.standard :: below ++ [.file path own])

/-- The layers of entries in a file, from left to right. -/
inductive LayersOfAll : String → List String → List Layer → Prop
  | nil {path : String} : LayersOfAll path [] []
  | preset {path entry : String} {entries : List String} {c : Config} {rest : List Layer} :
      Base.of path entry = .preset c →
      LayersOfAll path entries rest →
      LayersOfAll path (entry :: entries) (.preset c :: rest)
  | file {path entry base : String} {entries : List String} {first rest : List Layer} :
      Base.of path entry = .file base →
      LayersOf base first →
      LayersOfAll path entries rest →
      LayersOfAll path (entry :: entries) (first ++ rest)

end

end Relations

variable {read : String → Except ConfigError Config}

theorem LayersOf.ne_nil {path : String} {layers : List Layer} (h : LayersOf read path layers) :
    layers ≠ [] := by
  cases h with
  | alone hread hbases => exact List.cons_ne_nil _ _
  | above hread hbases hbelow => exact List.cons_ne_nil _ _

mutual

theorem LayersOf.unique {path : String} {layers others : List Layer} :
    LayersOf read path layers → LayersOf read path others → layers = others
  | .alone hread hbases, .alone hread' _ => by
      obtain rfl := Except.ok.inj (hread.symm.trans hread')
      rfl
  | .alone hread hbases, .above hread' hbases' _ => by
      obtain rfl := Except.ok.inj (hread.symm.trans hread')
      exact absurd hbases hbases'
  | .above hread hbases _, .alone hread' hbases' => by
      obtain rfl := Except.ok.inj (hread.symm.trans hread')
      exact absurd hbases' hbases
  | .above hread _ hbelow, .above hread' _ hbelow' => by
      obtain rfl := Except.ok.inj (hread.symm.trans hread')
      rw [hbelow.unique hbelow']

theorem LayersOfAll.unique {path : String} {entries : List String} {layers others : List Layer} :
    LayersOfAll read path entries layers → LayersOfAll read path entries others → layers = others
  | .nil, .nil => rfl
  | .preset hbase hrest, .preset hbase' hrest' => by
      obtain rfl := Base.preset.inj (hbase.symm.trans hbase')
      rw [hrest.unique hrest']
  | .preset hbase _, .file hbase' _ _ => nomatch hbase.symm.trans hbase'
  | .file hbase _ _, .preset hbase' _ => nomatch hbase.symm.trans hbase'
  | .file hbase hfirst hrest, .file hbase' hfirst' hrest' => by
      obtain rfl := Base.file.inj (hbase.symm.trans hbase')
      rw [hfirst.unique hfirst', hrest.unique hrest']

end

mutual

/-- Layers are configurations of files and presets, and standard ones in between. -/
theorem LayersOf.forall_mem {P : Layer → Prop} (hstandard : P .standard)
    (hpreset : ∀ name c, preset? name = some c → P (.preset c))
    (hfile : ∀ path own, read path = .ok own → P (.file path own))
    {path : String} {layers : List Layer} : LayersOf read path layers → ∀ l ∈ layers, P l
  | .alone hread _ => by
      simpa using hfile _ _ hread
  | .above hread _ hbelow => by
      simpa [or_imp, forall_and] using
        ⟨hstandard, hbelow.forall_mem hstandard hpreset hfile, hfile _ _ hread⟩

theorem LayersOfAll.forall_mem {P : Layer → Prop} (hstandard : P .standard)
    (hpreset : ∀ name c, preset? name = some c → P (.preset c))
    (hfile : ∀ path own, read path = .ok own → P (.file path own))
    {path : String} {entries : List String} {layers : List Layer} :
    LayersOfAll read path entries layers → ∀ l ∈ layers, P l
  | .nil => by
      simp
  | .preset hbase hrest => by
      rw [List.forall_mem_cons]
      exact ⟨hpreset _ _ (base_of_eq_preset_iff.mp hbase), hrest.forall_mem hstandard hpreset hfile⟩
  | .file _ hfirst hrest => by
      rw [List.forall_mem_append]
      exact ⟨hfirst.forall_mem hstandard hpreset hfile, hrest.forall_mem hstandard hpreset hfile⟩

end

/-- A file lies on top of its own layers. -/
theorem LayersOf.exists_concat {path : String} {layers : List Layer}
    (h : LayersOf read path layers) :
    ∃ below own, layers = below ++ [.file path own] := by
  cases h with
  | alone hread hbases => exact ⟨[], _, rfl⟩
  | above hread hbases hbelow => exact ⟨.standard :: _, _, rfl⟩

/-! ## Loading adds up layers -/

/-- What is stacked on a configuration is that with the layers of the entries on top, if what is
loaded for each entry is the sum of its layers. -/
theorem exists_layersOfAll {load : String → Except ConfigError Config} {path : String}
    (hload : ∀ base c, load base = .ok c →
      ∃ layers, LayersOf read base layers ∧ Agrees c (sumLayers layers))
    {entries : List String} {a b : Config} (h : stack load path a entries = .ok b) :
    ∃ layers, LayersOfAll read path entries layers ∧
      Agrees b ((layers.map Layer.contents).foldl merge a) := by
  induction entries generalizing a with
  | nil =>
      obtain rfl := Except.ok.inj h
      exact ⟨[], .nil, Agrees.refl a⟩
  | cons entry entries ih =>
      cases hbase : Base.of path entry with
      | preset p =>
          rw [stack_cons_preset hbase] at h
          obtain ⟨rest, hrest, hb⟩ := ih h
          exact ⟨.preset p :: rest, .preset hbase hrest, hb⟩
      | file base =>
          rw [stack_cons_file hbase] at h
          cases hc : load base with
          | error cause =>
              rw [hc] at h
              cases h
          | ok c =>
              rw [hc] at h
              obtain ⟨first, hfirst, hsum⟩ := hload base c hc
              obtain ⟨rest, hrest, hb⟩ := ih h
              refine ⟨first ++ rest, .file hbase hfirst hrest, hb.trans ?_⟩
              have hne : first.map Layer.contents ≠ [] := by
                simpa using hfirst.ne_nil
              have hmerge : Agrees (a.merge c) ((first.map Layer.contents).foldl merge a) :=
                ((Agrees.refl a).merge hsum).trans (merge_sum a hne)
              simpa using hmerge.foldl_merge _
      | unknown name =>
          rw [stack_cons_unknown hbase] at h
          cases h

theorem exists_layersOf {depth : Nat} {path : String} {c : Config}
    (h : layered read depth path = .ok c) :
    ∃ layers, LayersOf read path layers ∧ Agrees c (sumLayers layers) := by
  induction depth generalizing path c with
  | zero => cases h
  | succ depth ih =>
      cases hread : read path with
      | error cause =>
          rw [layered_of_read_error hread] at h
          cases h
      | ok own =>
          rw [layered_of_read hread] at h
          split at h
          · next hbases =>
              obtain rfl := Except.ok.inj h
              exact ⟨_, .alone hread hbases, { Agrees.refl own with bases := hbases }⟩
          · next hbases =>
              cases hstack : stack (layered read depth) path standard own.bases with
              | error cause =>
                  rw [hstack] at h
                  cases h
              | ok base =>
                  rw [hstack] at h
                  obtain rfl := Except.ok.inj h
                  obtain ⟨below, hbelow, hbase⟩ := exists_layersOfAll (fun _ _ => ih) hstack
                  refine ⟨_, .above hread hbases hbelow, ?_⟩
                  have hown : sumLayers (.standard :: below ++ [.file path own]) =
                      ((below.map Layer.contents).foldl merge standard).merge own := by
                    simp [sumLayers, sum, Layer.contents, merge]
                  rw [hown]
                  exact hbase.merge (Agrees.refl own)

/-! ## Two trees of files -/

/-- A configuration that says only what it builds on. -/
def buildingOn (bases : List String) : Config :=
  { standard with bases := bases }

/-- A configuration that turns off a rule. -/
def silencing : Config :=
  { standard with rules := { standard.rules with disabled := ["S127"] } }

/-- A file that turns off a rule, and a chain of two files that lead to it. -/
def chainedFiles : Path.FileTree :=
  ⟨[(["child.json"], "\x7b\"extends\":[\"base.json\"]\x7d"),
    (["base.json"], "\x7b\"extends\":[\"deep.json\"]\x7d"),
    (["deep.json"], "\x7b\"rules\":\x7b\"disabled\":[\"S127\"]\x7d\x7d")], [], none⟩

/-- The same file, and a file that builds on it between others that say nothing. -/
def flatFiles : Path.FileTree :=
  ⟨[(["child.json"], "\x7b\"extends\":[\"recommended\",\"deep.json\",\"none.json\"]\x7d"),
    (["none.json"], "\x7b\x7d"),
    (["deep.json"], "\x7b\"rules\":\x7b\"disabled\":[\"S127\"]\x7d\x7d")], [], none⟩

theorem layersOf_chainedFiles :
    LayersOf (readFile chainedFiles) "child.json"
      [.standard, .standard, .file "deep.json" silencing,
        .file "base.json" (buildingOn ["deep.json"]),
        .file "child.json" (buildingOn ["base.json"])] := by
  have hread : readFile chainedFiles "child.json" = .ok (buildingOn ["base.json"]) := rfl
  have hreadBase : readFile chainedFiles "base.json" = .ok (buildingOn ["deep.json"]) := rfl
  have hdeep : LayersOf (readFile chainedFiles) "deep.json" [.file "deep.json" silencing] :=
    .alone rfl rfl
  have hbase := LayersOf.above hreadBase (by decide) (.file rfl hdeep .nil)
  exact .above hread (by decide) (.file rfl hbase .nil)

theorem layersOf_flatFiles :
    LayersOf (readFile flatFiles) "child.json"
      [.standard, .preset standard, .file "deep.json" silencing, .file "none.json" (buildingOn []),
        .file "child.json" (buildingOn ["recommended", "deep.json", "none.json"])] := by
  have hread : readFile flatFiles "child.json" =
      .ok (buildingOn ["recommended", "deep.json", "none.json"]) := rfl
  have hdeep : LayersOf (readFile flatFiles) "deep.json" [.file "deep.json" silencing] :=
    .alone rfl rfl
  have hnone : LayersOf (readFile flatFiles) "none.json" [.file "none.json" (buildingOn [])] :=
    .alone rfl rfl
  exact .above hread (by decide) (.preset rfl (.file rfl hdeep (.file rfl hnone .nil)))

/-! ## Loading as a sum of layers -/

/-- Merging is associative. So what is loaded is the sum of the layers of a file, and files with
the same layers are loaded alike, however they build on others and however their texts are read. -/
theorem load_eq_sum_layers (loader : Loader) :
    (∀ a b c : Config, Agrees ((a.merge b).merge c) (a.merge (b.merge c))) ∧
      (∀ (files : Path.FileTree) (path : String) (c : Config),
        loader.load files path = .ok c →
        ∃ layers, LayersOf (loader.readFile files) path layers ∧
          (∀ others, LayersOf (loader.readFile files) path others → others = layers) ∧
          Agrees c (sumLayers layers)) ∧
      ∀ (files others : Path.FileTree) (path otherPath : String) (c d : Config)
        (layers otherLayers : List Layer),
        loader.load files path = .ok c →
        loader.load others otherPath = .ok d →
        LayersOf (loader.readFile files) path layers →
        LayersOf (loader.readFile others) otherPath otherLayers →
        layers.map Layer.contents = otherLayers.map Layer.contents →
        Agrees c d := by
  have hsum : ∀ (files : Path.FileTree) (path : String) (c : Config) (layers : List Layer),
      loader.load files path = .ok c → LayersOf (loader.readFile files) path layers →
      Agrees c (sumLayers layers) := by
    intro files path c layers hload hlayers
    obtain ⟨found, hfound, hc⟩ := exists_layersOf (load_eq_ok_iff.mp hload).1
    rwa [hlayers.unique hfound]
  refine ⟨merge_assoc, ?_, ?_⟩
  · intro files path c hload
    obtain ⟨layers, hlayers, hc⟩ := exists_layersOf (load_eq_ok_iff.mp hload).1
    exact ⟨layers, hlayers, fun others hothers => hothers.unique hlayers, hc⟩
  · intro files others path otherPath c d layers otherLayers hc hd hlayers hothers hsame
    have hd' : Agrees d (sumLayers layers) := by
      rw [sumLayers, hsame]
      exact hsum others otherPath d otherLayers hd hothers
    exact (hsum files path c layers hc hlayers).trans hd'.symm

/-- Whether files form a chain or lie beside each other makes no difference. -/
theorem load_eq_sum_layers_flat :
    ∃ c d, load chainedFiles "child.json" = .ok c ∧ load flatFiles "child.json" = .ok d ∧
      (∃ layers, LayersOf (readFile chainedFiles) "child.json" layers ∧
        (∀ others, LayersOf (readFile chainedFiles) "child.json" others → others = layers) ∧
        Agrees c (sumLayers layers)) ∧
      Agrees c d := by
  obtain ⟨c, hc⟩ : ∃ c, load chainedFiles "child.json" = .ok c :=
    exists_of_isOk (by decide +kernel)
  obtain ⟨d, hd⟩ : ∃ d, load flatFiles "child.json" = .ok d :=
    exists_of_isOk (by decide +kernel)
  obtain ⟨-, hlayers, hsame⟩ := load_eq_sum_layers .standard
  exact ⟨c, d, hc, hd, hlayers chainedFiles "child.json" c hc,
    hsame chainedFiles flatFiles "child.json" "child.json" c d _ _ hc hd
      layersOf_chainedFiles layersOf_flatFiles rfl⟩

end Config
end TreeLint
