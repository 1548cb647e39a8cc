import TreeLint.Proofs.Config.Layering

/-!
# Settings with one value in files that build on each other

A file may leave a setting out, and then reads like one that writes the standard value. So where a
later value counts unless it is the standard one, a file cannot go back to the standard value; and
where the later value counts in any case, a file that leaves the setting out brings the standard
value back.

**Results.**
* `Config.Field.value_of_readFile`: what a file says about a setting, from what is written in it.
* `Config.Field.value_sum`: what a sum of configurations says.
* `Config.Field.value_load`: what is loaded, from what is written in the layers of a file, and when
  it is what the last layer writes that has the setting.
-/

namespace TreeLint
namespace Config

/-- A setting that has one value. -/
inductive Field where
  | parallel
  | jobs
  | analyzeGenerated
  | format
  | color
  | verbose
  | statistics

namespace Field

def Value : Field → Type
  | jobs => Nat
  | format => Output.Format
  | color => Output.ColorMode
  | parallel | analyzeGenerated | verbose | statistics => Bool

instance : (k : Field) → DecidableEq k.Value
  | jobs => inferInstanceAs (DecidableEq Nat)
  | format => inferInstanceAs (DecidableEq Output.Format)
  | color => inferInstanceAs (DecidableEq Output.ColorMode)
  | parallel | analyzeGenerated | verbose | statistics => inferInstanceAs (DecidableEq Bool)

/-- What a configuration says about a setting. -/
def value : (k : Field) → Config → k.Value
  | parallel, c => c.engine.parallel
  | jobs, c => c.engine.jobs
  | analyzeGenerated, c => c.engine.analyzeGenerated
  | format, c => c.output.format
  | color, c => c.output.color
  | verbose, c => c.output.verbose
  | statistics, c => c.output.statistics

/-! ## What is written in a file -/

/-- The part of a document that a setting belongs to. -/
def part : Field → String
  | parallel | jobs | analyzeGenerated => "engine"
  | format | color | verbose | statistics => "output"

/-- The names of all settings in the part of a setting. -/
def partNames : Field → List String
  | parallel | jobs | analyzeGenerated => ["parallel", "jobs", "analyze_generated"]
  | format | color | verbose | statistics => ["format", "color", "verbose", "statistics"]

def name : Field → String
  | parallel => "parallel"
  | jobs => "jobs"
  | analyzeGenerated => "analyze_generated"
  | format => "format"
  | color => "color"
  | verbose => "verbose"
  | statistics => "statistics"

variable {α : Type}

/-- Reads the value of a setting. -/
def read? (f : Form α) : (k : Field) → α → Option k.Value
  | parallel | analyzeGenerated | verbose | statistics => f.bool?
  | jobs => f.natural?
  | format => fun v => (f.choice? v).bind Output.Format.ofName?
  | color => fun v => (f.choice? v).bind Output.ColorMode.ofName?

/-- The value of a setting that is written among the parts of a document. -/
def writtenAmong? (f : Form α) (k : Field) (parts : List (String × α)) : Option k.Value := do
  let entries ← f.record? k.partNames (← parts.lookup k.part)
  k.read? f (← entries.lookup k.name)

/-- The value of a setting that is written in a document; nothing if the document leaves it out. -/
def written? (f : Form α) (k : Field) (v : α) : Option k.Value := do
  k.writtenAmong? f
    (← f.record? ["extends", "engine", "output", "files", "rules", "parameters"] v)

/-- The value of a setting that is written in a file. -/
def writtenIn? (files : Path.FileTree) (k : Field) (path : String) : Option k.Value := do
  let text ← files.read? path
  if (Path.extension? path).getD "" = "json" then
    k.written? jsonForm (← Json.read? text.toList)
  else
    k.written? yamlForm (← Yaml.Node.ofText? text.toList)

end Field

namespace Form

variable {α β : Type} {f : Form α} {v : α}

theorem eq_getD_of_fieldOr {fields : List (String × α)} {name : String} {default x : β}
    {read : α → Option β} (h : fieldOr fields name default read = some x) :
    x = ((fields.lookup name).bind read).getD default := by
  rw [fieldOr] at h
  split at h
  · next hlookup =>
      rw [hlookup]
      exact (Option.some.inj h).symm
  · next w hlookup =>
      rw [hlookup, Option.bind_some, h]
      rfl

theorem exists_of_engine? {e : EngineOptions} (h : f.engine? v = some e) :
    ∃ fields, f.record? ["parallel", "jobs", "analyze_generated"] v = some fields ∧
      fieldOr fields "parallel" standard.engine.parallel f.bool? = some e.parallel ∧
      fieldOr fields "jobs" standard.engine.jobs f.natural? = some e.jobs ∧
      fieldOr fields "analyze_generated" standard.engine.analyzeGenerated f.bool? =
        some e.analyzeGenerated := by
  simp only [engine?, Option.bind_eq_bind, Option.bind_eq_some_iff, Option.pure_def,
    Option.some.injEq] at h
  obtain ⟨fields, hfields, parallel, hparallel, jobs, hjobs, generated, hgenerated, rfl⟩ := h
  exact ⟨fields, hfields, hparallel, hjobs, hgenerated⟩

theorem exists_of_output? {o : OutputOptions} (h : f.output? v = some o) :
    ∃ fields, f.record? ["format", "color", "verbose", "statistics"] v = some fields ∧
      (fieldOr fields "format" standard.output.format fun v =>
        (f.choice? v).bind Output.Format.ofName?) = some o.format ∧
      (fieldOr fields "color" standard.output.color fun v =>
        (f.choice? v).bind Output.ColorMode.ofName?) = some o.color ∧
      fieldOr fields "verbose" standard.output.verbose f.bool? = some o.verbose ∧
      fieldOr fields "statistics" standard.output.statistics f.bool? = some o.statistics := by
  simp only [output?, Option.bind_eq_bind, Option.bind_eq_some_iff, Option.pure_def,
    Option.some.injEq] at h
  obtain ⟨fields, hfields, format, hformat, color, hcolor, verbose, hverbose, statistics,
    hstatistics, rfl⟩ := h
  exact ⟨fields, hfields, hformat, hcolor, hverbose, hstatistics⟩

theorem exists_of_config? {c : Config} (h : f.config? v = some c) :
    ∃ fields,
      f.record? ["extends", "engine", "output", "files", "rules", "parameters"] v = some fields ∧
      fieldOr fields "engine" standard.engine f.engine? = some c.engine ∧
      fieldOr fields "output" standard.output f.output? = some c.output := by
  simp only [config?, Option.bind_eq_bind, Option.bind_eq_some_iff, Option.pure_def,
    Option.some.injEq] at h
  obtain ⟨fields, hfields, bases, -, engine, hengine, output, houtput, others, -, rules, -,
    parameters, -, rfl⟩ := h
  exact ⟨fields, hfields, hengine, houtput⟩

end Form

namespace Field

variable {α : Type} {f : Form α} {c : Config}

theorem value_of_part {σ : Type} {k : Field} {parts : List (String × α)} {default x : σ}
    {readPart : α → Option σ} (hpart : Form.fieldOr parts k.part default readPart = some x)
    (hdefault : x = default → k.value c = k.value standard)
    (hread : ∀ v, readPart v = some x → ∃ entries, f.record? k.partNames v = some entries ∧
      Form.fieldOr entries k.name (k.value standard) (k.read? f) = some (k.value c)) :
    k.value c = (k.writtenAmong? f parts).getD (k.value standard) := by
  rw [writtenAmong?]
  rw [Form.fieldOr] at hpart
  split at hpart
  · next hlookup =>
      rw [hlookup]
      exact hdefault (Option.some.inj hpart).symm
  · next v hlookup =>
      obtain ⟨entries, hentries, hvalue⟩ := hread v hpart
      simpa [hlookup, hentries] using Form.eq_getD_of_fieldOr hvalue

/-- What a document says about a setting: what is written in it, or else the standard value. -/
theorem value_of_config? {v : α} (h : f.config? v = some c) (k : Field) :
    k.value c = (k.written? f v).getD (k.value standard) := by
  obtain ⟨parts, hparts, hengine, houtput⟩ := Form.exists_of_config? h
  rw [written?, hparts]
  cases k with
  | parallel | jobs | analyzeGenerated =>
      refine value_of_part hengine (fun he => by rw [value, value, he]) fun w hw => ?_
      obtain ⟨entries, hentries, hparallel, hjobs, hgenerated⟩ := Form.exists_of_engine? hw
      exact ⟨entries, hentries, by assumption⟩
  | format | color | verbose | statistics =>
      refine value_of_part houtput (fun ho => by rw [value, value, ho]) fun w hw => ?_
      obtain ⟨entries, hentries, hformat, hcolor, hverbose, hstatistics⟩ :=
        Form.exists_of_output? hw
      exact ⟨entries, hentries, by assumption⟩

theorem value_of_readFile {files : Path.FileTree} {path : String}
    (h : readFile files path = .ok c) (k : Field) :
    k.value c = (k.writtenIn? files path).getD (k.value standard) := by
  obtain ⟨text, htext, ⟨hextension, hyaml⟩ | ⟨hextension, hjson⟩⟩ := readFile_eq_ok_iff.mp h
  · have hother : (Path.extension? path).getD "" ≠ "json" := by
      rintro hjson
      simp [hjson] at hextension
    obtain ⟨node, hnode, hc⟩ := Option.bind_eq_some_iff.mp hyaml
    simpa [writtenIn?, htext, hother, hnode] using value_of_config? hc k
  · obtain ⟨v, hv, hc⟩ := Option.bind_eq_some_iff.mp hjson
    simpa [writtenIn?, htext, hextension, hv] using value_of_config? hc k

/-! ## What a sum says -/

/-- Whether the later of two values counts, even if it is the standard one. -/
def isReplaced : Field → Bool
  | parallel | statistics => true
  | jobs | analyzeGenerated | format | color | verbose => false

theorem value_merge (k : Field) (a b : Config) :
    k.value (a.merge b) =
      if k.isReplaced then k.value b
      else unlessStandard (k.value standard) (k.value a) (k.value b) := by
  cases k <;> rfl

/-- The last one of some values that is not the standard value, or else the standard value. -/
def lastOther (k : Field) (values : List k.Value) : k.Value :=
  ((values.filter (· != k.value standard)).getLast?).getD (k.value standard)

end Field

theorem foldl_unlessStandard {β : Type} [BEq β] (standard first : β) (values : List β) :
    values.foldl (unlessStandard standard) first =
      ((values.filter (· != standard)).getLast?).getD first := by
  induction values generalizing first with
  | nil => rfl
  | cons v values ih =>
      rw [List.foldl_cons, ih, unlessStandard]
      cases hv : v == standard with
      | true => simp only [List.filter_cons, bne, hv, Bool.not_true, Bool.false_eq_true, if_false,
          if_true]
      | false =>
          simp only [List.filter_cons, bne, hv, Bool.not_false, Bool.false_eq_true, if_false,
            if_true, List.getLast?_cons, Option.getD_some]

@[simp] theorem unlessStandard_self {β : Type} [BEq β] [LawfulBEq β] (standard v : β) :
    unlessStandard standard standard v = v := by
  rw [unlessStandard]
  split
  · next h => exact (eq_of_beq h).symm
  · rfl

namespace Field

theorem value_foldl_merge (k : Field) (a : Config) (cs : List Config) :
    k.value (cs.foldl merge a) =
      if k.isReplaced then ((cs.map k.value).getLast?).getD (k.value a)
      else (cs.map k.value).foldl (unlessStandard (k.value standard)) (k.value a) := by
  induction cs generalizing a with
  | nil => simp
  | cons c cs ih =>
      rw [List.foldl_cons, ih, value_merge]
      cases k.isReplaced <;> simp [List.getLast?_cons]

theorem value_sum (k : Field) (cs : List Config) :
    k.value (sum cs) =
      if k.isReplaced then ((cs.map k.value).getLast?).getD (k.value standard)
      else k.lastOther (cs.map k.value) := by
  cases cs with
  | nil => cases k.isReplaced <;> rfl
  | cons c cs =>
      rw [sum, value_foldl_merge, lastOther, ← foldl_unlessStandard, List.map_cons, List.foldl_cons,
        unlessStandard_self, List.getLast?_cons, Option.getD_some]

/-! ## What the layers of a file say -/

/-- The value of a setting that is written in the file of a layer. -/
def writtenOn? (files : Path.FileTree) (k : Field) : Layer → Option k.Value
  | .file path _ => k.writtenIn? files path
  | .standard | .preset _ => none

/-- The values of a setting that are written in the files of layers. -/
def mentions (files : Path.FileTree) (k : Field) (layers : List Layer) : List k.Value :=
  layers.filterMap (k.writtenOn? files)

/-- What is written in the last layer that has the setting, or else the standard value. -/
def lastMention (files : Path.FileTree) (k : Field) (layers : List Layer) : k.Value :=
  ((k.mentions files layers).getLast?).getD (k.value standard)

variable {files : Path.FileTree} {path : String} {layers : List Layer}

theorem value_of_agrees {a b : Config} (h : Agrees a b) (k : Field) : k.value a = k.value b := by
  cases k with
  | parallel | jobs | analyzeGenerated => rw [value, value, h.engine]
  | format | color | verbose | statistics => rw [value, value, h.output]

/-- Presets do not say anything about these settings. -/
theorem value_of_preset? {name : String} {c : Config} (h : preset? name = some c) (k : Field) :
    k.value c = k.value standard := by
  rw [preset?] at h
  split at h
  · rw [← Option.some.inj h]
  · split at h
    · rw [← Option.some.inj h]
      cases k <;> rfl
    · cases h

theorem value_contents (h : LayersOf (readFile files) path layers) (k : Field) :
    ∀ l ∈ layers, k.value l.contents = (k.writtenOn? files l).getD (k.value standard) := by
  refine h.forall_mem
    (P := fun l => k.value l.contents = (k.writtenOn? files l).getD (k.value standard))
    rfl (fun name c hc => value_of_preset? hc k) fun file own hread => ?_
  have hown : k.value (Layer.file file own).contents = k.value own := by
    cases k <;> rfl
  rw [hown]
  exact value_of_readFile hread k

theorem lastOther_map_getD (k : Field) (written : Layer → Option k.Value) (layers : List Layer) :
    k.lastOther (layers.map fun l => (written l).getD (k.value standard)) =
      k.lastOther (layers.filterMap written) := by
  have hfilter : (layers.map fun l => (written l).getD (k.value standard)).filter
      (· != k.value standard) = (layers.filterMap written).filter (· != k.value standard) := by
    induction layers with
    | nil => rfl
    | cons l layers ih =>
        rw [List.map_cons, List.filter_cons, ih]
        cases hl : written l with
        | none => simp [hl]
        | some v => rw [List.filterMap_cons_some hl, List.filter_cons, Option.getD_some]
  rw [lastOther, lastOther, hfilter]

theorem lastOther_eq_standard_iff (k : Field) (values : List k.Value) :
    k.lastOther values = k.value standard ↔ ∀ v ∈ values, v = k.value standard := by
  rw [lastOther]
  cases hlast : (values.filter (· != k.value standard)).getLast? with
  | none =>
      have hnil := List.getLast?_eq_none_iff.mp hlast
      simpa [List.filter_eq_nil_iff] using hnil
  | some v =>
      obtain ⟨hmem, hne⟩ := List.mem_filter.mp (List.mem_of_getLast? hlast)
      rw [bne_iff_ne] at hne
      simp only [Option.getD_some, hne, false_iff]
      exact fun hall => hne (hall v hmem)

theorem lastOther_concat_of_ne {k : Field} {v : k.Value} (h : v ≠ k.value standard)
    (values : List k.Value) : k.lastOther (values ++ [v]) = v := by
  simp [lastOther, List.filter_append, h]

/-- The last value that is not the standard one is the last value, unless the standard value comes
after another one. -/
theorem lastOther_eq_last_iff (k : Field) (values : List k.Value) :
    k.lastOther values = (values.getLast?).getD (k.value standard) ↔
      ((values.getLast?).getD (k.value standard) = k.value standard →
        ∀ v ∈ values, v = k.value standard) := by
  rcases values.eq_nil_or_concat with rfl | ⟨before, v, rfl⟩
  · simp [lastOther]
  · rw [List.concat_eq_append, List.getLast?_concat, Option.getD_some]
    by_cases hv : v = k.value standard
    · rw [hv, lastOther_eq_standard_iff]
      simp
    · simp [lastOther_concat_of_ne hv, hv]

/-- A file that sets two settings of the engine, and a file on top of it that takes one of them back
and leaves the other one out. -/
def takenBackFiles : Path.FileTree :=
  ⟨[(["base.json"], "\x7b\"engine\":\x7b\"parallel\":false,\"jobs\":4\x7d\x7d"),
    (["child.json"], "\x7b\"extends\":[\"base.json\"],\"engine\":\x7b\"jobs\":0\x7d\x7d")],
    [], none⟩

theorem layersOf_takenBackFiles :
    LayersOf (readFile takenBackFiles) "child.json"
      [.standard, .file "base.json" { standard with engine := ⟨false, 4, false⟩ },
        .file "child.json" (buildingOn ["base.json"])] := by
  have hread : readFile takenBackFiles "child.json" = .ok (buildingOn ["base.json"]) := rfl
  have hbase : LayersOf (readFile takenBackFiles) "base.json"
      [.file "base.json" { standard with engine := ⟨false, 4, false⟩ }] := .alone rfl rfl
  exact .above hread (by decide) (.file rfl hbase .nil)

theorem exists_load_takenBackFiles : ∃ c, load takenBackFiles "child.json" = .ok c :=
  exists_of_isOk (by decide +kernel)

/-- What is loaded, for each of the settings with one value. Of `parallel` and `statistics` counts
only what the file itself writes; of the others counts the last value that is not the standard
one. -/
theorem value_load (hload : load files path = .ok c) :
    ∃ layers, LayersOf (readFile files) path layers ∧
      (∀ others, LayersOf (readFile files) path others → others = layers) ∧
      ∀ k : Field,
        (k.isReplaced = true →
          k.value c = (k.writtenIn? files path).getD (k.value standard) ∧
          (k.value c = k.lastMention files layers ↔
            (k.writtenIn? files path = none → k.lastMention files layers = k.value standard))) ∧
        (k.isReplaced = false →
          k.value c = k.lastOther (k.mentions files layers) ∧
          (k.value c = k.lastMention files layers ↔
            (k.lastMention files layers = k.value standard →
              ∀ v ∈ k.mentions files layers, v = k.value standard))) := by
  obtain ⟨layers, hlayers, hsum⟩ := exists_layersOf (load_eq_ok_iff.mp hload).1
  refine ⟨layers, hlayers, fun others hothers => hothers.unique hlayers, fun k => ?_⟩
  have hvalue := (value_of_agrees hsum k).trans (k.value_sum (layers.map Layer.contents))
  have hcontents : (layers.map Layer.contents).map k.value =
      layers.map fun l => (k.writtenOn? files l).getD (k.value standard) := by
    simpa using List.map_congr_left (value_contents hlayers k)
  rw [hcontents] at hvalue
  constructor
  · intro hreplaced
    obtain ⟨below, own, rfl⟩ := hlayers.exists_concat
    have hown : k.value c = (k.writtenIn? files path).getD (k.value standard) := by
      rw [hvalue, if_pos hreplaced, List.map_append, List.map_singleton, List.getLast?_concat]
      rfl
    refine ⟨hown, ?_⟩
    rw [hown]
    cases hwritten : k.writtenIn? files path with
    | none => simp [eq_comm]
    | some v =>
        have hlast : k.lastMention files (below ++ [.file path own]) = v := by
          simp [lastMention, mentions, writtenOn?, hwritten, List.filterMap_append]
        simp [hlast]
  · intro hkept
    have hother : k.value c = k.lastOther (k.mentions files layers) := by
      rw [hvalue, if_neg (by simp [hkept]), lastOther_map_getD]
      rfl
    refine ⟨hother, ?_⟩
    rw [hother]
    exact k.lastOther_eq_last_iff (k.mentions files layers)

/-- What was set stays and what was left out comes back. -/
theorem value_load_takenBack :
    ∃ c, load takenBackFiles "child.json" = .ok c ∧ jobs.value c = (4 : Nat) ∧
      parallel.value c = true := by
  obtain ⟨c, hc⟩ := exists_load_takenBackFiles
  obtain ⟨layers, -, hunique, hvalue⟩ := value_load hc
  obtain rfl := hunique _ layersOf_takenBackFiles
  refine ⟨c, hc, ?_, ?_⟩
  · rw [((hvalue jobs).2 rfl).1]
    rfl
  · rw [((hvalue parallel).1 rfl).1]
    rfl

/-- Neither of the two settings is what is written last. -/
theorem value_ne_lastMention_takenBack :
    ∃ c layers, load takenBackFiles "child.json" = .ok c ∧
      LayersOf (readFile takenBackFiles) "child.json" layers ∧
      parallel.lastMention takenBackFiles layers = false ∧ parallel.value c = true ∧
      jobs.lastMention takenBackFiles layers = (0 : Nat) ∧ jobs.value c = (4 : Nat) := by
  obtain ⟨c, hc⟩ := exists_load_takenBackFiles
  have hengine : (load takenBackFiles "child.json").toOption.map Config.engine =
      some ⟨true, 4, false⟩ := by
    decide +kernel
  rw [hc] at hengine
  have hc' : c.engine = ⟨true, 4, false⟩ := Option.some.inj hengine
  refine ⟨c, _, hc, layersOf_takenBackFiles, rfl, ?_, rfl, ?_⟩ <;> rw [value, hc']

end Field

end Config
end TreeLint
