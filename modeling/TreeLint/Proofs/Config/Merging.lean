import TreeLint.Config.Merge
import TreeLint.Config.Settings
import TreeLint.Proofs.Joining

/-!
# Merging configurations

Configurations are compared by what they say; a map says what it holds for each key. Up to that,
merging is associative, whatever rule a field follows: the later value counts, or counts unless it
is the standard one, lists grow with or without repetition, maps are joined. So a sequence of
configurations has one sum, however its parts are put together.

**Results.**
* `Config.merge_assoc`: merging is associative.
* `Config.merge_foldl`: a sum put on top of a configuration.
* `Config.settings_congr`: configurations with the same parameters have the same settings.
-/

namespace TreeLint
namespace Config

/-- Two configurations that say the same. -/
structure Agrees (a b : Config) : Prop where
  bases : a.bases = b.bases
  engine : a.engine = b.engine
  output : a.output = b.output
  files : a.files = b.files
  disabled : a.rules.disabled = b.rules.disabled
  enabled : a.rules.enabled = b.rules.enabled
  only : a.rules.only = b.rules.only
  severity : ∀ id : String, a.rules.severity[id]? = b.rules.severity[id]?
  perFile : ∀ pattern : String, a.rules.perFile[pattern]? = b.rules.perFile[pattern]?
  parameters : ∀ key : String, a.parameters[key]? = b.parameters[key]?

/-! ## What single fields say after merging -/

theorem unlessStandard_assoc {α : Type} [BEq α] [LawfulBEq α] (standard a b c : α) :
    unlessStandard standard (unlessStandard standard a b) c =
      unlessStandard standard a (unlessStandard standard b c) := by
  unfold unlessStandard
  cases hc : c == standard with
  | true => simp only [if_true]
  | false => simp only [hc, Bool.false_eq_true, if_false]

theorem EngineOptions.merge_assoc (a b c : EngineOptions) :
    (a.merge b).merge c = a.merge (b.merge c) := by
  simp only [EngineOptions.merge, unlessStandard_assoc]

theorem OutputOptions.merge_assoc (a b c : OutputOptions) :
    (a.merge b).merge c = a.merge (b.merge c) := by
  simp only [OutputOptions.merge, unlessStandard_assoc]

theorem FileOptions.merge_assoc (a b c : FileOptions) :
    (a.merge b).merge c = a.merge (b.merge c) := by
  simp only [FileOptions.merge, addNew_assoc]

@[simp] theorem getElem?_severity_merge (a b : RuleOptions) (id : String) :
    (a.merge b).severity[id]? = b.severity[id]?.or a.severity[id]? :=
  Std.TreeMap.getElem?_union

theorem addIgnored_eq_put : addIgnored = Joining.put (· ++ ·) [] :=
  rfl

@[simp] theorem getElem?_perFile_merge (a b : RuleOptions) (pattern : String) :
    (a.merge b).perFile[pattern]? =
      Option.merge (· ++ ·) a.perFile[pattern]? b.perFile[pattern]? := by
  rw [RuleOptions.merge, addIgnored_eq_put, Joining.getElem?_foldl_put List.nil_append]

@[simp] theorem getElem?_parameters_merge (a b : Config) (key : String) :
    (a.merge b).parameters[key]? = b.parameters[key]?.or a.parameters[key]? :=
  Std.TreeMap.getElem?_union

/-- The settings of the rules are read from the parameters. -/
theorem settingsUnder_congr (refusal : Refusal) {a b : Config}
    (h : ∀ key : String, a.parameters[key]? = b.parameters[key]?) :
    a.settingsUnder refusal = b.settingsUnder refusal := by
  rw [settingsUnder, settingsUnder, (Std.TreeMap.Equiv.of_forall_constGet?_eq h).toList_eq]

/-! ## Merging as a semigroup -/

namespace Agrees

variable {a b c d : Config}

theorem refl (a : Config) : Agrees a a :=
  ⟨rfl, rfl, rfl, rfl, rfl, rfl, rfl, fun _ => rfl, fun _ => rfl, fun _ => rfl⟩

theorem symm (h : Agrees a b) : Agrees b a where
  bases := h.bases.symm
  engine := h.engine.symm
  output := h.output.symm
  files := h.files.symm
  disabled := h.disabled.symm
  enabled := h.enabled.symm
  only := h.only.symm
  severity := fun id => (h.severity id).symm
  perFile := fun pattern => (h.perFile pattern).symm
  parameters := fun key => (h.parameters key).symm

theorem trans (h : Agrees a b) (k : Agrees b c) : Agrees a c where
  bases := h.bases.trans k.bases
  engine := h.engine.trans k.engine
  output := h.output.trans k.output
  files := h.files.trans k.files
  disabled := h.disabled.trans k.disabled
  enabled := h.enabled.trans k.enabled
  only := h.only.trans k.only
  severity := fun id => (h.severity id).trans (k.severity id)
  perFile := fun pattern => (h.perFile pattern).trans (k.perFile pattern)
  parameters := fun key => (h.parameters key).trans (k.parameters key)

theorem merge (h : Agrees a b) (k : Agrees c d) : Agrees (a.merge c) (b.merge d) where
  bases := h.bases
  engine := by simp only [Config.merge, h.engine, k.engine]
  output := by simp only [Config.merge, h.output, k.output]
  files := by simp only [Config.merge, h.files, k.files]
  disabled := by simp only [Config.merge, RuleOptions.merge, h.disabled, k.disabled]
  enabled := by simp only [Config.merge, RuleOptions.merge, h.enabled, k.enabled]
  only := by simp only [Config.merge, RuleOptions.merge, h.only, k.only]
  severity := by
    intro id
    simp only [Config.merge, getElem?_severity_merge, h.severity, k.severity]
  perFile := by
    intro pattern
    simp only [Config.merge, getElem?_perFile_merge, h.perFile, k.perFile]
  parameters := by
    intro key
    simp only [getElem?_parameters_merge, h.parameters, k.parameters]

end Agrees

theorem merge_assoc (a b c : Config) : Agrees ((a.merge b).merge c) (a.merge (b.merge c)) where
  bases := rfl
  engine := EngineOptions.merge_assoc _ _ _
  output := OutputOptions.merge_assoc _ _ _
  files := FileOptions.merge_assoc _ _ _
  disabled := List.append_assoc _ _ _
  enabled := List.append_assoc _ _ _
  only := unlessStandard_assoc _ _ _ _
  severity := by
    intro id
    simp only [merge, getElem?_severity_merge, Option.or_assoc]
  perFile := by
    intro pattern
    simp only [merge, getElem?_perFile_merge]
    exact Std.Associative.assoc _ _ _
  parameters := by
    intro key
    simp only [getElem?_parameters_merge, Option.or_assoc]

/-! ## Sums of configurations -/

/-- Configurations on top of each other, each one on top of those before it. -/
def sum : List Config → Config
  | [] => standard
  | c :: rest => rest.foldl merge c

theorem Agrees.foldl_merge {a b : Config} (h : Agrees a b) (rest : List Config) :
    Agrees (rest.foldl Config.merge a) (rest.foldl Config.merge b) := by
  induction rest generalizing a b with
  | nil => exact h
  | cons c rest ih => exact ih (h.merge (Agrees.refl c))

/-- A sum on top of a configuration is the configuration with the parts of the sum on top. -/
theorem merge_foldl (a b : Config) (rest : List Config) :
    Agrees (a.merge (rest.foldl merge b)) (rest.foldl merge (a.merge b)) := by
  induction rest generalizing b with
  | nil => exact Agrees.refl _
  | cons c rest ih =>
      have hassoc : Agrees (a.merge (b.merge c)) ((a.merge b).merge c) := (merge_assoc a b c).symm
      exact (ih (b.merge c)).trans (hassoc.foldl_merge rest)

/-- A sum with another sum on top is the sum of all parts. -/
theorem merge_sum (a : Config) {cs : List Config} (h : cs ≠ []) :
    Agrees (a.merge (sum cs)) (cs.foldl merge a) := by
  cases cs with
  | nil => exact absurd rfl h
  | cons c cs => exact merge_foldl a c cs

end Config
end TreeLint
