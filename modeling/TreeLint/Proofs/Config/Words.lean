import TreeLint.Engine.Session
import TreeLint.Proofs.Config.Parameters

/-!
# Words that are replaced in a configuration

A list of credential words replaces the words of a configuration and leaves its other parameters as
they are. So in whatever order the parameters are read then, the settings are those that there were,
with the new words, if the names of each limit come in the order in which they came before. They do
if no limit is given under both of its names.

**Results.**
* `Config.GivesLimitsOnce.sameTurns`, `Config.exists_sameTurns`: when the names of each limit come
  in the same order.
* `Config.readParameters_withWords`: the settings after words were accepted.
* `Config.readParameters_of_refused`: words that are refused are refused in a configuration too.
-/

namespace TreeLint
namespace Config

open Rule

variable {refusal : Refusal} {c : Config} {s t : Settings} {last : Option String} {list : String}
  {visits others : List (String × Setting)}

/-! ## The other parameters -/

theorem eq_of_perm_of_length_le_one {α : Type} {l l' : List α} (h : l.Perm l')
    (hlength : l'.length ≤ 1) : l = l' := by
  match l' with
  | [] => exact h.eq_nil
  | [a] => exact List.perm_singleton.mp h
  | a :: b :: rest => simp at hlength

/-- The words that replace others stand beside the other parameters. -/
theorem toList_withWords (c : Config) (list : String) :
    (c.withWords (some list)).parameters.toList.Perm
      ((wordsKey, .text list) :: c.parameters.toList.filter fun p => p.1 != wordsKey) := by
  have hfilter : (fun p : String × Setting => p.1 != wordsKey) =
      fun p => decide ¬(wordsKey == p.1) = true := by
    funext p
    by_cases hp : wordsKey = p.1
    · simp [hp]
    · simp [hp, Ne.symm hp]
  rw [hfilter]
  exact Std.TreeMap.toList_insert_perm

theorem under_filter_ne {keys : List String} (hkeys : wordsKey ∉ keys)
    (visits : List (String × Setting)) :
    under keys (visits.filter fun p => p.1 != wordsKey) = under keys visits := by
  induction visits with
  | nil => rfl
  | cons p visits ih =>
      by_cases hwords : p.1 = wordsKey
      · rw [List.filter_cons_of_neg (by simpa using hwords), ih,
          under_cons_of_not_mem (hwords ▸ hkeys)]
      · by_cases hkey : p.1 ∈ keys <;> simp [hwords, hkey, ih]

/-- The limits that are given do not depend on the words. -/
theorem under_withWords {keys : List String} (hkeys : wordsKey ∉ keys) (c : Config)
    (last : Option String) :
    (under keys (c.withWords last).parameters.toList).Perm (under keys c.parameters.toList) := by
  cases last with
  | none => exact .refl _
  | some list =>
      have hperm := under_perm (toList_withWords c list) keys
      rwa [under_cons_of_not_mem hkeys, under_filter_ne hkeys] at hperm

/-- Each parameter is given once. -/
theorem length_under_words (c : Config) : (under [wordsKey] c.parameters.toList).length ≤ 1 := by
  have hdistinct : (under [wordsKey] c.parameters.toList).Pairwise fun p q => p.1 ≠ q.1 :=
    (Std.TreeMap.distinct_keys_toList.imp fun h => by simpa using h).filter _
  have hkey : ∀ p ∈ under [wordsKey] c.parameters.toList, p.1 = wordsKey := by
    simp [under]
  cases hunder : under [wordsKey] c.parameters.toList with
  | nil => simp
  | cons p rest =>
      cases rest with
      | nil => simp
      | cons q rest =>
          rw [hunder] at hdistinct hkey
          have hne := (List.pairwise_cons.mp hdistinct).1 q (by simp)
          exact absurd ((hkey p (by simp)).trans (hkey q (by simp)).symm) hne

theorem GivesLimitsOnce.sameTurns (h : c.GivesLimitsOnce) (hvisits : c.IsVisit visits)
    (hothers : (c.withWords last).IsVisit others) : SameTurns visits others := by
  have hturns : ∀ keys, wordsKey ∉ keys → (under keys c.parameters.toList).length ≤ 1 →
      under keys others = under keys visits := by
    intro keys hkeys hlength
    have hperm := (under_perm hothers keys).trans (under_withWords hkeys c last)
    have hvisited := under_perm hvisits keys
    rw [eq_of_perm_of_length_le_one hperm hlength, eq_of_perm_of_length_le_one hvisited hlength]
  exact ⟨hturns _ (not_mem_classLimitKeys_of_eq rfl) h.maxInClass,
    hturns _ (not_mem_methodLimitKeys_of_eq rfl) h.maxInMethod⟩

/-- After words are replaced, the names of each limit may still come in the same order. -/
theorem exists_sameTurns (hvisits : c.IsVisit visits) (last : Option String) :
    ∃ others, (c.withWords last).IsVisit others ∧ SameTurns visits others := by
  cases last with
  | none => exact ⟨visits, hvisits, rfl, rfl⟩
  | some list =>
      refine ⟨(wordsKey, .text list) :: visits.filter fun p => p.1 != wordsKey, ?_, ?_⟩
      · exact ((hvisits.filter _).cons _).trans (toList_withWords c list).symm
      · have hclass := not_mem_classLimitKeys_of_eq (Eq.refl wordsKey)
        have hmethod := not_mem_methodLimitKeys_of_eq (Eq.refl wordsKey)
        exact ⟨by rw [under_cons_of_not_mem hclass, under_filter_ne hclass],
          by rw [under_cons_of_not_mem hmethod, under_filter_ne hmethod]⟩

/-! ## Settings after words are replaced -/

/-- Settings with the words that were accepted last. -/
inductive HasWords (refusal : Refusal) (s : Settings) : Option String → Settings → Prop
  | unchanged : HasWords refusal s none s
  | replaced {list : String} {words : Credential.WordSet} :
      parseWords refusal list = .ok words →
      HasWords refusal s (some list) { s with words := words }

@[simp] theorem readParameter_text (refusal : Refusal) (s : Settings) (list : String) :
    readParameter refusal s (wordsKey, .text list) =
      (parseWords refusal list).map fun words => { s with words := words } :=
  readParameter_words rfl

@[simp] theorem wordsGiven?_text (refusal : Refusal) (list : String) :
    wordsGiven? refusal (wordsKey, .text list) = (parseWords refusal list).toOption :=
  wordsGiven?_of_eq rfl

theorem isValid_text {words : Credential.WordSet} (h : parseWords refusal list = .ok words) :
    IsValid refusal (wordsKey, .text list) where
  words := fun _ => by rw [wordsGiven?_text, h]; rfl
  maxInClass := (absurd · (not_mem_classLimitKeys_of_eq rfl))
  maxInMethod := (absurd · (not_mem_methodLimitKeys_of_eq rfl))

/-- Once words are replaced, they are all the words that are given. -/
theorem under_words (hothers : (c.withWords (some list)).IsVisit others) :
    under [wordsKey] others = [(wordsKey, .text list)] := by
  have hperm := under_perm (hothers.trans (toList_withWords c list)) [wordsKey]
  have hrest : under [wordsKey] (c.parameters.toList.filter fun p => p.1 != wordsKey) = [] := by
    simp [under]
  rw [under_cons_of_mem (p := (wordsKey, .text list)) (List.mem_singleton.mpr rfl), hrest] at hperm
  exact List.perm_singleton.mp hperm

theorem HasWords.replace {words : Credential.WordSet} (h : HasWords refusal s last t)
    (hwords : parseWords refusal list = .ok words) :
    HasWords refusal s (some list) { t with words := words } := by
  cases h with
  | unchanged => exact .replaced hwords
  | replaced _ => exact .replaced hwords

/-- Once words are replaced, the parameters besides the words are as they were. -/
theorem eq_or_mem_of_mem (hothers : (c.withWords (some list)).IsVisit others)
    {p : String × Setting} (hmem : p ∈ others) :
    p = (wordsKey, .text list) ∨ p ∈ c.parameters.toList := by
  have hperm := hothers.trans (toList_withWords c list)
  rcases List.mem_cons.mp (hperm.mem_iff.mp hmem) with hp | hp
  · exact .inl hp
  · exact .inr (List.mem_filter.mp hp).1

/-- The settings of a configuration in which words were replaced are those that it had, with the
words that were accepted last, if the names of each limit come in the same order. -/
theorem readParameters_withWords (hvisits : c.IsVisit visits)
    (h : readParameters refusal visits = .ok s) (ht : HasWords refusal s last t)
    (hothers : (c.withWords last).IsVisit others) (hturns : SameTurns visits others) :
    readParameters refusal others = .ok t := by
  obtain ⟨hvalid, rfl⟩ := readParameters_eq_ok_iff.mp h
  rw [readParameters_eq_ok_iff]
  cases ht with
  | unchanged =>
      have hwords : under [wordsKey] others = under [wordsKey] visits :=
        eq_of_perm_of_length_le_one (under_perm (hothers.trans hvisits.symm) _)
          ((under_perm hvisits _).length_eq ▸ length_under_words c)
      refine ⟨fun p hp => hvalid p ((hothers.trans hvisits.symm).mem_iff.mp hp), ?_⟩
      rw [foldl_settingsWith_of_sameTurns hturns rfl, words_foldl_settingsWith, hwords,
        ← words_foldl_settingsWith]
  | @replaced list words hwords =>
      refine ⟨fun p hp => ?_, foldl_settingsWith_of_sameTurns hturns ?_⟩
      · rcases eq_or_mem_of_mem hothers hp with rfl | hmem
        · exact isValid_text hwords
        · exact hvalid p (hvisits.mem_iff.mpr hmem)
      · rw [words_foldl_settingsWith, under_words hothers, List.foldl_cons, List.foldl_nil,
          wordsGiven?_text, hwords]
        rfl

/-- A configuration with words that are refused is refused for the same reason. -/
theorem readParameters_of_refused {cause : ConfigError} (hvisits : c.IsVisit visits)
    (h : readParameters refusal visits = .ok s) (hcause : parseWords refusal list = .error cause)
    (hothers : (c.withWords (some list)).IsVisit others) :
    readParameters refusal others = .error cause := by
  have hmem : (wordsKey, .text list) ∈ others :=
    (hothers.trans (toList_withWords c list)).mem_iff.mpr List.mem_cons_self
  refine foldlM_readParameter_eq_error hmem (fun s => ?_) (fun p hp hne => ?_)
  · rw [readParameter_text, hcause]
    rfl
  · have hold := (eq_or_mem_of_mem hothers hp).resolve_left hne
    exact (readParameters_eq_ok_iff.mp h).1 p (hvisits.mem_iff.mpr hold)

end Config
end TreeLint
