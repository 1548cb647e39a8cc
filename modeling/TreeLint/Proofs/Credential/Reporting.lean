import TreeLint.Proofs.Credential.Pair
import TreeLint.Proofs.Text.Casing

/-!
# Words that are reported

The words found in a name are compared with the set after lower-casing, so they belong to it. The
word of a pair is found regardless of case and reported in lower case, and these are two different
things: a text can spell a word of the set and have a lower case that is no word of the set.

**Results.**
* `has_parse_lower_iff`: a lower-case text is in a parsed set just if it is one of its words.
* `lower_eq_of_spells`: a text without a long s that spells an ASCII word has it as its lower case.
* `find_reports_words`: what is reported.
-/

namespace TreeLint
namespace Credential

open Text

namespace WordSet

variable {list : String} {set : WordSet} {name value word seen w : List Char} {p : Pair}

/-! ## Words of a list -/

/-- The words of a list are the lower cases of its trimmed items. -/
theorem exists_item_of_mem_words (h : w ∈ (parse list).words) :
    ∃ item ∈ splitOn ',' list.toList, w = lower (trim item) := by
  have hmem : w ∈ (listItems lower list.toList).filter fun w => !w.isEmpty :=
    ((mem_addNew _ _).mp h).resolve_left List.not_mem_nil
  obtain ⟨item, hitem, rfl⟩ := List.mem_map.mp (List.mem_filter.mp hmem).1
  exact ⟨item, hitem, rfl⟩

theorem has_parse_lower_iff {part : List Char} :
    (parse list).has (lower part) = true ↔ lower part ∈ (parse list).words := by
  rw [has, List.any_eq_true]
  constructor
  · rintro ⟨w, hw, hsame⟩
    obtain ⟨item, -, rfl⟩ := exists_item_of_mem_words hw
    rwa [← sameAscii_lower_iff.mp hsame]
  · exact fun hw => ⟨_, hw, sameAscii_lower_iff.mpr rfl⟩

/-- The words of an ASCII list are small ASCII texts. -/
theorem small_of_mem_words (hlist : ∀ c ∈ list.toList, IsAscii c) (h : w ∈ (parse list).words) :
    ∀ c ∈ w, IsAscii c ∧ fold c = c := by
  obtain ⟨item, hitem, rfl⟩ := exists_item_of_mem_words h
  have hascii : ∀ c ∈ trim item, IsAscii c :=
    fun c hc => hlist c (mem_of_mem_splitOn hitem (mem_of_mem_trim hc))
  rw [lower_eq_map_fold hascii]
  intro c hc
  obtain ⟨d, hd, rfl⟩ := List.mem_map.mp hc
  exact (hascii d hd).casing.2.2

/-! ## Words of a value -/

/-- A text that spells a small ASCII word has it as its lower case, unless it has a long s. -/
theorem lower_eq_of_spells (hspells : Spells word seen) (hword : ∀ c ∈ word, IsAscii c ∧ fold c = c)
    (hseen : 'ſ' ∉ seen) : lower seen = word := by
  apply lower_eq_of_forall₂
  induction hspells with
  | nil => exact .nil
  | @cons w c word seen hsame _ ih =>
      obtain ⟨hw, hword⟩ := List.forall_mem_cons.mp hword
      rw [List.mem_cons, not_or] at hseen
      exact .cons (lowerChar_eq_of_sameLetter hw.1 hw.2 hsame (Ne.symm hseen.1)) (ih hword hseen.2)

/-- The leftmost pair of a value spells a word of the set there. -/
theorem exists_spells_of_leftmost (h : Leftmost set.PairAt value p) :
    ∃ word ∈ set.words, Spells word p.word ∧ p.word <:+: value := by
  obtain ⟨before, rest, rfl, ⟨-, earlier, word, later, hwords, ⟨after, hassigns, -⟩, -⟩, -⟩ := h
  obtain ⟨hspells, gap, sign, rfl, -, -⟩ := hassigns
  refine ⟨word, by simp [hwords], hspells, before, gap ++ sign :: after, ?_⟩
  simp only [List.append_assoc]

/-! ## What is reported -/

theorem nodup_find (set : WordSet) (name value : List Char) : (set.find name value).Nodup := by
  by_cases h : set.Restates name value
  · rw [find_of_restates h]
    exact List.nodup_nil
  · rw [find_of_not_restates h]
    exact nodup_addNew (nodup_addNew List.nodup_nil _) _

/-- A word reported for the name is one of the set, and one reported for the value is the lower case
of a text there that spells one. -/
theorem mem_words_or_spelled (h : w ∈ (parse list).find name value) :
    w ∈ (parse list).words ∨
      ∃ word ∈ (parse list).words, ∃ seen, Spells word seen ∧ seen <:+: value ∧ w = lower seen := by
  by_cases hrestates : (parse list).Restates name value
  · rw [find_of_restates hrestates] at h
    cases h
  · rw [find_of_not_restates hrestates, mem_addNew] at h
    rcases h with h | h
    · obtain ⟨part, -, rfl, hhas⟩ := mem_inName_iff.mp h
      exact .inl (has_parse_lower_iff.mp hhas)
    · obtain ⟨p, hleftmost, -, rfl⟩ := mem_inValue_iff.mp h
      obtain ⟨word, hword, hspells, hwithin⟩ := exists_spells_of_leftmost hleftmost
      exact .inr ⟨word, hword, p.word, hspells, hwithin, rfl⟩

/-- Each reported word is reported once, and none if the value restates a word of the name. A
reported word is one of the set, or the lower case of a text in the value that spells one. Of an
ASCII list only words of the set are reported, unless the value has a long s. -/
theorem find_reports_words (list : String) (name value : List Char) :
    let set := parse list
    let found := set.find name value
    found.Nodup ∧
      (found ≠ [] → ∀ w ∈ set.words, w ∈ (camelWords name).map lower → ¬ w <:+: lower value) ∧
      (∀ w ∈ found, w ∈ set.words ∨
        ∃ word ∈ set.words, ∃ seen, Spells word seen ∧ seen <:+: value ∧ w = lower seen) ∧
      ((∀ c ∈ list.toList, IsAscii c) → 'ſ' ∉ value → ∀ w ∈ found, w ∈ set.words) := by
  intro set found
  refine ⟨nodup_find set name value, ?_, fun _ => mem_words_or_spelled, ?_⟩
  · intro hne w hw hnamed hwithin
    obtain ⟨part, hpart, rfl⟩ := List.mem_map.mp hnamed
    exact hne (find_of_restates ⟨part, hpart, has_parse_lower_iff.mpr hw, hwithin⟩)
  · intro hlist hvalue w hw
    rcases mem_words_or_spelled hw with hmem | ⟨word, hword, seen, hspells, hwithin, rfl⟩
    · exact hmem
    · have hseen : 'ſ' ∉ seen := fun hmem => hvalue (hwithin.subset hmem)
      rwa [lower_eq_of_spells hspells (small_of_mem_words hlist hword) hseen]

/-- A word is spelled with a long s, beside the same word in the name. -/
theorem find_longS :
    let set := parse "password"
    let value := "paſſword=abc".toList
    set.words = ["password".toList] ∧
      set.find "password".toList value = ["password".toList, "paſſword".toList] ∧
      "paſſword".toList ∉ set.words := by
  decide +kernel

end WordSet
end Credential
end TreeLint
