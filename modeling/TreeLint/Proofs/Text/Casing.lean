import Mathlib.Data.List.Forall2
import TreeLint.Text.Folding
import TreeLint.Text.Lowercase
import TreeLint.Text.Piece

/-!
# Letters and their cases

Lower-casing maps a text to one whose ASCII letters are small, so that such texts are told apart
even by a comparison that ignores the case of ASCII letters. Folding joins letters that
lower-casing keeps apart. Among the letters that fold to an ASCII character there is one such
letter, the long s.

**Results.**
* `sameAscii_lower_iff`: lower-case texts are the same regardless of ASCII case only if equal.
* `IsAscii.casing`: what lower-casing and folding do to ASCII characters.
* `lowerChar_eq_of_sameLetter`: a character that folds like a small ASCII character, and is no long
  s, has that character as its lower case.
-/

namespace TreeLint
namespace Text

/-! ## Tables -/

variable {table : List Shift} {n k : Nat}

/-- A code point stays as it is, or lies in a run of the table and is shifted with it. -/
theorem shift_eq_or (table : List Shift) (n : Nat) :
    shift table n = n ∨
      ∃ s ∈ table, s.run.has n = true ∧ shift table n = s.target + (n - s.run.first) := by
  induction table with
  | nil => exact .inl rfl
  | cons s table ih =>
      rw [shift]
      split
      · exact .inl rfl
      · split
        · next hhas => exact .inr ⟨s, List.mem_cons_self, hhas, rfl⟩
        · rcases ih with hsame | ⟨t, ht, hhas, hshift⟩
          · exact .inl hsame
          · exact .inr ⟨t, List.mem_cons_of_mem s ht, hhas, hshift⟩

theorem Run.first_le {r : Run} (h : r.has n = true) : r.first ≤ n ∧ n ≤ r.last := by
  rw [Run.has, Bool.and_eq_true, Bool.and_eq_true, decide_eq_true_iff, decide_eq_true_iff] at h
  exact h.1

theorem exists_run_of_inRuns {runs : List Run} (h : inRuns runs n = true) :
    ∃ r ∈ runs, r.has n = true := by
  induction runs with
  | nil => cases h
  | cons r runs ih =>
      rw [inRuns] at h
      split at h
      · cases h
      · rcases Bool.or_eq_true_iff.mp h with hr | hrest
        · exact ⟨r, List.mem_cons_self, hr⟩
        · obtain ⟨t, ht, hn⟩ := ih hrest
          exact ⟨t, List.mem_cons_of_mem r ht, hn⟩

/-- A table whose shifted runs hold characters only. -/
def HoldsChars (table : List Shift) : Prop :=
  ∀ s ∈ table, s.target + (s.run.last - s.run.first) < 0xD800 ∨
    0xDFFF < s.target ∧ s.target + (s.run.last - s.run.first) < 0x110000

theorem holdsChars_lowerShifts : HoldsChars lowerShifts := by
  unfold HoldsChars
  decide +kernel

theorem holdsChars_foldShifts : HoldsChars foldShifts := by
  unfold HoldsChars
  decide +kernel

theorem HoldsChars.isValidChar_shift (h : HoldsChars table) (hn : n.isValidChar) :
    (shift table n).isValidChar := by
  rcases shift_eq_or table n with hsame | ⟨s, hs, hhas, hshift⟩
  · rw [hsame]
    exact hn
  · have hrange := Run.first_le hhas
    rw [hshift]
    rcases h s hs with hlow | hhigh
    · exact .inl (by omega)
    · exact .inr (by omega)

theorem HoldsChars.toNat_shiftChar (h : HoldsChars table) (c : Char) :
    (shiftChar table c).toNat = shift table c.toNat := by
  have hvalid : (shift table c.toNat).isValidChar := h.isValidChar_shift c.valid
  rw [shiftChar, Char.ofNat, dif_pos hvalid]
  rfl

/-! ## Lower case -/

variable {c d : Char} {cs : List Char}

/-- A capital ASCII letter. -/
def IsCapital (c : Char) : Prop :=
  0x41 ≤ c.toNat ∧ c.toNat ≤ 0x5A

theorem toLower_of_not_isCapital (h : ¬ IsCapital c) : c.toLower = c := by
  refine dif_neg fun hcapital => h ?_
  exact ⟨UInt32.le_iff_toNat_le.mp hcapital.1, UInt32.le_iff_toNat_le.mp hcapital.2⟩

theorem not_isCapital_of_mem_lowerChar (h : d ∈ lowerChar c) : ¬ IsCapital d := by
  have hsmall : ∀ m < 0x5B, 0x41 ≤ m → shift lowerShifts m ≠ m := by decide
  have htargets : ∀ s ∈ lowerShifts, 0x61 ≤ s.target := by decide +kernel
  rw [lowerChar] at h
  split at h
  · rcases List.mem_pair.mp h with rfl | rfl <;> unfold IsCapital <;> decide
  · rw [List.mem_singleton.mp h, IsCapital, holdsChars_lowerShifts.toNat_shiftChar]
    rintro ⟨hlow, hhigh⟩
    rcases shift_eq_or lowerShifts c.toNat with hsame | ⟨s, hs, -, hshift⟩
    · rw [hsame] at hlow hhigh
      exact hsmall c.toNat (by omega) hlow hsame
    · have htarget := htargets s hs
      omega

/-- A lower-case text has no capital ASCII letter. -/
theorem not_isCapital_of_mem_lowerAfter {before : List Char} (h : d ∈ lowerAfter before cs) :
    ¬ IsCapital d := by
  induction cs generalizing before with
  | nil => cases h
  | cons c cs ih =>
      rw [lowerAfter] at h
      split at h
      · rcases List.mem_cons.mp h with rfl | h
        · unfold IsCapital
          split <;> decide
        · exact ih h
      · rcases List.mem_append.mp h with h | h
        · exact not_isCapital_of_mem_lowerChar h
        · exact ih h

@[simp] theorem map_toLower_lower (cs : List Char) : (lower cs).map Char.toLower = lower cs :=
  calc (lower cs).map Char.toLower = (lower cs).map id :=
        List.map_congr_left fun _ hc =>
          toLower_of_not_isCapital (not_isCapital_of_mem_lowerAfter hc)
    _ = lower cs := List.map_id _

/-- Lower-case texts are told apart even regardless of the case of ASCII letters. -/
theorem sameAscii_lower_iff {a b : List Char} :
    sameAscii (lower a) (lower b) = true ↔ lower a = lower b := by
  simp [sameAscii]

/-! ## ASCII characters and the letters that fold to them -/

/-- A character of the ASCII range. -/
def IsAscii (c : Char) : Prop :=
  c.toNat < 128

theorem IsAscii.casing (h : IsAscii c) :
    c ≠ 'Σ' ∧ lowerChar c = [fold c] ∧ IsAscii (fold c) ∧ fold (fold c) = fold c := by
  have hall : ∀ n < 128, Char.ofNat n ≠ 'Σ' ∧ lowerChar (Char.ofNat n) = [fold (Char.ofNat n)] ∧
      (fold (Char.ofNat n)).toNat < 128 ∧ fold (fold (Char.ofNat n)) = fold (Char.ofNat n) := by
    decide +kernel
  have hc := hall c.toNat h
  rwa [Char.ofNat_toNat] at hc

/-- Three letters fold to ASCII characters without being the same: the capital ASCII letters, the
long s and the kelvin sign. -/
theorem isAscii_of_isAscii_fold (h : IsAscii (fold c)) : IsAscii c ∨ c = 'ſ' ∨ c = '\u212A' := by
  have htable : ∀ s ∈ foldShifts, s.target < 128 →
      s.run.last < 128 ∨ s.run = ⟨0x17F, 0x17F, 1⟩ ∨ s.run = ⟨0x212A, 0x212A, 1⟩ := by
    decide +kernel
  have heq {d : Char} (hd : c.toNat = d.toNat) : c = d := by
    rw [← Char.ofNat_toNat c, hd, Char.ofNat_toNat]
  rw [IsAscii, fold, holdsChars_foldShifts.toNat_shiftChar] at h
  rcases shift_eq_or foldShifts c.toNat with hsame | ⟨s, hs, hhas, hshift⟩
  · rw [hsame] at h
    exact .inl h
  · have hrange := Run.first_le hhas
    rcases htable s hs (by omega) with hlast | hrun | hrun
    · exact .inl (Nat.lt_of_le_of_lt hrange.2 hlast)
    · rw [hrun] at hrange
      exact .inr (.inl (heq (Nat.le_antisymm hrange.2 hrange.1)))
    · rw [hrun] at hrange
      exact .inr (.inr (heq (Nat.le_antisymm hrange.2 hrange.1)))

/-- A character that folds like a small ASCII character has it as its lower case, unless it is the
long s. -/
theorem lowerChar_eq_of_sameLetter {w : Char} (hw : IsAscii w) (hsmall : fold w = w)
    (h : sameLetter w c = true) (hc : c ≠ 'ſ') : c ≠ 'Σ' ∧ lowerChar c = [w] := by
  have hfold : fold c = w := by
    rw [← hsmall]
    exact (beq_iff_eq.mp h).symm
  rcases isAscii_of_isAscii_fold (hfold.symm ▸ hw) with hascii | rfl | rfl
  · obtain ⟨hsigma, hlower, -⟩ := hascii.casing
    exact ⟨hsigma, by rw [hlower, hfold]⟩
  · exact absurd rfl hc
  · rw [← hfold]
    decide +kernel

/-- The lower case of a text whose characters have one-letter lower cases by themselves. -/
theorem lower_eq_of_forall₂ {word : List Char}
    (h : List.Forall₂ (fun w c => c ≠ 'Σ' ∧ lowerChar c = [w]) word cs) : lower cs = word := by
  suffices hafter : ∀ before, lowerAfter before cs = word from hafter []
  induction h with
  | nil => exact fun _ => rfl
  | cons hc _ ih =>
      intro before
      simp [lowerAfter, if_neg hc.1, hc.2, ih]

theorem lower_eq_map_fold (h : ∀ c ∈ cs, IsAscii c) : lower cs = cs.map fold := by
  apply lower_eq_of_forall₂
  rw [List.forall₂_map_left_iff, List.forall₂_same]
  exact fun c hc => ⟨(h c hc).casing.1, (h c hc).casing.2.1⟩

end Text
end TreeLint
