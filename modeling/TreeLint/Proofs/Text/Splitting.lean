import Mathlib.Data.List.Basic
import TreeLint.Proofs.Selection
import TreeLint.Text.CamelCase

/-!
# Where a compound identifier is split

The words of an identifier are its letters, cut into pieces. Which piece a letter stands in is told
by how many letters stand in front of it, so that two places of the identifier can be asked whether
their letters stand in one word. A character put in front of a text renumbers the words of all
places alike, and the cuts are found from this by induction.

**Results.**
* `LetterClasses.flatten_words`: no letter is lost or repeated.
* `LetterClasses.wordAt?_cons_skipped`, `LetterClasses.wordAt?_cons_joined`,
  `LetterClasses.wordAt?_cons_cut`: what one more character in front does to the words of the
  places behind it.
* `LetterClasses.words_split_exactly`: where the cuts are.
-/

namespace TreeLint
namespace Text

/-! ## Pieces of a list -/

/-- The number of the piece in which an item stands. Items are counted through all pieces. -/
def pieceAt? {α : Type} : List (List α) → Nat → Option Nat
  | [], _ => none
  | piece :: pieces, i =>
    if i < piece.length then some 0 else (pieceAt? pieces (i - piece.length)).map Nat.succ

theorem exists_piece_of_getElem?_flatten {α : Type} {pieces : List (List α)} {i : Nat} {a : α}
    (h : pieces.flatten[i]? = some a) :
    ∃ m piece, pieceAt? pieces i = some m ∧ pieces[m]? = some piece ∧ a ∈ piece := by
  induction pieces generalizing i with
  | nil => cases h
  | cons piece pieces ih =>
      rw [List.flatten_cons] at h
      by_cases hi : i < piece.length
      · rw [List.getElem?_append_left hi] at h
        exact ⟨0, piece, if_pos hi, rfl, List.mem_of_getElem? h⟩
      · rw [List.getElem?_append_right (by omega)] at h
        obtain ⟨m, later, hm, hlater, ha⟩ := ih h
        refine ⟨m + 1, later, ?_, hlater, ha⟩
        rw [pieceAt?, if_neg hi, hm]
        rfl

namespace LetterClasses

variable (k : LetterClasses)

/-- Whether there is a letter at a place of a text. -/
def letterAt (cs : List Char) (i : Nat) : Bool :=
  cs[i]?.any k.letter

/-- The number of the word that has the letter at a place of a text. -/
def wordAt? (cs : List Char) (i : Nat) : Option Nat :=
  if k.letterAt cs i then pieceAt? (k.words cs) (cs.countPBefore k.letter i) else none

variable {k} {c : Char} {cs : List Char} {i j l : Nat}

/-! ## Letters and words -/

@[simp] theorem flatten_extendFirst (c : Char) (ws : List (List Char)) :
    (extendFirst c ws).flatten = c :: ws.flatten := by
  cases ws <;> rfl

theorem ne_nil_of_mem_extendFirst {ws : List (List Char)} (h : ∀ w ∈ ws, w ≠ [])
    {w : List Char} (hw : w ∈ extendFirst c ws) : w ≠ [] := by
  cases ws with
  | nil =>
      rw [List.mem_singleton.mp hw]
      exact List.cons_ne_nil c []
  | cons first ws =>
      rcases List.mem_cons.mp hw with rfl | hw
      · exact List.cons_ne_nil c first
      · exact h w (List.mem_cons_of_mem first hw)

/-- The words of a text are its letters. -/
@[simp] theorem flatten_words (k : LetterClasses) (cs : List Char) :
    (k.words cs).flatten = cs.filter k.letter := by
  induction cs with
  | nil => rfl
  | cons c cs ih =>
      rw [words, List.filter_cons]
      split
      · split
        · simp [ih]
        · simp [ih]
      · exact ih

theorem ne_nil_of_mem_words {w : List Char} (h : w ∈ k.words cs) : w ≠ [] := by
  induction cs generalizing w with
  | nil => cases h
  | cons c cs ih =>
      rw [words] at h
      split at h
      · split at h
        · exact ne_nil_of_mem_extendFirst (fun _ => ih) h
        · rcases List.mem_cons.mp h with rfl | h
          · exact List.cons_ne_nil c []
          · exact ih h
      · exact ih h

/-- A letter that a text starts with is the first one of its first word. -/
theorem exists_words_cons (hc : k.letter c = true) (cs : List Char) :
    ∃ w ws, k.words (c :: cs) = (c :: w) :: ws := by
  rw [words, if_pos hc]
  split
  · cases k.words cs with
    | nil => exact ⟨[], [], rfl⟩
    | cons w ws => exact ⟨w, ws, rfl⟩
  · exact ⟨[], k.words cs, rfl⟩

/-- A letter is in the word that has its number. -/
theorem exists_word_of_letterAt (h : k.letterAt cs i = true) :
    ∃ m w d, k.wordAt? cs i = some m ∧ (k.words cs)[m]? = some w ∧ cs[i]? = some d ∧ d ∈ w := by
  cases hd : cs[i]? with
  | none =>
      rw [letterAt, hd] at h
      cases h
  | some d =>
      have hkept : (k.words cs).flatten[cs.countPBefore k.letter i]? = some d := by
        simp [Selection.getElem?_filter_countPBefore h, hd]
      obtain ⟨m, w, hm, hw, hmem⟩ := exists_piece_of_getElem?_flatten hkept
      exact ⟨m, w, d, (if_pos h).trans hm, hw, rfl, hmem⟩

/-! ## One more character in front -/

theorem wordAt?_zero (hc : k.letter c = true) (cs : List Char) :
    k.wordAt? (c :: cs) 0 = some 0 := by
  obtain ⟨w, ws, hwords⟩ := exists_words_cons hc cs
  have hat : k.letterAt (c :: cs) 0 = true := hc
  rw [wordAt?, if_pos hat, hwords, List.countPBefore_zero]
  rfl

theorem wordAt?_succ (c : Char) (cs : List Char) (i : Nat) :
    k.wordAt? (c :: cs) (i + 1) =
      if k.letterAt cs i then
        pieceAt? (k.words (c :: cs))
          (if k.letter c then cs.countPBefore k.letter i + 1 else cs.countPBefore k.letter i)
      else none := by
  rw [wordAt?, List.countPBefore_cons_succ]
  rfl

/-- What is no letter does not change the words of the places behind it. -/
theorem wordAt?_cons_skipped (hc : k.letter c = false) (cs : List Char) (i : Nat) :
    k.wordAt? (c :: cs) (i + 1) = k.wordAt? cs i := by
  rw [wordAt?_succ, words, hc]
  rfl

theorem letterAt_zero_of_joins (h : k.joins c cs = true) : k.letterAt cs 0 = true := by
  cases cs with
  | nil => cases h
  | cons d rest => exact (Bool.and_eq_true_iff.mp h).1

/-- A letter that stands in one word with what follows changes no number of a word. -/
theorem wordAt?_cons_joined (hc : k.letter c = true) (hjoins : k.joins c cs = true) (i : Nat) :
    k.wordAt? (c :: cs) (i + 1) = k.wordAt? cs i := by
  cases cs with
  | nil => cases hjoins
  | cons d rest =>
      obtain ⟨w, ws, hwords⟩ := exists_words_cons (letterAt_zero_of_joins hjoins) rest
      rw [wordAt?_succ, wordAt?, words, if_pos hc, if_pos hc, if_pos hjoins, hwords]
      simp [extendFirst, pieceAt?]

/-- A letter that is a word of its own stands before all words of what follows. -/
theorem wordAt?_cons_cut (hc : k.letter c = true) (hcut : k.joins c cs = false) (i : Nat) :
    k.wordAt? (c :: cs) (i + 1) = (k.wordAt? cs i).map Nat.succ := by
  rw [wordAt?_succ, wordAt?, words, if_pos hc, if_pos hc, hcut]
  split <;> simp [pieceAt?]

/-- A character in front of a text does not change which places have letters of one word. -/
theorem wordAt?_succ_inj :
    k.wordAt? (c :: cs) (i + 1) = k.wordAt? (c :: cs) (j + 1) ↔
      k.wordAt? cs i = k.wordAt? cs j := by
  cases hc : k.letter c with
  | false => rw [wordAt?_cons_skipped hc, wordAt?_cons_skipped hc]
  | true =>
      cases hjoins : k.joins c cs with
      | true => rw [wordAt?_cons_joined hc hjoins, wordAt?_cons_joined hc hjoins]
      | false =>
          rw [wordAt?_cons_cut hc hjoins, wordAt?_cons_cut hc hjoins]
          exact (Option.map_injective fun _ _ => Nat.succ.inj).eq_iff

/-! ## The cuts -/

/-- A letter is cut off the next one at a change of case. -/
theorem joins_eq_false_iff {d : Char} {rest : List Char} (hd : k.letter d = true) :
    k.joins c (d :: rest) = false ↔
      k.upper d = true ∧ (k.lower c = true ∨ rest[0]?.any k.lower = true) := by
  rw [joins, hd, Bool.true_and, Bool.not_eq_false', Bool.and_eq_true_iff, Bool.or_eq_true_iff,
    List.head?_eq_getElem?]

/-- Two letters next to each other stand in different words at a change of case. -/
theorem wordAt?_ne_succ_iff (hi : k.letterAt cs i = true) (hnext : k.letterAt cs (i + 1) = true) :
    k.wordAt? cs i ≠ k.wordAt? cs (i + 1) ↔
      cs[i + 1]?.any k.upper = true ∧
        (cs[i]?.any k.lower = true ∨ cs[i + 2]?.any k.lower = true) := by
  induction i generalizing cs with
  | zero =>
      cases cs with
      | nil => cases hi
      | cons c cs =>
          cases cs with
          | nil => cases hnext
          | cons d rest =>
              refine Iff.trans ?_ (joins_eq_false_iff hnext)
              rw [wordAt?_zero hi]
              cases hjoins : k.joins c (d :: rest) with
              | true =>
                  rw [wordAt?_cons_joined hi hjoins, wordAt?_zero hnext]
                  exact iff_of_false (not_not_intro rfl) Bool.false_ne_true.symm
              | false =>
                  rw [wordAt?_cons_cut hi hjoins, wordAt?_zero hnext]
                  exact iff_of_true (by decide) rfl
  | succ i ih =>
      cases cs with
      | nil => cases hi
      | cons c cs => exact (not_congr wordAt?_succ_inj).trans (ih hi hnext)

/-- A letter behind something that is no letter is not in the word the text starts with. -/
theorem wordAt?_ne_zero (hstart : k.letterAt cs 0 = true) (hj : k.letterAt cs j = false)
    (hjl : j < l) : k.wordAt? cs l ≠ some 0 := by
  induction cs generalizing j l with
  | nil => cases hstart
  | cons c cs ih =>
      match j, l, hj, hjl with
      | 0, _, hj, _ => exact absurd (hj.symm.trans hstart) Bool.false_ne_true
      | j + 1, l + 1, hj, hjl =>
          cases hjoins : k.joins c cs with
          | false =>
              rw [wordAt?_cons_cut hstart hjoins]
              intro h
              obtain ⟨m, -, hm⟩ := Option.map_eq_some_iff.mp h
              cases hm
          | true =>
              rw [wordAt?_cons_joined hstart hjoins]
              exact ih (letterAt_zero_of_joins hjoins) hj (by omega)

/-- Letters with something between them that is no letter stand in different words. -/
theorem wordAt?_ne_of_separated (hi : k.letterAt cs i = true) (hj : k.letterAt cs j = false)
    (hij : i < j) (hjl : j < l) : k.wordAt? cs i ≠ k.wordAt? cs l := by
  induction i generalizing cs j l with
  | zero =>
      cases cs with
      | nil => cases hi
      | cons c cs =>
          rw [wordAt?_zero hi]
          exact (wordAt?_ne_zero hi hj hjl).symm
  | succ i ih =>
      match cs, j, l, hi, hj, hij, hjl with
      | c :: cs, j + 1, l + 1, hi, hj, hij, hjl =>
          exact (not_congr wordAt?_succ_inj).mpr
            (ih hi hj (by omega) (by omega))

/-- The splitting is exact: it keeps every letter once and in order, makes no empty word, and cuts
between two letters exactly at a change of case or where something that is no letter lies. -/
theorem words_split_exactly (k : LetterClasses) (cs : List Char) :
    (k.words cs).flatten = cs.filter k.letter ∧
    (∀ w ∈ k.words cs, w ≠ []) ∧
    (∀ i, k.letterAt cs i = true →
      ∃ m w d, k.wordAt? cs i = some m ∧ (k.words cs)[m]? = some w ∧ cs[i]? = some d ∧ d ∈ w) ∧
    (∀ i, k.letterAt cs i = true → k.letterAt cs (i + 1) = true →
      (k.wordAt? cs i ≠ k.wordAt? cs (i + 1) ↔
        cs[i + 1]?.any k.upper = true ∧
          (cs[i]?.any k.lower = true ∨ cs[i + 2]?.any k.lower = true))) ∧
    (∀ i j l, i < j → j < l → k.letterAt cs i = true → k.letterAt cs j = false →
      k.letterAt cs l = true → k.wordAt? cs i ≠ k.wordAt? cs l) :=
  ⟨flatten_words k cs, fun _ => ne_nil_of_mem_words, fun _ => exists_word_of_letterAt,
    fun _ => wordAt?_ne_succ_iff,
    fun _ _ _ hij hjl hi hj _ => wordAt?_ne_of_separated hi hj hij hjl⟩

/-- A capital in front of a small letter ends an acronym, and a digit ends a word. -/
theorem words_split_exactly_acronym :
    unicodeLetters.words "HTTPKey2x".toList =
      ["HTTP".toList, "Key".toList, "x".toList] ∧
    unicodeLetters.wordAt? "HTTPKey2x".toList 3 ≠ unicodeLetters.wordAt? "HTTPKey2x".toList 4 ∧
    unicodeLetters.wordAt? "HTTPKey2x".toList 6 ≠ unicodeLetters.wordAt? "HTTPKey2x".toList 8 :=
  have hsplit := words_split_exactly unicodeLetters "HTTPKey2x".toList
  ⟨by decide +kernel,
    (hsplit.2.2.2.1 3 (by decide +kernel) (by decide +kernel)).mpr (by decide +kernel),
    hsplit.2.2.2.2 6 7 8 (by decide) (by decide) (by decide +kernel) (by decide +kernel)
      (by decide +kernel)⟩

end LetterClasses
end Text
end TreeLint
