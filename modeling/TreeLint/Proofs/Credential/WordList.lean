import Mathlib.Data.List.Basic
import Mathlib.Data.List.Induction
import TreeLint.Credential.WordSet
import TreeLint.Proofs.Text.Lowering
import TreeLint.Proofs.Text.Searching

/-!
# Words of a list

A list of words is cut at its commas, and its items are trimmed, lower-cased and taken once each.
What comes of this is a list of the same kind, whose items need no trimming and no lower-casing any
more, so that reading it again changes nothing. Of lower-casing it only matters that it is done once
for all and puts in neither commas nor white space at the ends.

**Results.**
* `pairwise_idxOf_addNew`: a list without repetition is in the order of first occurrences.
* `splitOn_intercalate`: pieces that are joined and split again.
* `lowersItems_lower`: what is asked of lower-casing.
* `isWordsOf_normalizeWith`, `normalizeWith_intercalate`: the words of a list, and those of their
  own list.
* `WordSet.parse_normalizes`: both of them, for the words that are looked for.
-/

namespace TreeLint

/-! ## Lists without repetition -/

section AddNew

variable {α : Type} [BEq α] [LawfulBEq α]

/-- A list without repetition is added as it is. -/
theorem addNew_of_nodup {seen l : List α} (h : (seen ++ l).Nodup) : addNew seen l = seen ++ l := by
  induction l generalizing seen with
  | nil => rw [addNew, List.append_nil]
  | cons a l ih =>
      have hnew : a ∉ seen := by
        intro ha
        exact (List.nodup_append.mp h).2.2 a ha a List.mem_cons_self rfl
      rw [List.append_cons] at h
      simp [addNew_cons_of_notMem hnew, ih h]

/-- Members can be left out before or after the repetitions. -/
theorem addNew_filter (p : α → Bool) (seen l : List α) :
    addNew (seen.filter p) (l.filter p) = (addNew seen l).filter p := by
  induction l generalizing seen with
  | nil => rfl
  | cons a l ih =>
      by_cases hp : p a = true
      · rw [List.filter_cons_of_pos hp]
        by_cases ha : a ∈ seen
        · rw [addNew_cons_of_mem ha, addNew_cons_of_mem (List.mem_filter.mpr ⟨ha, hp⟩), ih]
        · have hnew : a ∉ seen.filter p := fun hmem => ha (List.mem_filter.mp hmem).1
          rw [addNew_cons_of_notMem ha, addNew_cons_of_notMem hnew, ← ih, List.filter_append,
            List.filter_cons_of_pos hp, List.filter_nil]
      · rw [List.filter_cons_of_neg hp]
        by_cases ha : a ∈ seen
        · rw [addNew_cons_of_mem ha, ih]
        · rw [addNew_cons_of_notMem ha, ← ih, List.filter_append, List.filter_cons_of_neg hp,
            List.filter_nil, List.append_nil]

/-- The members of a list, each once, stand in the order in which they first occur. -/
theorem pairwise_idxOf_addNew (l : List α) :
    (addNew [] l).Pairwise fun a b => l.idxOf a < l.idxOf b := by
  induction l using List.reverseRecOn with
  | nil => exact .nil
  | append_singleton l x ih =>
      have hmem : ∀ a ∈ addNew [] l, a ∈ l :=
        fun a ha => ((mem_addNew [] l).mp ha).resolve_left List.not_mem_nil
      have hbefore : ∀ a ∈ l, (l ++ [x]).idxOf a = l.idxOf a :=
        fun a ha => List.idxOf_append_of_mem ha
      have hpairs : (addNew [] l).Pairwise fun a b =>
          (l ++ [x]).idxOf a < (l ++ [x]).idxOf b := by
        refine ih.imp_of_mem fun {a b} ha hb hlt => ?_
        rwa [hbefore a (hmem a ha), hbefore b (hmem b hb)]
      rw [addNew_append]
      by_cases hx : x ∈ addNew [] l
      · rw [addNew_cons_of_mem hx]
        exact hpairs
      · -- a new member stands behind all that occurred before
        rw [addNew_cons_of_notMem hx, addNew, List.pairwise_append]
        refine ⟨hpairs, List.pairwise_singleton _ x, ?_⟩
        intro a ha b hb
        have hnew : x ∉ l := fun hl => hx ((mem_addNew [] l).mpr (.inr hl))
        rw [List.mem_singleton.mp hb, hbefore a (hmem a ha), List.idxOf_append_of_notMem hnew]
        exact Nat.lt_add_right _ (List.idxOf_lt_length_iff.mpr (hmem a ha))

end AddNew

namespace Text

/-! ## Pieces -/

/-- No piece holds the separator. -/
theorem notMem_of_mem_splitOn {sep : Char} {piece cs : List Char} (h : piece ∈ splitOn sep cs) :
    sep ∉ piece := by
  induction cs generalizing piece with
  | nil =>
      rw [List.mem_singleton.mp h]
      exact List.not_mem_nil
  | cons c cs ih =>
      rw [splitOn] at h
      split at h
      · rcases List.mem_cons.mp h with rfl | h
        · exact List.not_mem_nil
        · exact ih h
      · next hc =>
          obtain ⟨w, ws, hsplit⟩ := List.exists_cons_of_ne_nil (splitOn_ne_nil sep cs)
          rw [hsplit] at h ih
          rcases List.mem_cons.mp h with rfl | h
          · rw [List.mem_cons, not_or]
            exact ⟨Ne.symm hc, ih List.mem_cons_self⟩
          · exact ih (List.mem_cons_of_mem w h)

/-- Pieces that are joined by a separator come out again. -/
theorem splitOn_intercalate {sep : Char} {pieces : List (List Char)} (hne : pieces ≠ [])
    (h : ∀ piece ∈ pieces, sep ∉ piece) : splitOn sep ([sep].intercalate pieces) = pieces := by
  induction pieces with
  | nil => exact absurd rfl hne
  | cons piece pieces ih =>
      obtain ⟨hpiece, hpieces⟩ := List.forall_mem_cons.mp h
      cases pieces with
      | nil => rw [List.intercalate_singleton, splitOn_of_notMem hpiece]
      | cons next pieces =>
          simp [splitOn_append_cons, splitOn_of_notMem hpiece, ih (List.cons_ne_nil _ _) hpieces]

end Text

namespace Credential

open Text

/-! ## Words -/

/-- What is asked of lower-casing: what is lower-cased stays as it is, and neither a comma nor white
space at the ends of a text is put in. -/
structure LowersItems (lowerCase : List Char → List Char) : Prop where
  idempotent : ∀ cs, lowerCase (lowerCase cs) = lowerCase cs
  comma : ∀ cs, ',' ∈ lowerCase cs → ',' ∈ cs
  trimmed : ∀ cs, trim cs = cs → trim (lowerCase cs) = lowerCase cs

theorem lowersItems_lower : LowersItems lower where
  idempotent := lower_lower
  comma := fun _ => mem_of_mem_lower (by decide +kernel)
  trimmed := fun _ => trim_lower

/-- The words of a comma separated list: each is an item of the list, trimmed and lower-cased. They
stand in the order of their first items, once each, and none is empty. -/
structure IsWordsOf (lowerCase : List Char → List Char) (list : List Char)
    (words : List (List Char)) : Prop where
  nodup : words.Nodup
  ne_nil : ∀ w ∈ words, w ≠ []
  trimmed : ∀ w ∈ words, trim w = w
  comma : ∀ w ∈ words, ',' ∉ w
  mem_iff : ∀ w, w ≠ [] → (w ∈ words ↔ ∃ item ∈ splitOn ',' list, lowerCase (trim item) = w)
  inOrder : words.Pairwise fun v w =>
    (listItems lowerCase list).idxOf v < (listItems lowerCase list).idxOf w

section Words

variable {lowerCase : List Char → List Char} (list : List Char) {w : List Char}

@[simp] theorem mem_normalizeWith :
    w ∈ normalizeWith lowerCase list ↔ w ∈ listItems lowerCase list ∧ w ≠ [] := by
  rw [normalizeWith, mem_addNew, List.mem_filter, Bool.not_eq_true', List.isEmpty_eq_false_iff]
  exact or_iff_right List.not_mem_nil

variable (h : LowersItems lowerCase)
include h

theorem isWordsOf_normalizeWith : IsWordsOf lowerCase list (normalizeWith lowerCase list) where
  nodup := nodup_addNew List.nodup_nil _
  ne_nil := fun _ hw => ((mem_normalizeWith list).mp hw).2
  trimmed := by
    intro w hw
    obtain ⟨item, -, rfl⟩ := List.mem_map.mp ((mem_normalizeWith list).mp hw).1
    exact h.trimmed _ (trim_trim item)
  comma := by
    intro w hw hcomma
    obtain ⟨item, hitem, rfl⟩ := List.mem_map.mp ((mem_normalizeWith list).mp hw).1
    exact notMem_of_mem_splitOn hitem (mem_of_mem_trim (h.comma _ hcomma))
  mem_iff := by
    intro w hne
    simp [and_iff_left hne, listItems]
  inOrder := by
    have hfilter := addNew_filter (fun w => !w.isEmpty) [] (listItems lowerCase list)
    rw [List.filter_nil] at hfilter
    rw [normalizeWith, hfilter]
    exact (pairwise_idxOf_addNew (listItems lowerCase list)).filter _

/-- The words of a list are the words of their own list. -/
theorem normalizeWith_intercalate :
    normalizeWith lowerCase ([','].intercalate (normalizeWith lowerCase list)) =
      normalizeWith lowerCase list := by
  have hwords := isWordsOf_normalizeWith list h
  by_cases hnone : normalizeWith lowerCase list = []
  · -- without words all items have an empty lower case, so the empty text has one too
    obtain ⟨item, items, hsplit⟩ := List.exists_cons_of_ne_nil (splitOn_ne_nil ',' list)
    have hitem : lowerCase (trim item) = [] := by
      by_contra hne
      have hmem := (hwords.mem_iff _ hne).mpr ⟨item, hsplit ▸ List.mem_cons_self, rfl⟩
      rw [hnone] at hmem
      cases hmem
    have hempty : lowerCase [] = [] := by
      rw [← hitem, h.idempotent]
    rw [hnone, List.intercalate_nil, normalizeWith, listItems, splitOn, List.map_singleton]
    show addNew [] ([lowerCase []].filter _) = []
    rw [hempty]
    rfl
  · have hsame : ∀ w ∈ normalizeWith lowerCase list, lowerCase (trim w) = w := by
      intro w hw
      obtain ⟨item, -, rfl⟩ := List.mem_map.mp ((mem_normalizeWith list).mp hw).1
      rw [h.trimmed _ (trim_trim item), h.idempotent]
    have hitems : listItems lowerCase ([','].intercalate (normalizeWith lowerCase list)) =
        normalizeWith lowerCase list := by
      rw [listItems, splitOn_intercalate hnone hwords.comma, List.map_congr_left hsame,
        List.map_id']
    have hkept : ((normalizeWith lowerCase list).filter fun w => !w.isEmpty) =
        normalizeWith lowerCase list := by
      apply List.filter_eq_self.mpr
      intro w hw
      simpa [Bool.not_eq_true'] using hwords.ne_nil w hw
    rw [normalizeWith, hitems, hkept, addNew_of_nodup hwords.nodup, List.nil_append]

end Words

namespace WordSet

/-- The words of a list are its items, trimmed, lower-cased and once each in the order of their
first occurrences, and their own list has the same words. This is so for any lower-casing that is
done once for all and puts in neither commas nor white space at the ends. -/
theorem parse_normalizes :
    (∀ list : String,
      IsWordsOf lower list.toList (parse list).words ∧
        parse (String.intercalate "," ((parse list).words.map String.ofList)) = parse list) ∧
    ∀ lowerCase, LowersItems lowerCase → ∀ list,
      IsWordsOf lowerCase list (normalizeWith lowerCase list) ∧
        normalizeWith lowerCase ([','].intercalate (normalizeWith lowerCase list)) =
          normalizeWith lowerCase list := by
  constructor
  · intro list
    refine ⟨isWordsOf_normalizeWith list.toList lowersItems_lower, ?_⟩
    have hjoined : (String.intercalate "," ((parse list).words.map String.ofList)).toList =
        [','].intercalate (normalizeWith lower list.toList) := by
      have hword : String.toList ∘ String.ofList = id := funext fun _ => String.toList_ofList
      rw [String.toList_intercalate, List.map_map, hword, List.map_id]
      rfl
    rw [parse, hjoined, normalizeWith_intercalate list.toList lowersItems_lower, parse]
  · intro lowerCase h list
    exact ⟨isWordsOf_normalizeWith list h, normalizeWith_intercalate list h⟩

/-- A list with white space, capitals, an empty item and repeated ones: two words are left, and they
are the words of their own list, also by the lower-casing that is taken as given. -/
theorem parse_normalizes_repeated :
    (parse " Password,PWD ,,pwd, PASSWORD").words = ["password".toList, "pwd".toList] ∧
      parse "password,pwd" = parse " Password,PWD ,,pwd, PASSWORD" ∧
      LowersItems lower ∧
      normalizeWith lower "password,pwd".toList = ["password".toList, "pwd".toList] := by
  have hwords : (parse " Password,PWD ,,pwd, PASSWORD").words =
      ["password".toList, "pwd".toList] := by decide +kernel
  have hnormal : normalizeWith lower " Password,PWD ,,pwd, PASSWORD".toList =
      ["password".toList, "pwd".toList] := hwords
  have hagain := (parse_normalizes.1 " Password,PWD ,,pwd, PASSWORD").2
  rw [hwords] at hagain
  have hgiven :=
    (parse_normalizes.2 lower lowersItems_lower " Password,PWD ,,pwd, PASSWORD".toList).2
  rw [hnormal] at hgiven
  exact ⟨hwords, hagain, lowersItems_lower, hgiven⟩

end WordSet
end Credential
end TreeLint
