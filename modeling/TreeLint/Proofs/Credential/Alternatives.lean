import TreeLint.Credential.Message
import TreeLint.Proofs.Credential.Pair
import TreeLint.Proofs.Text.Casing

/-!
# Words as alternatives

The words of a set are tried one after another at each place of a text, so their order could decide
which of them is found. For words of letters it does not: where such a word is followed by a sign,
the text it spells ends at the first character that can stand between a word and its value, so all
words that have a pair at a place have the same one.

**Results.**
* `not_parts_of_sameLetter`: no letter is, regardless of case, white space or a sign.
* `PairOf.unique`: words of letters have one pair at a place.
* `pairBehind_iff`: so it does not matter which word is tried first.
* `find_eq_of_sameWords`: lists with the same words find the same.
-/

namespace TreeLint

namespace Text

/-! ## Letters, white space and signs -/

/-- Two runs of code points, one behind the other. -/
def Run.IsApart (r q : Run) : Prop :=
  r.last < q.first ∨ q.last < r.first

instance (r q : Run) : Decidable (r.IsApart q) :=
  inferInstanceAs (Decidable (_ ∨ _))

/-- The code points of the characters that can stand between a word and a value. -/
def partingRuns : List Run :=
  ⟨0x3A, 0x3A, 1⟩ :: ⟨0x3D, 0x3D, 1⟩ :: whiteSpace

/-- Whether a character can stand between a word and a value: white space, or a sign. -/
def parts (c : Char) : Bool :=
  isBlank c || c = ':' || c = '='

variable {w c : Char}

theorem exists_run_of_parts (h : parts c = true) :
    ∃ r ∈ partingRuns, r.first ≤ c.toNat ∧ c.toNat ≤ r.last := by
  rw [parts, Bool.or_eq_true, Bool.or_eq_true, decide_eq_true_iff, decide_eq_true_iff] at h
  rcases h with (h | rfl) | rfl
  · obtain ⟨r, hr, hhas⟩ := exists_run_of_inRuns h
    exact ⟨r, List.mem_cons_of_mem _ (List.mem_cons_of_mem _ hr), Run.first_le hhas⟩
  · exact ⟨_, List.mem_cons_self, by decide, by decide⟩
  · exact ⟨_, List.mem_cons_of_mem _ List.mem_cons_self, by decide, by decide⟩

/-- White space and signs have no case. -/
theorem fold_apart : ∀ s ∈ foldShifts, ∀ r ∈ partingRuns, s.run.IsApart r := by
  decide +kernel

/-- No letter folds to white space or a sign. -/
theorem folded_apart : ∀ s ∈ foldShifts, ∀ r ∈ partingRuns,
    Run.IsApart ⟨s.target, s.target + (s.run.last - s.run.first), 1⟩ r := by
  decide +kernel

theorem alphabetic_apart : ∀ q ∈ alphabetic, ∀ r ∈ partingRuns, q.IsApart r := by
  decide +kernel

theorem toNat_fold_of_parts (h : parts c = true) : (fold c).toNat = c.toNat := by
  obtain ⟨r, hr, hin⟩ := exists_run_of_parts h
  rw [fold, holdsChars_foldShifts.toNat_shiftChar]
  rcases shift_eq_or foldShifts c.toNat with hsame | ⟨s, hs, hhas, -⟩
  · exact hsame
  · have hrange := Run.first_le hhas
    rcases fold_apart s hs r hr with hlt | hlt
    · omega
    · omega

/-- No letter is, regardless of case, white space or a sign. -/
theorem not_parts_of_sameLetter (hw : isLetter w = true) (h : sameLetter w c = true) :
    parts c = false := by
  rw [← Bool.not_eq_true]
  intro hparts
  obtain ⟨r, hr, hin⟩ := exists_run_of_parts hparts
  have hfold : (fold w).toNat = c.toNat := by
    rw [beq_iff_eq.mp h, toNat_fold_of_parts hparts]
  rw [fold, holdsChars_foldShifts.toNat_shiftChar] at hfold
  rcases shift_eq_or foldShifts w.toNat with hsame | ⟨s, hs, hhas, hshift⟩
  · obtain ⟨q, hq, hwhas⟩ := exists_run_of_inRuns hw
    have hwin := Run.first_le hwhas
    rcases alphabetic_apart q hq r hr with hlt | hlt
    · omega
    · omega
  · have hrange := Run.first_le hhas
    have happart := folded_apart s hs r hr
    simp only [Run.IsApart] at happart
    omega

end Text

namespace Credential

open Text

namespace WordSet

variable {set other : WordSet} {word rest after name value : List Char} {p q : Pair}

/-! ## The pair at a place -/

/-- A set whose words are made of letters. -/
def IsLettered (set : WordSet) : Prop :=
  ∀ word ∈ set.words, ∀ w ∈ word, isLetter w = true

/-- Two sets with the same words, in any order. -/
def SameWords (set other : WordSet) : Prop :=
  ∀ word, word ∈ set.words ↔ word ∈ other.words

theorem IsSign.parts_eq_true {sign : Char} (h : IsSign sign) : parts sign = true := by
  rcases h with rfl | rfl <;> decide

theorem Spells.not_parts {seen : List Char} (h : Spells word seen)
    (hword : ∀ w ∈ word, isLetter w = true) : ∀ c ∈ seen, parts c = false := by
  induction h with
  | nil => exact List.forall_mem_nil _
  | cons hsame _ ih =>
      obtain ⟨hw, hword⟩ := List.forall_mem_cons.mp hword
      exact List.forall_mem_cons.mpr ⟨not_parts_of_sameLetter hw hsame, ih hword⟩

/-- The text that a word of letters spells in front of a sign ends where white space or a sign
starts; the value is read behind that sign. -/
theorem Assigns.split {seen : List Char} (h : Assigns word rest seen after)
    (hword : ∀ w ∈ word, isLetter w = true) :
    seen = rest.takeWhile (fun c => !parts c) ∧
      after = ((rest.dropWhile fun c => !parts c).dropWhile isBlank).tail := by
  obtain ⟨hspells, gap, sign, rfl, hgap, hsign⟩ := h
  have hseen : ∀ c ∈ seen, (!parts c) = true := by
    intro c hc
    rw [hspells.not_parts hword c hc, Bool.not_false]
  -- what follows the word starts with white space, or else with the sign
  obtain ⟨d, more, hmore, hd⟩ : ∃ d more, gap ++ sign :: after = d :: more ∧ parts d = true := by
    cases gap with
    | nil => exact ⟨sign, after, rfl, hsign.parts_eq_true⟩
    | cons d gap =>
        have hblank : isBlank d = true := hgap d List.mem_cons_self
        exact ⟨d, gap ++ sign :: after, rfl, by rw [parts, hblank, Bool.true_or, Bool.true_or]⟩
  have hstop : (!parts d) = false := by
    rw [hd, Bool.not_true]
  rw [List.append_assoc, hmore, takeWhile_run hseen hstop, dropWhile_run hseen hstop, ← hmore,
    dropWhile_run hgap hsign.isBlank_eq_false, List.tail_cons]
  exact ⟨rfl, rfl⟩

/-- Words of letters have one pair at a place. -/
theorem PairOf.unique {word' : List Char} (h : PairOf word rest p) (k : PairOf word' rest q)
    (hword : ∀ w ∈ word, isLetter w = true) (hword' : ∀ w ∈ word', isLetter w = true) : p = q := by
  obtain ⟨after, hassigns, hvalue⟩ := h
  obtain ⟨after', hassigns', hvalue'⟩ := k
  obtain ⟨hseen, hafter⟩ := hassigns.split hword
  obtain ⟨hseen', hafter'⟩ := hassigns'.split hword'
  have hread := pairValue?_eq_some_iff.mpr hvalue
  rw [hafter, ← hafter', pairValue?_eq_some_iff.mpr hvalue'] at hread
  cases p
  cases q
  simp only [Pair.mk.injEq]
  exact ⟨hseen.trans hseen'.symm, (Option.some.inj hread).symm⟩

/-- Of words of letters it does not matter which one is tried first. -/
theorem pairBehind_iff (hset : set.IsLettered) {before : Option Char} :
    set.PairBehind before rest p ↔
      isWordBoundary before rest.head? = true ∧ ∃ word ∈ set.words, PairOf word rest p := by
  constructor
  · rintro ⟨hboundary, earlier, word, later, hwords, hpair, -⟩
    exact ⟨hboundary, word, by simp [hwords], hpair⟩
  · rintro ⟨hboundary, word, hword, hpair⟩
    refine ⟨hboundary, findSome?_pairOf?_eq_some_iff.mp ?_⟩
    cases hfind : set.words.findSome? fun w => pairOf? w rest with
    | none =>
        have hnone := List.findSome?_eq_none_iff.mp hfind word hword
        rw [pairOf?_eq_some_iff.mpr hpair] at hnone
        cases hnone
    | some q =>
        obtain ⟨first, hfirst, hq⟩ := List.exists_of_findSome?_eq_some hfind
        rw [(pairOf?_eq_some_iff.mp hq).unique hpair (hset first hfirst) (hset word hword)]

/-! ## What is found -/

section SameWords

variable (hsame : set.SameWords other) (hset : set.IsLettered)
include hsame

theorem IsLettered.of_sameWords (hset : set.IsLettered) : other.IsLettered :=
  fun word hword => hset word ((hsame word).mpr hword)

theorem has_eq_of_sameWords : set.has = other.has := by
  funext w
  rw [Bool.eq_iff_iff, has, has, List.any_eq_true, List.any_eq_true]
  simp only [hsame _]

include hset

theorem pair?_eq_of_sameWords (value : List Char) : set.pair? value = other.pair? value := by
  have hother : other.IsLettered := hset.of_sameWords hsame
  have hat : set.PairAt = other.PairAt := by
    funext before rest p
    rw [PairAt, PairAt, pairBehind_iff hset, pairBehind_iff hother]
    simp only [hsame _]
  apply Option.ext
  intro p
  rw [pair?_eq_some_iff, pair?_eq_some_iff, hat]

theorem find_congr (name value : List Char) : set.find name value = other.find name value := by
  rw [find, find, inName, inName, inValue, inValue, has_eq_of_sameWords hsame,
    pair?_eq_of_sameWords hsame hset]

end SameWords

/-- Lists with the same words, all of them made of letters, find the same and say the same. -/
theorem find_eq_of_sameWords {list list' : String} (hsame : (parse list).SameWords (parse list'))
    (hletters : (parse list).IsLettered) (name value : String) :
    (parse list).find name.toList value.toList = (parse list').find name.toList value.toList ∧
      message? (parse list) name value = message? (parse list') name value := by
  have hfind := find_congr hsame hletters
  refine ⟨hfind name.toList value.toList, ?_⟩
  rw [message?, message?, hfind]

/-- One word is the start of another, and the two lists have them in different orders. -/
theorem find_eq_of_sameWords_nested :
    let list := "pass,password, pwd"
    let list' := " PWD ,Password,pwd,PASS"
    (parse list).SameWords (parse list') ∧ (parse list).IsLettered ∧
      (parse list).words ≠ (parse list').words ∧
      (parse list).find "connection".toList "user=a;Password=s3cr3t".toList =
        ["password".toList] ∧
      (parse list').find "connection".toList "user=a;Password=s3cr3t".toList =
        ["password".toList] := by
  intro list list'
  have hperm : (parse list).words.Perm (parse list').words := by
    decide +kernel
  have hsame : (parse list).SameWords (parse list') := fun _ => hperm.mem_iff
  have hletters : (parse list).IsLettered := by
    have hall : (parse list).words.all (fun word => word.all isLetter) = true := by
      decide +kernel
    intro word hword
    exact List.all_eq_true.mp (List.all_eq_true.mp hall word hword)
  have hfound : (parse list).find "connection".toList "user=a;Password=s3cr3t".toList =
      ["password".toList] := by
    decide +kernel
  exact ⟨hsame, hletters, by decide +kernel, hfound,
    (find_eq_of_sameWords hsame hletters "connection" "user=a;Password=s3cr3t").1 ▸ hfound⟩

end WordSet
end Credential
end TreeLint
