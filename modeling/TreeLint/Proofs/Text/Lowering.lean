import Mathlib.Data.Nat.ModEq
import TreeLint.Proofs.Text.Casing
import TreeLint.Text.Blank

/-!
# What lower-casing leaves alone

Lower-casing replaces some characters by others, and the characters that it puts in are replaced by
nothing else. So a text that was lower-cased once stays as it is. Among the characters put in there
is neither white space nor punctuation, so what a text is cut at is there before lower-casing and
after it.

**Results.**
* `lowerChar_of_mem_lowerChar`: the lower case of a character is lower case.
* `lowerEach_lowerEach`, `lower_lower`: so is that of a text, taken character by character or as a
  whole.
* `eq_of_mem_lowerChar`: characters that are the lower case of no other.
* `trim_eq_self_iff`, `trim_lower`: white space at the ends of a text.
-/

namespace TreeLint
namespace Text

/-! ## Runs without a common code point -/

/-- Whether two runs are seen to have nothing in common: one of them ends before the other starts,
or they step through different classes. -/
def Run.apart (r t : Run) : Bool :=
  Nat.blt r.last t.first || Nat.blt t.last r.first ||
    ((r.first == r.last || r.step % t.step == 0) && r.first % t.step != t.first % t.step)

/-- Whether a run is seen to have nothing in common with those of a table in increasing order. -/
def Run.avoids (r : Run) : List Shift → Bool
  | [] => true
  | s :: rest => Nat.blt r.last s.run.first || (r.apart s.run && r.avoids rest)

/-- The code points that a shifted run is mapped to. -/
def Shift.image (s : Shift) : Run :=
  ⟨s.target, s.target + (s.run.last - s.run.first), s.run.step⟩

section Runs

variable {r t : Run} {s : Shift} {table : List Shift} {n : Nat}

theorem Run.modEq_of_has (h : r.has n = true) : r.first ≡ n [MOD r.step] := by
  have hle := (Run.first_le h).1
  rw [Run.has, Bool.and_eq_true, beq_iff_eq] at h
  exact (Nat.modEq_iff_dvd' hle).mpr (Nat.dvd_of_mod_eq_zero h.2)

/-- Runs that are apart have no code point in common. -/
theorem Run.has_of_apart (h : r.apart t = true) (hn : r.has n = true) : t.has n = false := by
  rw [← Bool.not_eq_true]
  intro ht
  have hr := Run.first_le hn
  have hbounds := Run.first_le ht
  simp only [Run.apart, Bool.or_eq_true, Nat.blt_eq, Bool.and_eq_true, beq_iff_eq,
    bne_iff_ne] at h
  rcases h with (hbelow | habove) | ⟨hstep, hclass⟩
  · omega
  · omega
  · apply hclass
    have hsame : r.first ≡ n [MOD t.step] := by
      rcases hstep with hsingle | hdvd
      · have hfirst : r.first = n := by omega
        rw [hfirst]
      · exact (Run.modEq_of_has hn).of_dvd (Nat.dvd_of_mod_eq_zero hdvd)
    exact hsame.trans (Run.modEq_of_has ht).symm

/-- A table leaves alone what lies apart from its runs. -/
theorem Run.shift_of_avoids (h : r.avoids table = true) (hn : r.has n = true) :
    shift table n = n := by
  have hlast := (Run.first_le hn).2
  induction table with
  | nil => rfl
  | cons s table ih =>
      rw [shift]
      split
      · rfl
      · next hfirst =>
          rw [Run.avoids, Bool.or_eq_true, Nat.blt_eq, Bool.and_eq_true] at h
          obtain ⟨hapart, hrest⟩ := h.resolve_left (by omega)
          simp [Run.has_of_apart hapart hn, ih hrest]

theorem Shift.has_image (h : s.run.has n = true) :
    s.image.has (s.target + (n - s.run.first)) = true := by
  have hrange := Run.first_le h
  rw [Run.has, Bool.and_eq_true] at h
  simp [Run.has, image, h.2]
  omega

end Runs

/-! ## Characters -/

/-- A character that lower-casing puts in: the small letters of its table, the dot that is left of a
dotted capital, and the small sigma at the end of a word. -/
def IsPutIn (d : Char) : Prop :=
  d = '\u0307' ∨ d = 'ς' ∨ ∃ s ∈ lowerShifts, s.image.has d.toNat = true

instance (d : Char) : Decidable (IsPutIn d) :=
  inferInstanceAs
    (Decidable (d = '\u0307' ∨ d = 'ς' ∨ ∃ s ∈ lowerShifts, s.image.has d.toNat = true))

section Characters

variable {c d : Char}

theorem lowerChar_of_ne (h : c ≠ dottedCapitalI) : lowerChar c = [shiftChar lowerShifts c] :=
  if_neg h

theorem lowerChar_ne_nil (c : Char) : lowerChar c ≠ [] := by
  rw [lowerChar]
  split <;> exact List.cons_ne_nil _ _

/-- What lower-casing puts in place of a character is that character, or one that it puts in. -/
theorem eq_or_isPutIn_of_mem_lowerChar (h : d ∈ lowerChar c) : c = d ∨ IsPutIn d := by
  by_cases hc : c = dottedCapitalI
  · have hboth : IsPutIn 'i' ∧ IsPutIn '\u0307' := by decide +kernel
    have hmem : d ∈ ['i', '\u0307'] := by
      rwa [hc, lowerChar, if_pos rfl] at h
    rcases List.mem_pair.mp hmem with rfl | rfl
    · exact .inr hboth.1
    · exact .inr hboth.2
  · rw [lowerChar_of_ne hc, List.mem_singleton] at h
    have hd : d.toNat = shift lowerShifts c.toNat := by
      rw [h, holdsChars_lowerShifts.toNat_shiftChar]
    rcases shift_eq_or lowerShifts c.toNat with hsame | ⟨s, hs, hhas, hshift⟩
    · left
      rw [← Char.ofNat_toNat c, ← hsame, ← hd, Char.ofNat_toNat]
    · right
      refine .inr (.inr ⟨s, hs, ?_⟩)
      rw [hd, hshift]
      exact Shift.has_image hhas

/-- The table of lower cases maps nothing to what it maps to something else. -/
theorem avoids_image : ∀ s ∈ lowerShifts,
    s.image.avoids lowerShifts = true ∧ s.image.has dottedCapitalI.toNat = false := by
  decide +kernel

theorem lowerChar_of_isPutIn (h : IsPutIn d) : lowerChar d = [d] := by
  rcases h with rfl | rfl | ⟨s, hs, hd⟩
  · decide +kernel
  · decide +kernel
  · obtain ⟨havoids, hdotted⟩ := avoids_image s hs
    have hne : d ≠ dottedCapitalI := by
      rintro rfl
      cases hd.symm.trans hdotted
    simp [lowerChar_of_ne hne, shiftChar, Run.shift_of_avoids havoids hd]

/-- The lower case of a character consists of characters that are their own lower case. -/
theorem lowerChar_of_mem_lowerChar (h : d ∈ lowerChar c) : lowerChar d = [d] := by
  rcases eq_or_isPutIn_of_mem_lowerChar h with rfl | hd
  · by_cases hc : c = dottedCapitalI
    · have hnot : dottedCapitalI ∉ lowerChar dottedCapitalI := by decide +kernel
      rw [hc] at h
      exact absurd h hnot
    · rw [lowerChar_of_ne hc] at h ⊢
      rw [← List.mem_singleton.mp h]
  · exact lowerChar_of_isPutIn hd

/-- A character that lower-casing does not put in is the lower case of no other. -/
theorem eq_of_mem_lowerChar (hd : ¬ IsPutIn d) (h : d ∈ lowerChar c) : c = d :=
  (eq_or_isPutIn_of_mem_lowerChar h).resolve_right hd

theorem not_isPutIn_of_isBlank (h : isBlank d = true) : ¬ IsPutIn d := by
  have hdot : isBlank '\u0307' = false := by decide
  have hsigma : isBlank 'ς' = false := by decide
  have hrows : ∀ s ∈ lowerShifts, ∀ r ∈ whiteSpace, s.image.apart r = true := by decide +kernel
  rintro (rfl | rfl | ⟨s, hs, hd⟩)
  · cases h.symm.trans hdot
  · cases h.symm.trans hsigma
  · obtain ⟨r, hr, hblank⟩ := exists_run_of_inRuns h
    cases hblank.symm.trans (Run.has_of_apart (hrows s hs r hr) hd)

end Characters

/-! ## Texts -/

section Texts

variable {cs before : List Char} {c d : Char}

/-- Character by character, what is lower-cased stays as it is. -/
@[simp] theorem lowerEach_lowerEach (cs : List Char) : lowerEach (lowerEach cs) = lowerEach cs := by
  have hself : ∀ d ∈ lowerEach cs, lowerChar d = [d] := by
    intro d hd
    obtain ⟨c, -, hd⟩ := List.mem_flatMap.mp hd
    exact lowerChar_of_mem_lowerChar hd
  rw [lowerEach, List.flatMap_congr hself, List.flatMap_singleton']

/-- The lower case of a text starts with what is put in place of its first character. -/
theorem exists_lowerAfter_cons (before : List Char) (c : Char) (cs : List Char) :
    ∃ first, lowerAfter before (c :: cs) = first ++ lowerAfter (c :: before) cs ∧ first ≠ [] ∧
      ∀ d ∈ first, lowerChar d = [d] ∧ (c = d ∨ IsPutIn d) := by
  rw [lowerAfter]
  split
  · have hfinal : IsPutIn 'ς' := by decide +kernel
    have hsigma : IsPutIn 'σ' := by decide +kernel
    refine ⟨[_], rfl, List.cons_ne_nil _ _, ?_⟩
    intro d hd
    have hput : IsPutIn d := by
      rw [List.mem_singleton.mp hd]
      split
      · exact hfinal
      · exact hsigma
    exact ⟨lowerChar_of_isPutIn hput, .inr hput⟩
  · exact ⟨lowerChar c, rfl, lowerChar_ne_nil c, fun d hd =>
      ⟨lowerChar_of_mem_lowerChar hd, eq_or_isPutIn_of_mem_lowerChar hd⟩⟩

theorem mem_lowerAfter (h : d ∈ lowerAfter before cs) :
    lowerChar d = [d] ∧ (d ∈ cs ∨ IsPutIn d) := by
  induction cs generalizing before with
  | nil => cases h
  | cons c cs ih =>
      obtain ⟨first, heq, -, hfirst⟩ := exists_lowerAfter_cons before c cs
      rw [heq, List.mem_append] at h
      rcases h with hd | hd
      · obtain ⟨hself, rfl | hput⟩ := hfirst d hd
        · exact ⟨hself, .inl List.mem_cons_self⟩
        · exact ⟨hself, .inr hput⟩
      · obtain ⟨hself, hfrom⟩ := ih hd
        exact ⟨hself, hfrom.imp_left (List.mem_cons_of_mem c)⟩

/-- What is lower-cased stays as it is. -/
@[simp] theorem lower_lower (cs : List Char) : lower (lower cs) = lower cs := by
  have hsigma : lowerChar 'Σ' ≠ ['Σ'] := by decide +kernel
  apply lower_eq_of_forall₂
  rw [List.forall₂_same]
  intro d hd
  obtain ⟨hself, -⟩ := mem_lowerAfter hd
  refine ⟨?_, hself⟩
  rintro rfl
  exact hsigma hself

/-- A character that lower-casing does not put in is in a text if it is in its lower case. -/
theorem mem_of_mem_lower (hd : ¬ IsPutIn d) (h : d ∈ lower cs) : d ∈ cs :=
  (mem_lowerAfter h).2.resolve_right hd

/-! ## White space at the ends -/

theorem dropWhile_eq_self_iff {p : Char → Bool} :
    cs.dropWhile p = cs ↔ ∀ c ∈ cs.head?, p c = false := by
  cases cs with
  | nil => simp
  | cons c cs =>
      rw [List.head?_cons]
      constructor
      · intro h d hd
        rw [← Option.mem_some_iff.mp hd, ← Bool.not_eq_true]
        intro hp
        rw [List.dropWhile_cons_of_pos hp] at h
        have hlength := (List.dropWhile_suffix p (l := cs)).length_le
        rw [h, List.length_cons] at hlength
        omega
      · intro h
        rw [List.dropWhile_cons_of_neg (by rw [h c rfl]; exact Bool.false_ne_true)]

theorem dropEndWhile_eq_self_iff {p : Char → Bool} :
    dropEndWhile p cs = cs ↔ ∀ c ∈ cs.getLast?, p c = false := by
  rw [dropEndWhile, List.reverse_eq_iff, dropWhile_eq_self_iff, List.head?_reverse]

theorem dropEndWhile_isPrefix (p : Char → Bool) (cs : List Char) : dropEndWhile p cs <+: cs := by
  rw [dropEndWhile, ← List.reverse_suffix, List.reverse_reverse]
  exact List.dropWhile_suffix p

/-- A text is trimmed if it neither starts nor ends with white space. -/
theorem trim_eq_self_iff :
    trim cs = cs ↔ (∀ c ∈ cs.head?, isBlank c = false) ∧ ∀ c ∈ cs.getLast?, isBlank c = false := by
  rw [← dropWhile_eq_self_iff, ← dropEndWhile_eq_self_iff, trim]
  constructor
  · intro h
    have hstart := List.dropWhile_suffix isBlank (l := cs)
    have hend := dropEndWhile_isPrefix isBlank (cs.dropWhile isBlank)
    rw [h] at hend
    have hdrop : cs.dropWhile isBlank = cs :=
      hstart.eq_of_length (Nat.le_antisymm hstart.length_le hend.length_le)
    rw [hdrop] at h
    exact ⟨hdrop, h⟩
  · rintro ⟨hstart, hend⟩
    rw [hstart, hend]

/-- Trimming leaves a trimmed text. -/
@[simp] theorem trim_trim (cs : List Char) : trim (trim cs) = trim cs := by
  rw [trim_eq_self_iff]
  constructor
  · intro c hc
    obtain ⟨rest, hrest⟩ := dropEndWhile_isPrefix isBlank (cs.dropWhile isBlank)
    have hhead : c ∈ (cs.dropWhile isBlank).head? := by
      rw [← hrest, List.head?_append, trim] at *
      rw [Option.mem_def.mp hc]
      rfl
    have hnot := List.head?_dropWhile_not isBlank cs
    rw [Option.mem_def.mp hhead] at hnot
    exact hnot
  · intro c hc
    rw [trim, dropEndWhile, List.getLast?_reverse] at hc
    have hnot := List.head?_dropWhile_not isBlank (cs.dropWhile isBlank).reverse
    rw [Option.mem_def.mp hc] at hnot
    exact hnot

/-- A lower-case text starts with a character of the text, or with one that was put in. -/
theorem eq_or_isPutIn_of_mem_head? (h : d ∈ (lowerAfter before cs).head?) :
    d ∈ cs.head? ∨ IsPutIn d := by
  cases cs with
  | nil => cases h
  | cons c cs =>
      obtain ⟨first, heq, hne, hfirst⟩ := exists_lowerAfter_cons before c cs
      rw [heq, List.head?_append_of_ne_nil _ hne] at h
      exact (hfirst d (List.mem_of_mem_head? h)).2.imp_left (congrArg some)

/-- A lower-case text ends with a character of the text, or with one that was put in. -/
theorem eq_or_isPutIn_of_mem_getLast? (h : d ∈ (lowerAfter before cs).getLast?) :
    d ∈ cs.getLast? ∨ IsPutIn d := by
  induction cs generalizing before with
  | nil => cases h
  | cons c cs ih =>
      obtain ⟨first, heq, -, hfirst⟩ := exists_lowerAfter_cons before c cs
      rw [heq] at h
      cases cs with
      | nil =>
          rw [lowerAfter, List.append_nil] at h
          exact (hfirst d (List.mem_of_getLast? h)).2.imp_left (congrArg some)
      | cons b cs =>
          obtain ⟨next, hnext, hne, -⟩ := exists_lowerAfter_cons (c :: before) b cs
          rw [List.getLast?_append_of_ne_nil _ (by simp [hnext, hne])] at h
          simpa using ih h

/-- Lower-casing puts no white space at the ends of a text. -/
theorem trim_lower (h : trim cs = cs) : trim (lower cs) = lower cs := by
  obtain ⟨hstart, hend⟩ := trim_eq_self_iff.mp h
  rw [trim_eq_self_iff]
  constructor
  · intro d hd
    rcases eq_or_isPutIn_of_mem_head? hd with hfrom | hput
    · exact hstart d hfrom
    · exact Bool.eq_false_of_not_eq_true fun hblank => not_isPutIn_of_isBlank hblank hput
  · intro d hd
    rcases eq_or_isPutIn_of_mem_getLast? hd with hfrom | hput
    · exact hend d hfrom
    · exact Bool.eq_false_of_not_eq_true fun hblank => not_isPutIn_of_isBlank hblank hput

end Texts
end Text
end TreeLint
