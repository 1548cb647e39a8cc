import TreeLint.Text.Blank
import TreeLint.Text.Piece

/-!
# Searching a text

What stands at the front of a text, and where in a text something starts. A search goes through a
text from its front and stops at the first place where something starts; what starts there may
depend on the text before the place and on the text from it on.

**Results.**
* `afterPiece?_eq_some_iff`, `takeWhile_run`, `dropWhile_run`: pieces and runs at the front.
* `occurs_iff_isInfix`: a piece occurs in a text.
* `leftmost_cons`: the leftmost place is the front of the text, or nothing starts there and it is
  the leftmost place of what follows.
* `Somewhere.exists_leftmost`: whatever starts somewhere, something starts leftmost.
-/

namespace TreeLint
namespace Text

/-! ## Pieces and runs at the front of a text -/

theorem afterPiece?_eq_some_iff {piece cs rest : List Char} :
    afterPiece? piece cs = some rest ↔ cs = piece ++ rest := by
  induction piece generalizing cs with
  | nil => rw [afterPiece?, Option.some_inj, List.nil_append]
  | cons p piece ih =>
      cases cs with
      | nil => simp [afterPiece?]
      | cons c cs =>
          rw [afterPiece?, List.cons_append, List.cons_eq_cons]
          by_cases hpc : p = c
          · rw [if_pos hpc, ih, eq_comm (a := c)]
            exact (and_iff_right hpc).symm
          · simp [hpc, Ne.symm hpc]

@[simp] theorem afterPiece?_append (piece rest : List Char) :
    afterPiece? piece (piece ++ rest) = some rest :=
  afterPiece?_eq_some_iff.mpr rfl

/-- A run of characters of a class in front of another character. -/
theorem takeWhile_run {p : Char → Bool} {run : List Char} (h : ∀ c ∈ run, p c = true) {d : Char}
    (hd : p d = false) (rest : List Char) : (run ++ d :: rest).takeWhile p = run := by
  rw [List.takeWhile_append_of_pos h, List.takeWhile_cons_of_neg (by simp [hd]), List.append_nil]

theorem dropWhile_run {p : Char → Bool} {run : List Char} (h : ∀ c ∈ run, p c = true) {d : Char}
    (hd : p d = false) (rest : List Char) : (run ++ d :: rest).dropWhile p = d :: rest := by
  rw [List.dropWhile_append_of_pos h, List.dropWhile_cons_of_neg (by simp [hd])]

theorem occurs_iff_isInfix {piece cs : List Char} : occurs piece cs = true ↔ piece <:+: cs := by
  induction cs with
  | nil => rw [occurs, List.isEmpty_iff, List.infix_nil]
  | cons c cs ih =>
      simp [occurs, ih, List.infix_cons_iff]

/-- The pieces of a text have only its characters. -/
theorem mem_of_mem_splitOn {sep c : Char} {piece cs : List Char} (hpiece : piece ∈ splitOn sep cs)
    (hc : c ∈ piece) : c ∈ cs := by
  induction cs generalizing piece with
  | nil =>
      rw [List.mem_singleton.mp hpiece] at hc
      cases hc
  | cons d cs ih =>
      rw [splitOn] at hpiece
      split at hpiece
      · rcases List.mem_cons.mp hpiece with rfl | hpiece
        · cases hc
        · exact List.mem_cons_of_mem d (ih hpiece hc)
      · split at hpiece
        · next hnil => exact absurd hnil (splitOn_ne_nil sep cs)
        · next w ws hsplit =>
            rcases List.mem_cons.mp hpiece with rfl | hpiece
            · rcases List.mem_cons.mp hc with rfl | hc
              · exact List.mem_cons_self
              · exact List.mem_cons_of_mem d (ih (hsplit ▸ List.mem_cons_self) hc)
            · exact List.mem_cons_of_mem d (ih (hsplit ▸ List.mem_cons_of_mem w hpiece) hc)

theorem mem_of_mem_trim {c : Char} {cs : List Char} (h : c ∈ trim cs) : c ∈ cs := by
  rw [trim, dropEndWhile, List.mem_reverse] at h
  have hdropped := (List.dropWhile_suffix _).subset h
  exact (List.dropWhile_suffix _).subset (List.mem_reverse.mp hdropped)

/-! ## Leftmost places -/

universe u

section Leftmost

variable {α : Type u} {At : List Char → List Char → α → Prop} {text : List Char} {a : α}

/-- Something starts at a place of a text. -/
def Somewhere (At : List Char → List Char → α → Prop) (text : List Char) (a : α) : Prop :=
  ∃ before rest, text = before ++ rest ∧ At before rest a

/-- Something starts at a place of a text, and nothing starts at an earlier one. -/
def Leftmost (At : List Char → List Char → α → Prop) (text : List Char) (a : α) : Prop :=
  ∃ before rest, text = before ++ rest ∧ At before rest a ∧
    ∀ front back, text = front ++ back → front.length < before.length → ∀ b, ¬ At front back b

theorem Leftmost.somewhere (h : Leftmost At text a) : Somewhere At text a := by
  obtain ⟨before, rest, htext, hat, -⟩ := h
  exact ⟨before, rest, htext, hat⟩

/-- In an empty text there is one place. -/
@[simp] theorem leftmost_nil : Leftmost At [] a ↔ At [] [] a := by
  constructor
  · rintro ⟨before, rest, htext, hat, -⟩
    obtain ⟨rfl, rfl⟩ := List.nil_eq_append_iff.mp htext
    exact hat
  · intro hat
    exact ⟨[], [], rfl, hat, fun _ _ _ hlt => absurd hlt (Nat.not_lt_zero _)⟩

/-- The leftmost place is the front, or nothing starts there and it lies behind the first
character. -/
theorem leftmost_cons {c : Char} {cs : List Char} :
    Leftmost At (c :: cs) a ↔
      At [] (c :: cs) a ∨
        (∀ b, ¬ At [] (c :: cs) b) ∧ Leftmost (fun before => At (c :: before)) cs a := by
  constructor
  · rintro ⟨before, rest, htext, hat, hfirst⟩
    cases before with
    | nil =>
        rw [List.nil_append] at htext
        exact .inl (htext ▸ hat)
    | cons d before =>
        obtain ⟨rfl, rfl⟩ := List.cons_eq_cons.mp htext
        have hfront : ∀ b, ¬ At [] (c :: (before ++ rest)) b :=
          hfirst [] _ rfl (Nat.zero_lt_succ _)
        refine .inr ⟨hfront, before, rest, rfl, hat, ?_⟩
        intro front back hback hlt
        exact hfirst (c :: front) back (congrArg (c :: ·) hback) (Nat.succ_lt_succ hlt)
  · rintro (hat | ⟨hfront, before, rest, rfl, hat, hfirst⟩)
    · exact ⟨[], c :: cs, rfl, hat, fun _ _ _ hlt => absurd hlt (Nat.not_lt_zero _)⟩
    · refine ⟨c :: before, rest, rfl, hat, ?_⟩
      intro front back hback hlt
      cases front with
      | nil =>
          rw [List.nil_append] at hback
          exact hback ▸ hfront
      | cons d front =>
          obtain ⟨rfl, hrest⟩ := List.cons_eq_cons.mp hback
          exact hfirst front back hrest (Nat.lt_of_succ_lt_succ hlt)

theorem somewhere_cons {c : Char} {cs : List Char} :
    Somewhere At (c :: cs) a ↔
      At [] (c :: cs) a ∨ Somewhere (fun before => At (c :: before)) cs a := by
  constructor
  · rintro ⟨before, rest, htext, hat⟩
    cases before with
    | nil =>
        rw [List.nil_append] at htext
        exact .inl (htext ▸ hat)
    | cons d before =>
        obtain ⟨rfl, rfl⟩ := List.cons_eq_cons.mp htext
        exact .inr ⟨before, rest, rfl, hat⟩
  · rintro (hat | ⟨before, rest, rfl, hat⟩)
    · exact ⟨[], c :: cs, rfl, hat⟩
    · exact ⟨c :: before, rest, rfl, hat⟩

/-- If something starts somewhere, something starts leftmost. -/
theorem Somewhere.exists_leftmost (h : Somewhere At text a) : ∃ b, Leftmost At text b := by
  induction text generalizing At with
  | nil =>
      obtain ⟨before, rest, htext, hat⟩ := h
      obtain ⟨rfl, rfl⟩ := List.nil_eq_append_iff.mp htext
      exact ⟨a, leftmost_nil.mpr hat⟩
  | cons c cs ih =>
      by_cases hfront : ∃ b, At [] (c :: cs) b
      · obtain ⟨b, hb⟩ := hfront
        exact ⟨b, leftmost_cons.mpr (.inl hb)⟩
      · have hnone : ∀ b, ¬ At [] (c :: cs) b := not_exists.mp hfront
        obtain ⟨b, hb⟩ := ih ((somewhere_cons.mp h).resolve_left (hnone a))
        exact ⟨b, leftmost_cons.mpr (.inr ⟨hnone, hb⟩)⟩

end Leftmost

end Text
end TreeLint
