/-!
# Lists without repetition

Adding the members of one list to another, each of them once. Adding a list that was itself put
together in this way is adding its parts one after another.
-/

namespace TreeLint

/-- Adds the members of a second list that are new to a first one, in order and each once. -/
def addNew {α : Type} [BEq α] : List α → List α → List α
  | seen, [] => seen
  | seen, a :: rest => if seen.contains a then addNew seen rest else addNew (seen ++ [a]) rest

section AddNew

variable {α : Type} [BEq α]

theorem addNew_append (a b c : List α) : addNew a (b ++ c) = addNew (addNew a b) c := by
  induction b generalizing a with
  | nil => rfl
  | cons x b ih =>
      rw [List.cons_append, addNew, addNew]
      split
      · exact ih a
      · exact ih (a ++ [x])

variable [LawfulBEq α]

/-- A member that is there already adds nothing. -/
theorem addNew_cons_of_mem {x : α} {seen : List α} (h : x ∈ seen) (rest : List α) :
    addNew seen (x :: rest) = addNew seen rest := by
  rw [addNew, if_pos (List.contains_iff_mem.mpr h)]

theorem addNew_cons_of_notMem {x : α} {seen : List α} (h : x ∉ seen) (rest : List α) :
    addNew seen (x :: rest) = addNew (seen ++ [x]) rest := by
  rw [addNew, if_neg (mt List.contains_iff_mem.mp h)]

theorem mem_addNew {x : α} (seen rest : List α) :
    x ∈ addNew seen rest ↔ x ∈ seen ∨ x ∈ rest := by
  induction rest generalizing seen with
  | nil => simp [addNew]
  | cons a rest ih =>
      by_cases ha : a ∈ seen
      · rw [addNew_cons_of_mem ha, ih, List.mem_cons]
        constructor
        · exact Or.imp_right .inr
        · rintro (h | rfl | h)
          · exact .inl h
          · exact .inl ha
          · exact .inr h
      · simp [addNew_cons_of_notMem ha, ih, or_assoc]

theorem nodup_addNew {seen : List α} (h : seen.Nodup) (rest : List α) :
    (addNew seen rest).Nodup := by
  induction rest generalizing seen with
  | nil => exact h
  | cons a rest ih =>
      by_cases ha : a ∈ seen
      · rw [addNew_cons_of_mem ha]
        exact ih h
      · rw [addNew_cons_of_notMem ha]
        apply ih
        rw [List.nodup_append]
        refine ⟨h, List.nodup_cons.mpr ⟨List.not_mem_nil, List.nodup_nil⟩, ?_⟩
        rintro x hx y hy rfl
        exact ha (List.mem_singleton.mp hy ▸ hx)

theorem addNew_assoc (a b c : List α) : addNew (addNew a b) c = addNew a (addNew b c) := by
  rw [← addNew_append]
  induction c generalizing b with
  | nil => rw [List.append_nil, addNew]
  | cons x c ih =>
      by_cases hx : x ∈ b
      · have hmem : x ∈ addNew a b := (mem_addNew a b).mpr (.inr hx)
        rw [addNew_cons_of_mem hx, ← ih, addNew_append, addNew_cons_of_mem hmem, addNew_append]
      · rw [addNew_cons_of_notMem hx, ← ih, List.append_assoc]
        rfl

end AddNew

end TreeLint
