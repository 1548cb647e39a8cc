import Mathlib.Data.List.Basic

/-!
# Places in a selection

Of a list some items are kept, each of them perhaps in another form. Behind how many items of the
selection an item stands tells how many items in front of it are kept, so an item keeps its place
only if nothing in front of it is left out.

**Results.**
* `getElem?_filterMap_countPBefore`: the place of an item that is kept.
* `getElem?_filterMap_iff`: when all items keep their places.
-/

namespace TreeLint
namespace Selection

universe u v

variable {α : Type u} {β : Type v} {f : α → Option β} {xs : List α}

/-- An item that is kept stands behind those that are kept of the items in front of it. -/
theorem getElem?_filterMap_countPBefore {i : Nat} {b : β} (h : xs[i]?.bind f = some b) :
    (xs.filterMap f)[xs.countPBefore (fun a => (f a).isSome) i]? = some b := by
  induction xs generalizing i with
  | nil => cases h
  | cons x xs ih =>
      cases i with
      | zero =>
          have hx : f x = some b := h
          simp [List.countPBefore_zero, List.filterMap_cons_some hx]
      | succ i =>
          have hlater := ih h
          rw [List.countPBefore_cons_succ]
          cases hx : f x with
          | none =>
              rw [List.filterMap_cons_none hx]
              exact hlater
          | some y =>
              rw [List.filterMap_cons_some hx]
              exact hlater

theorem getElem?_filter_countPBefore {p : α → Bool} {i : Nat} (h : xs[i]?.any p = true) :
    (xs.filter p)[xs.countPBefore p i]? = xs[i]? := by
  cases ha : xs[i]? with
  | none =>
      rw [ha] at h
      cases h
  | some a =>
      have hp : p a = true := by
        rw [ha] at h
        exact h
      have hguard : xs[i]?.bind (Option.guard p) = some a := by
        rw [ha]
        exact Option.guard_eq_some_iff.mpr ⟨rfl, hp⟩
      have hplace := getElem?_filterMap_countPBefore hguard
      simp only [Option.isSome_guard] at hplace
      rwa [List.filterMap_eq_filter] at hplace

/-- All items keep their places if and only if those that are left out stand behind the others. -/
theorem getElem?_filterMap_iff :
    (∀ k : Nat, (xs.filterMap f)[k]? = xs[k]?.bind f) ↔
      ∀ j k : Nat, j < k → xs[j]?.bind f = none → xs[k]?.bind f = none := by
  constructor
  · intro h j k hjk hj
    rw [← h] at hj ⊢
    exact List.getElem?_eq_none (Nat.le_trans (List.getElem?_eq_none_iff.mp hj) (Nat.le_of_lt hjk))
  · intro h
    induction xs with
    | nil =>
        intro k
        rfl
    | cons x xs ih =>
        have hbehind : ∀ j k : Nat, j < k → xs[j]?.bind f = none → xs[k]?.bind f = none :=
          fun j k hjk => h (j + 1) (k + 1) (by omega)
        cases hx : f x with
        | some b =>
            intro k
            rw [List.filterMap_cons_some hx]
            cases k with
            | zero => exact hx.symm
            | succ k => exact ih hbehind k
        | none =>
            -- nothing behind the item that is left out is kept
            have hnone : ∀ k : Nat, (x :: xs)[k]?.bind f = none := by
              intro k
              cases k with
              | zero => exact hx
              | succ k => exact h 0 (k + 1) (by omega) hx
            have hempty : xs.filterMap f = [] := by
              rw [List.filterMap_eq_nil_iff]
              intro a ha
              obtain ⟨k, hk⟩ := List.getElem?_of_mem ha
              have hak := hnone (k + 1)
              simpa [hk] using hak
            intro k
            rw [List.filterMap_cons_none hx, hempty, hnone k]
            rfl

end Selection
end TreeLint
