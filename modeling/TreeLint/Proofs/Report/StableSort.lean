import Mathlib.Data.List.Sort

/-!
# Stable sorting

Where an order is coarser than equality, a sorted list is not determined by its members alone. It
is determined by its members together with the order in which alike ones stand. From this follows
how sorting commutes with other operations on lists.

**Results.**
* `Ranks.eq_of_filter_alike`: sorted lists with the same alike members, each time in the same
  order, are equal.
* `Ranks.filter_mergeSort`, `Ranks.mergeSort_append_mergeSort` and `Ranks.mergeSort_insert`: how
  sorting commutes with taking a part of a list, with sorting some parts first, and with adding
  one more member.
-/

namespace TreeLint

section StableSort

variable {α : Type}

/-- Whether two members may stand in either order. -/
def alike (le : α → α → Bool) (a b : α) : Bool :=
  le a b && le b a

/-- A comparison that puts any two members in some order, and does so consistently. -/
structure Ranks (le : α → α → Bool) : Prop where
  trans : ∀ a b c, le a b → le b c → le a c
  total : ∀ a b, le a b || le b a

variable {le : α → α → Bool}

theorem Ranks.refl (h : Ranks le) (a : α) : le a a = true := by
  simpa using h.total a a

theorem Ranks.alike_self (h : Ranks le) (a : α) : alike le a a = true := by
  simp [alike, h.refl a]

/-- Members that are alike to one member are in order, whichever way they stand. -/
theorem Ranks.pairwise_filter_alike (h : Ranks le) (a : α) (l : List α) :
    (l.filter (alike le a)).Pairwise fun b c => le b c = true := by
  induction l with
  | nil =>
      exact List.Pairwise.nil
  | cons b rest ih =>
      by_cases hb : alike le a b = true
      · rw [List.filter_cons_of_pos hb, List.pairwise_cons]
        refine ⟨?_, ih⟩
        intro c hc
        have hac : alike le a c = true := (List.mem_filter.mp hc).2
        simp only [alike, Bool.and_eq_true] at hb hac
        exact h.trans b a c hb.2 hac.1
      · rw [List.filter_cons_of_neg hb]
        exact ih

/-- Sorting keeps alike members in their order. -/
theorem Ranks.filter_alike_mergeSort (h : Ranks le) (a : α) (l : List α) :
    (l.mergeSort le).filter (alike le a) = l.filter (alike le a) := by
  have hsub : (l.filter (alike le a)).Sublist (l.mergeSort le) :=
    List.sublist_mergeSort h.trans h.total (h.pairwise_filter_alike a l) List.filter_sublist
  have hfilter : (l.filter (alike le a)).Sublist ((l.mergeSort le).filter (alike le a)) := by
    simpa using hsub.filter (alike le a)
  have hlength :
      ((l.mergeSort le).filter (alike le a)).length = (l.filter (alike le a)).length :=
    ((List.mergeSort_perm l le).filter (alike le a)).length_eq
  exact (hfilter.eq_of_length hlength.symm).symm

/-- The first of two sorted lists with the same alike members starts like the second. -/
theorem Ranks.head_le_of_filter_alike (h : Ranks le) {b c : α} {s t : List α}
    (ht : (c :: t).Pairwise fun x y => le x y = true)
    (hclasses : ∀ a, (b :: s).filter (alike le a) = (c :: t).filter (alike le a)) :
    le c b = true := by
  have hmem : b ∈ (b :: s).filter (alike le b) := by
    simp [h.alike_self b]
  rw [hclasses b] at hmem
  have hb : b ∈ c :: t := (List.mem_filter.mp hmem).1
  rcases List.mem_cons.mp hb with rfl | hb
  · exact h.refl b
  · exact (List.pairwise_cons.mp ht).1 b hb

/-- Sorted lists with the same alike members, each time in the same order, are equal. -/
theorem Ranks.eq_of_filter_alike (h : Ranks le) :
    ∀ {s t : List α},
      (s.Pairwise fun x y => le x y = true) →
      (t.Pairwise fun x y => le x y = true) →
      (∀ a, s.filter (alike le a) = t.filter (alike le a)) →
      s = t
  | [], [], _, _, _ => rfl
  | [], c :: t, _, _, hclasses => by
      have hc := hclasses c
      simp [h.alike_self c] at hc
  | b :: s, [], _, _, hclasses => by
      have hb := hclasses b
      simp [h.alike_self b] at hb
  | b :: s, c :: t, hs, ht, hclasses => by
      have hcb : le c b = true := h.head_le_of_filter_alike ht hclasses
      have hbc : le b c = true := h.head_le_of_filter_alike hs fun a => (hclasses a).symm
      have hheads := hclasses b
      rw [List.filter_cons_of_pos (h.alike_self b),
        List.filter_cons_of_pos (by simp [alike, hbc, hcb])] at hheads
      obtain ⟨rfl, -⟩ := List.cons.inj hheads
      -- the heads are equal, so each class loses the same member
      have htails : ∀ a, s.filter (alike le a) = t.filter (alike le a) := by
        intro a
        have ha := hclasses a
        by_cases hab : alike le a b = true
        · rw [List.filter_cons_of_pos hab, List.filter_cons_of_pos hab] at ha
          exact (List.cons.inj ha).2
        · rw [List.filter_cons_of_neg hab, List.filter_cons_of_neg hab] at ha
          exact ha
      rw [h.eq_of_filter_alike (List.pairwise_cons.mp hs).2 (List.pairwise_cons.mp ht).2 htails]

/-- A sorted list with the alike members of another one, in their order, is that one sorted. -/
theorem Ranks.eq_mergeSort_of_filter_alike (h : Ranks le) {l s : List α}
    (hs : s.Pairwise fun x y => le x y = true)
    (hclasses : ∀ a, s.filter (alike le a) = l.filter (alike le a)) :
    s = l.mergeSort le := by
  apply h.eq_of_filter_alike hs
  · exact List.pairwise_mergeSort h.trans h.total l
  · intro a
    rw [h.filter_alike_mergeSort a l, hclasses a]

/-- Taking a part of a list commutes with sorting. -/
theorem Ranks.filter_mergeSort (h : Ranks le) (p : α → Bool) (l : List α) :
    (l.mergeSort le).filter p = (l.filter p).mergeSort le := by
  apply h.eq_mergeSort_of_filter_alike
  · exact (List.pairwise_mergeSort h.trans h.total l).filter p
  · intro a
    calc
      ((l.mergeSort le).filter p).filter (alike le a)
          = ((l.mergeSort le).filter (alike le a)).filter p := List.filter_comm ..
      _ = (l.filter (alike le a)).filter p := by rw [h.filter_alike_mergeSort]
      _ = (l.filter p).filter (alike le a) := List.filter_comm ..

/-- Sorting the parts first does not change what sorting the whole gives. -/
theorem Ranks.mergeSort_append_mergeSort (h : Ranks le) (l m : List α) :
    (l.mergeSort le ++ m.mergeSort le).mergeSort le = (l ++ m).mergeSort le := by
  apply h.eq_mergeSort_of_filter_alike
  · exact List.pairwise_mergeSort h.trans h.total _
  · intro a
    simp [h.filter_alike_mergeSort]

/-- The comparison of keys ranks what has them. -/
theorem Ranks.onKey {β : Type} (h : Ranks le) (key : β → α) :
    Ranks fun p q => le (key p) (key q) where
  trans := fun p q r => h.trans (key p) (key q) (key r)
  total := fun p q => h.total (key p) (key q)

/-- The comparison of the first components of pairs ranks pairs. -/
theorem Ranks.onFirst (h : Ranks le) : Ranks fun p q : α × Bool => le p.1 q.1 :=
  h.onKey Prod.fst

/-- Forgetting the marks of a sorted list of marked members sorts the members. -/
theorem map_fst_mergeSort (l : List (α × Bool)) :
    (l.mergeSort fun p q => le p.1 q.1).map Prod.fst = (l.map Prod.fst).mergeSort le :=
  List.map_mergeSort fun _ _ _ _ => rfl

/-- One more member of a list leaves the other ones as they are in the sorted list. -/
theorem Ranks.mergeSort_insert (h : Ranks le) (l : List α) (a : α) (m : List α) :
    ∃ front back,
      (l ++ a :: m).mergeSort le = front ++ a :: back ∧
      (l ++ m).mergeSort le = front ++ back := by
  -- the new member is marked, so that it can be told from its copies
  let plain : List α → List (α × Bool) := List.map fun b => (b, false)
  let marked := plain l ++ (a, true) :: plain m
  let sorted := marked.mergeSort fun p q => le p.1 q.1
  have hplain : ∀ k : List α, (plain k).filter Prod.snd = [] := by
    intro k
    simp [plain]
  have hforget : ∀ k : List α, (plain k).map Prod.fst = k := by
    intro k
    simp [plain, Function.comp_def]
  have hsnd : sorted.filter Prod.snd = [(a, true)] := by
    show (marked.mergeSort _).filter Prod.snd = _
    rw [h.onFirst.filter_mergeSort]
    simp [marked, hplain]
  obtain ⟨front, back, hsorted, hfront, -, hback⟩ := List.filter_eq_cons_iff.mp hsnd
  refine ⟨front.map Prod.fst, back.map Prod.fst, ?_, ?_⟩
  · calc
      (l ++ a :: m).mergeSort le
          = (marked.map Prod.fst).mergeSort le := by
            simp [marked, hforget]
      _ = sorted.map Prod.fst := (map_fst_mergeSort marked).symm
      _ = front.map Prod.fst ++ a :: back.map Prod.fst := by
            rw [hsorted]
            simp
  · have hunmarked : sorted.filter (fun p => !p.2) = front ++ back := by
      rw [hsorted, List.filter_append, List.filter_cons_of_neg (by simp)]
      congr 1
      · exact List.filter_eq_self.mpr fun p hp => by simpa using hfront p hp
      · exact List.filter_eq_self.mpr fun p hp => by
          simpa using List.filter_eq_nil_iff.mp hback p hp
    have hrest : (marked.filter fun p => !p.2) = plain (l ++ m) := by
      simp [marked, plain, List.filter_map, Function.comp_def]
    calc
      (l ++ m).mergeSort le
          = ((marked.filter fun p => !p.2).map Prod.fst).mergeSort le := by
            rw [hrest, hforget]
      _ = ((marked.filter fun p => !p.2).mergeSort fun p q => le p.1 q.1).map Prod.fst :=
            (map_fst_mergeSort _).symm
      _ = (sorted.filter fun p => !p.2).map Prod.fst := by
            rw [← h.onFirst.filter_mergeSort]
      _ = front.map Prod.fst ++ back.map Prod.fst := by
            simp [hunmarked]

end StableSort

end TreeLint
