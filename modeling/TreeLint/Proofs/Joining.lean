import Std.Data.TreeMap

/-!
# Tables joined entry by entry

The entries of a second table are put into a first one; where both have an entry, the two are put
together. What the joined table holds for a key depends on what the two hold for that key.
-/

namespace TreeLint
namespace Joining

variable {α : Type} (op : α → α → α) (unit : α)

/-- Puts one entry into a table; `unit` stands for an entry that is missing. -/
def put (m : Std.TreeMap String α) (key : String) (a : α) : Std.TreeMap String α :=
  m.insert key (op (m[key]?.getD unit) a)

theorem getElem?_put_self {op : α → α → α} {unit : α} (hunit : ∀ a, op unit a = a)
    (m : Std.TreeMap String α) (key : String) (a : α) :
    (put op unit m key a)[key]? = Option.merge op m[key]? (some a) := by
  rw [put, Std.TreeMap.getElem?_insert_self]
  cases m[key]? <;> simp [hunit]

theorem getElem?_put_of_ne (m : Std.TreeMap String α) {key k : String} (h : key ≠ k) (a : α) :
    (put op unit m key a)[k]? = m[k]? := by
  simp [put, Std.TreeMap.getElem?_insert, h]

/-- Entries for other keys do not change what a table holds for a key. -/
theorem getElem?_foldl_put_of_notMem (k : String) (l : List (String × α))
    (m : Std.TreeMap String α) (h : ∀ e ∈ l, e.1 ≠ k) :
    (l.foldl (fun m e => put op unit m e.1 e.2) m)[k]? = m[k]? := by
  induction l generalizing m with
  | nil => rfl
  | cons e l ih =>
      rw [List.foldl_cons, ih _ fun d hd => h d (List.mem_cons_of_mem _ hd)]
      exact getElem?_put_of_ne op unit m (h e List.mem_cons_self) e.2

/-- Of entries with distinct keys the one for a key is put in. -/
theorem getElem?_foldl_put_of_mem {op : α → α → α} {unit : α} (hunit : ∀ a, op unit a = a)
    {k : String} {a : α} {l : List (String × α)} (m : Std.TreeMap String α)
    (hl : l.Pairwise fun d e => d.1 ≠ e.1) (hmem : (k, a) ∈ l) :
    (l.foldl (fun m e => put op unit m e.1 e.2) m)[k]? = Option.merge op m[k]? (some a) := by
  induction l generalizing m with
  | nil => exact absurd hmem List.not_mem_nil
  | cons e l ih =>
      obtain ⟨he, hl⟩ := List.pairwise_cons.mp hl
      rw [List.foldl_cons]
      rcases List.mem_cons.mp hmem with rfl | hmem
      · rw [getElem?_foldl_put_of_notMem op unit k l _ fun d hd => (he d hd).symm]
        exact getElem?_put_self hunit m k a
      · rw [ih _ hl hmem, getElem?_put_of_ne op unit m (he (k, a) hmem) e.2]

theorem getElem?_foldl_put {op : α → α → α} {unit : α} (hunit : ∀ a, op unit a = a)
    (m n : Std.TreeMap String α) (k : String) :
    (n.foldl (put op unit) m)[k]? = Option.merge op m[k]? n[k]? := by
  have hdistinct : n.toList.Pairwise fun d e => d.1 ≠ e.1 :=
    Std.TreeMap.distinct_keys_toList.imp fun h => by simpa using h
  rw [Std.TreeMap.foldl_eq_foldl_toList]
  cases hn : n[k]? with
  | none =>
      rw [Option.merge_none_right]
      apply getElem?_foldl_put_of_notMem
      rintro ⟨key, a⟩ he rfl
      simp [Std.TreeMap.mem_toList_iff_getElem?_eq_some, hn] at he
  | some a =>
      apply getElem?_foldl_put_of_mem hunit _ hdistinct
      simpa [Std.TreeMap.mem_toList_iff_getElem?_eq_some] using hn

end Joining
end TreeLint
