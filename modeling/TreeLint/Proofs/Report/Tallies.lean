import TreeLint.Proofs.Joining
import TreeLint.Report.Summary

/-!
# Tables of tallies

A table is looked at through what it says about one rule: how often it was evaluated and how many
findings it had, the time apart. Merging two tables adds what they say, rule by rule.
-/

namespace TreeLint
namespace Report

namespace Tally

/-- A tally without the time it counts: the evaluations and the findings. -/
def untimed (t : Tally) : Tally :=
  { t with nanoseconds := 0 }

@[simp] theorem zero_add (t : Tally) : zero.add t = t := by
  simp [zero, add]

@[simp] theorem untimed_add (a b : Tally) : (a.add b).untimed = a.untimed.add b.untimed :=
  rfl

instance : Std.Associative add where
  assoc := by
    intro a b c
    simp [add, Nat.add_assoc]

end Tally

namespace Tallies

/-- The evaluations and findings of a rule, if the table has an entry for it. -/
def counts (ts : Tallies) (ruleId : String) : Option Tally :=
  ts[ruleId]?.map Tally.untimed

/-- The findings of a rule; none without an entry. -/
def findingsOf (ts : Tallies) (ruleId : String) : Nat :=
  (ts[ruleId]?.map Tally.findings).getD 0

@[simp] theorem counts_empty (ruleId : String) : counts ∅ ruleId = none := by
  simp [counts]

theorem addTo_eq_put : addTo = Joining.put Tally.add Tally.zero :=
  rfl

@[simp] theorem getElem?_addTo_self (ts : Tallies) (id : String) (t : Tally) :
    (ts.addTo id t)[id]? = Option.merge Tally.add ts[id]? (some t) :=
  Joining.getElem?_put_self Tally.zero_add ts id t

theorem getElem?_addTo_of_ne (ts : Tallies) {id k : String} (h : id ≠ k) (t : Tally) :
    (ts.addTo id t)[k]? = ts[k]? :=
  Joining.getElem?_put_of_ne Tally.add Tally.zero ts h t

/-- The entries of a merged table are the sums of the entries. -/
@[simp] theorem getElem?_merge (a b : Tallies) (k : String) :
    (a.merge b)[k]? = Option.merge Tally.add a[k]? b[k]? := by
  rw [merge, addTo_eq_put, Joining.getElem?_foldl_put Tally.zero_add]

@[simp] theorem counts_merge (a b : Tallies) (k : String) :
    (a.merge b).counts k = Option.merge Tally.add (a.counts k) (b.counts k) := by
  rw [counts, getElem?_merge]
  cases ha : a[k]? <;> cases hb : b[k]? <;> simp [counts, ha, hb]

@[simp] theorem findingsOf_addTo (ts : Tallies) (id k : String) (t : Tally) :
    (ts.addTo id t).findingsOf k = ts.findingsOf k + if id = k then t.findings else 0 := by
  by_cases h : id = k
  · subst h
    rw [findingsOf, getElem?_addTo_self, if_pos rfl]
    cases hid : ts[id]? <;> simp [findingsOf, hid, Tally.add]
  · simp [findingsOf, getElem?_addTo_of_ne ts h, h]

@[simp] theorem findingsOf_merge (a b : Tallies) (k : String) :
    (a.merge b).findingsOf k = a.findingsOf k + b.findingsOf k := by
  rw [findingsOf, getElem?_merge]
  cases ha : a[k]? <;> cases hb : b[k]? <;> simp [findingsOf, ha, hb, Tally.add]

end Tallies
end Report
end TreeLint
