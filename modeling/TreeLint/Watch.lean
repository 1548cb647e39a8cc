/-!
# Watching for cancellation

An analysis can be cancelled, and go on again, at any moment. While an input is analyzed, a flag is
looked at from time to time, and work goes on as long as the flag is not seen set.
-/

namespace TreeLint

/-- What the successive looks at the flag show while one input is analyzed. -/
abbrev Watch := Nat → Bool

namespace Watch

/-- A watch over a flag that does not change. -/
def steady (flag : Bool) : Watch :=
  fun _ => flag

/-- The watch after its first look. -/
def next (w : Watch) : Watch :=
  fun k => w (k + 1)

/-- The items that are taken up when there is a look at the flag in front of each of them. -/
def admitted {α : Type} (w : Watch) : List α → List α
  | [] => []
  | a :: rest => if w 0 then [] else a :: w.next.admitted rest

end Watch
end TreeLint
