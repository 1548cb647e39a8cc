/-!
# Pieces of a text

Splitting at a separator, searching for a piece, and replacing one piece by another.
-/

namespace TreeLint
namespace Text

/-- The pieces between the separators; a text without a separator is one piece. -/
def splitOn
    (sep : Char) :
    List Char → List (List Char)
  | [] => [[]]
  | c :: cs =>
    if c = sep then
      [] :: splitOn sep cs
    else
      match splitOn sep cs with
      | [] => [[c]]
      | w :: ws => (c :: w) :: ws

theorem splitOn_ne_nil (sep : Char) (cs : List Char) : splitOn sep cs ≠ [] := by
  cases cs with
  | nil => exact List.cons_ne_nil _ _
  | cons c cs =>
      rw [splitOn]
      split
      · exact List.cons_ne_nil _ _
      · split <;> exact List.cons_ne_nil _ _

/-- A text whose first piece is empty is empty or starts with the separator. -/
theorem eq_of_splitOn_eq_nil_cons {sep : Char} {cs : List Char} {more : List (List Char)}
    (h : splitOn sep cs = [] :: more) :
    (cs = [] ∧ more = []) ∨ ∃ rest, cs = sep :: rest ∧ more = splitOn sep rest := by
  cases cs with
  | nil => exact .inl ⟨rfl, (List.tail_eq_of_cons_eq h).symm⟩
  | cons c cs =>
      rw [splitOn] at h
      split at h
      · next hc => exact .inr ⟨cs, by rw [hc], (List.tail_eq_of_cons_eq h).symm⟩
      · split at h <;> simp at h

/-- A text without the separator is one piece. -/
theorem splitOn_of_notMem {sep : Char} {cs : List Char} (h : sep ∉ cs) : splitOn sep cs = [cs] := by
  induction cs with
  | nil => rfl
  | cons c cs ih =>
      rw [List.mem_cons, not_or] at h
      rw [splitOn, if_neg (Ne.symm h.1), ih h.2]

/-- The pieces on both sides of a separator. -/
theorem splitOn_append_cons (sep : Char) (as bs : List Char) :
    splitOn sep (as ++ sep :: bs) = splitOn sep as ++ splitOn sep bs := by
  induction as with
  | nil => simp [splitOn]
  | cons a as ih =>
      rw [List.cons_append, splitOn, splitOn, ih]
      split
      · rfl
      · cases h : splitOn sep as with
        | nil => exact absurd h (splitOn_ne_nil sep as)
        | cons w ws => rfl

/-- Whether a piece occurs in a text. -/
def occurs
    (piece : List Char) :
    List Char → Bool
  | [] => piece.isEmpty
  | c :: cs => piece.isPrefixOf (c :: cs) || occurs piece cs

/-- Replaces the occurrences of a piece from the left, after leaving out `skip` characters that
belong to the occurrence just replaced. -/
def replaceAfter
    (piece new : List Char) :
    Nat → List Char → List Char
  | _, [] => []
  | skip + 1, _ :: cs => replaceAfter piece new skip cs
  | 0, c :: cs =>
    if piece.isPrefixOf (c :: cs) then
      new ++ replaceAfter piece new (piece.length - 1) cs
    else
      c :: replaceAfter piece new 0 cs

/-- Replaces every occurrence of a non-empty piece, from left to right and without overlap. -/
def replace (piece new cs : List Char) : List Char :=
  replaceAfter piece new 0 cs

/-- The rest of a text after a piece it starts with. -/
def afterPiece? : List Char → List Char → Option (List Char)
  | [], cs => some cs
  | _ :: _, [] => none
  | p :: ps, c :: cs => if p = c then afterPiece? ps cs else none

/-- Equality of two texts regardless of the case of ASCII letters. -/
def sameAscii (a b : List Char) : Bool :=
  a.map Char.toLower == b.map Char.toLower

/-- Equality of two strings regardless of the case of ASCII letters. -/
def sameAsciiString (a b : String) : Bool :=
  sameAscii a.toList b.toList

end Text
end TreeLint
