import TreeLint.Rule.Descriptor

/-!
# Messages

The message of a finding comes from a template by replacing slots. A slot starts with a brace, so
nothing is replaced in a text without braces, and a template with one slot gives the argument
between the two texts around the slot.

**Results.**
* `Text.replaceAfter_append_of_notMem`, `Text.replaceAfter_piece_append`: what is replaced.
* `Rule.fill_singleton`: a template with one slot.
-/

namespace TreeLint

namespace Text

variable {c : Char} {piece new : List Char}

/-- Nothing is replaced in front of the first character of the piece. -/
theorem replaceAfter_append_of_notMem {as : List Char} (h : c ∉ as) (rest : List Char) :
    replaceAfter (c :: piece) new 0 (as ++ rest) =
      as ++ replaceAfter (c :: piece) new 0 rest := by
  induction as with
  | nil => rfl
  | cons a as ih =>
      rw [List.mem_cons, not_or] at h
      have hstart : (c :: piece).isPrefixOf (a :: (as ++ rest)) = false := by
        simp [List.isPrefixOf_cons_cons, beq_false_of_ne h.1]
      rw [List.cons_append, replaceAfter, if_neg (by rw [hstart]; exact Bool.false_ne_true),
        ih h.2, List.cons_append]

theorem replaceAfter_append_of_length (as rest : List Char) :
    replaceAfter piece new as.length (as ++ rest) = replaceAfter piece new 0 rest := by
  induction as with
  | nil => rfl
  | cons a as ih => exact ih

/-- The piece itself is replaced. -/
theorem replaceAfter_piece_append (rest : List Char) :
    replaceAfter (c :: piece) new 0 (c :: piece ++ rest) =
      new ++ replaceAfter (c :: piece) new 0 rest := by
  simp [replaceAfter, replaceAfter_append_of_length]

end Text

namespace Rule

/-- A template with one slot, and no other brace, puts its argument between two texts. -/
theorem fill_singleton {before behind : String} (hbefore : '\x7b' ∉ before.toList)
    (hbehind : '\x7b' ∉ behind.toList) (arg : String) :
    fill (before ++ "\x7b0\x7d" ++ behind) [arg] = before ++ arg ++ behind := by
  have hslot : slot 0 = '\x7b' :: ['0', '\x7d'] := by
    rfl
  have hnone : ∀ piece new : List Char, Text.replaceAfter piece new 0 [] = [] := by
    intro piece new
    rw [Text.replaceAfter]
  have hrest : Text.replaceAfter ['\x7b', '0', '\x7d'] arg.toList 0 (behind.toList ++ []) =
      behind.toList ++ Text.replaceAfter ['\x7b', '0', '\x7d'] arg.toList 0 [] :=
    Text.replaceAfter_append_of_notMem hbehind []
  rw [List.append_nil, hnone, List.append_nil] at hrest
  have htemplate : (before ++ "\x7b0\x7d" ++ behind).toList =
      before.toList ++ (slot 0 ++ behind.toList) := by
    simp [hslot]
  calc
    fill (before ++ "\x7b0\x7d" ++ behind) [arg]
        = String.ofList (Text.replaceAfter (slot 0) arg.toList 0
            (before.toList ++ (slot 0 ++ behind.toList))) := by
          rw [← htemplate]
          rfl
    _ = String.ofList (before.toList ++ (arg.toList ++ behind.toList)) := by
          rw [hslot, Text.replaceAfter_append_of_notMem hbefore, Text.replaceAfter_piece_append,
            hrest]
    _ = before ++ arg ++ behind := by
          simp [String.append_assoc]

end Rule
end TreeLint
