import Mathlib.Data.List.Forall2
import Mathlib.Data.List.TakeWhile
import TreeLint.Grammar.Csharp
import TreeLint.Grammar.VisualBasic

/-!
# Spellings of string literals

A text can be written as a literal in several ways. In a regular literal every character is spelled
by itself, whichever way suits it; in a plain literal only the quotation marks are changed, each of
them doubled. All of these spellings are read back as the text they were made from.

**Results.**
* `unescape_append`: the spelling of a character is read as that character, whatever follows.
* `halveQuotes_doubleQuotes`: doubling the quotation marks is undone.
* `isRaw_quoted`: no regular literal is taken for a raw one.
* `unquote_spelled`: what the languages read from the spellings of a text.
-/

namespace TreeLint
namespace Text

/-! ## Spellings -/

/-- A text between quotation marks. -/
def quoted (cs : List Char) : List Char :=
  '"' :: (cs ++ ['"'])

/-- A text with every quotation mark written twice. -/
def doubleQuotes : List Char → List Char
  | [] => []
  | c :: cs => if c = '"' then '"' :: '"' :: doubleQuotes cs else c :: doubleQuotes cs

/-- The letters of the simple escapes, with the characters they stand for. -/
def simpleEscapes : List (Char × Char) :=
  [('"', '"'), ('\'', '\''), ('\\', '\\'), ('0', '\x00'), ('a', '\x07'), ('b', '\x08'),
    ('f', '\x0C'), ('n', '\n'), ('r', '\r'), ('t', '\t'), ('v', '\x0B')]

/-- So many hexadecimal digits are the code point of a character. -/
structure IsCode (width : Nat) (c : Char) (digits : List Char) : Prop where
  length : digits.length = width
  isHexDigit : ∀ d ∈ digits, isHexDigit d = true
  number : hexNumber digits = c.toNat

/-- The ways to spell a character in a regular literal. -/
inductive SpelledAs : Char → List Char → Prop
  | itself {c : Char} (hquote : c ≠ '"') (hslash : c ≠ '\\') : SpelledAs c [c]
  | simple {c letter : Char} (h : (letter, c) ∈ simpleEscapes) : SpelledAs c ['\\', letter]
  | short {c : Char} {digits : List Char} (h : IsCode 4 c digits) :
      SpelledAs c ('\\' :: 'u' :: digits)
  | long {c : Char} {digits : List Char} (h : IsCode 8 c digits) :
      SpelledAs c ('\\' :: 'U' :: digits)

variable {c marker : Char} {text digits : List Char} {s : List Char} {texts : List (List Char)}

/-! ## Regular literals -/

@[simp] theorem charOf?_toNat (c : Char) : charOf? c.toNat = some c := by
  have hvalid : c.toNat.isValidChar := c.valid
  simp [charOf?, hvalid]

theorem unescapeAfter_append (skipped rest : List Char) :
    unescapeAfter skipped.length (skipped ++ rest) = unescape rest := by
  induction skipped with
  | nil => rfl
  | cons c skipped ih =>
      simpa [unescapeAfter] using ih

theorem unescape_cons (hslash : c ≠ '\\') (rest : List Char) :
    unescape (c :: rest) = c :: unescape rest := by
  rw [unescape, unescapeAfter]
  · rfl
  · intro d more hc
    exact absurd hc hslash

theorem unescape_simple {letter : Char} (h : (letter, c) ∈ simpleEscapes) (rest : List Char) :
    unescape ('\\' :: letter :: rest) = c :: unescape rest := by
  have hall : ∀ p ∈ simpleEscapes, escapeWidth? p.1 = none ∧ simpleEscape p.1 = p.2 := by
    decide
  obtain ⟨hwidth, hvalue⟩ := hall _ h
  rw [unescape, unescapeAfter, hwidth]
  exact congrArg (· :: unescape rest) hvalue

theorem IsCode.numericEscape_eq {width : Nat} (h : IsCode (width + 1) c digits) (marker : Char) :
    numericEscape marker digits = [c] := by
  have hchar : charOf? (hexNumber digits) = some c := by
    simp [h.number]
  have hlength := h.length
  cases digits with
  | nil => cases hlength
  | cons d more => simp only [numericEscape, hchar]

/-- A numeric escape takes its digits and no more, even where further ones follow. -/
theorem unescape_code {width : Nat} (hwidth : escapeWidth? marker = some (width + 1))
    (h : IsCode (width + 1) c digits) (rest : List Char) :
    unescape ('\\' :: marker :: (digits ++ rest)) = c :: unescape rest := by
  have htaken : ((digits ++ rest).take (width + 1)).takeWhile isHexDigit = digits := by
    rw [← h.length, List.take_left]
    exact List.takeWhile_eq_self_iff.mpr h.isHexDigit
  have hrest := unescapeAfter_append (marker :: digits) rest
  rw [unescape, unescapeAfter, hwidth]
  simp only [htaken, h.numericEscape_eq, List.singleton_append]
  exact congrArg (c :: ·) hrest

/-- The spelling of a character is read as that character, whatever follows. -/
theorem unescape_append (h : SpelledAs c text) (rest : List Char) :
    unescape (text ++ rest) = c :: unescape rest := by
  cases h with
  | itself _ hslash => exact unescape_cons hslash rest
  | simple hletter => exact unescape_simple hletter rest
  | short hcode => exact unescape_code rfl hcode rest
  | long hcode => exact unescape_code rfl hcode rest

theorem unescape_flatten (h : List.Forall₂ SpelledAs s texts) : unescape texts.flatten = s := by
  induction h with
  | nil => rfl
  | cons hc _ ih => rw [List.flatten_cons, unescape_append hc, ih]

/-- No spelling starts with a quotation mark. -/
theorem SpelledAs.head?_ne (h : SpelledAs c text) : ∃ d more, text = d :: more ∧ d ≠ '"' := by
  cases h with
  | itself hquote _ => exact ⟨c, [], rfl, hquote⟩
  | simple _ => exact ⟨_, _, rfl, by decide⟩
  | short _ => exact ⟨_, _, rfl, by decide⟩
  | long _ => exact ⟨_, _, rfl, by decide⟩

/-- A regular literal is not taken for a raw one: its body does not start with a quotation mark. -/
theorem isRaw_quoted (h : List.Forall₂ SpelledAs s texts) :
    isRaw (quoted texts.flatten) = false := by
  cases h with
  | nil => rfl
  | cons hc _ =>
      obtain ⟨d, more, rfl, hd⟩ := hc.head?_ne
      simp [isRaw, quoted, rawQuotes, List.isPrefixOf, Ne.symm hd]

/-! ## Plain literals -/

theorem halveQuotes_cons (hc : c ≠ '"') (cs : List Char) :
    halveQuotes (c :: cs) = c :: halveQuotes cs := by
  rw [halveQuotes]
  intro more hquote
  exact absurd hquote hc

@[simp] theorem halveQuotes_doubleQuotes (cs : List Char) : halveQuotes (doubleQuotes cs) = cs := by
  induction cs with
  | nil => rfl
  | cons c cs ih =>
      rw [doubleQuotes]
      split
      · next hc => rw [halveQuotes, ih, hc]
      · next hc => rw [halveQuotes_cons hc, ih]

@[simp] theorem betweenQuotes?_quoted (cs : List Char) : betweenQuotes? (quoted cs) = some cs := by
  simp [betweenQuotes?, quoted]

@[simp] theorem unquotePlain?_quoted_doubleQuotes (cs : List Char) :
    unquotePlain? (quoted (doubleQuotes cs)) = some cs := by
  simp [unquotePlain?]

/-! ## What the languages read -/

/-- A text is read back from each of its spellings: in one language from the regular ones and from
the plain one behind an at-sign, in the other from the plain one. -/
theorem unquote_spelled (s : List Char) :
    (∀ texts, List.Forall₂ SpelledAs s texts →
        Grammar.csharp.unquote (quoted texts.flatten) = some s) ∧
      Grammar.csharp.unquote ('@' :: quoted (doubleQuotes s)) = some s ∧
      Grammar.visualBasic.unquote (quoted (doubleQuotes s)) = some s := by
  refine ⟨?_, unquotePlain?_quoted_doubleQuotes s, unquotePlain?_quoted_doubleQuotes s⟩
  intro texts h
  show unquoteEscaped? (quoted texts.flatten) = some s
  rw [quoted, unquoteEscaped?, ← quoted, isRaw_quoted h, betweenQuotes?_quoted]
  · exact congrArg some (unescape_flatten h)
  · intro rest hat
    cases hat

/-- Digits follow an escape of fixed width, and a quotation mark stands at the end. -/
theorem unquote_spelled_mixed :
    let s := "€0\\\n𝄞\"".toList
    let texts := ["\\u20aC".toList, "0".toList, "\\\\".toList, "\\n".toList, "\\U0001D11E".toList,
      "\\\"".toList]
    List.Forall₂ SpelledAs s texts ∧ Grammar.csharp.unquote (quoted texts.flatten) = some s := by
  intro s texts
  have h : List.Forall₂ SpelledAs s texts :=
    .cons (.short ⟨rfl, List.all_eq_true.mp (by decide), by decide⟩) <|
    .cons (.itself (by decide) (by decide)) <|
    .cons (.simple (by decide)) <|
    .cons (.simple (by decide)) <|
    .cons (.long ⟨rfl, List.all_eq_true.mp (by decide), by decide⟩) <|
    .cons (.simple (by decide)) .nil
  exact ⟨h, (unquote_spelled s).1 texts h⟩

end Text
end TreeLint
