import TreeLint.Text.Letter

/-!
# Words of a compound identifier

`camelWords` splits an identifier at its non-letters and at its changes of case. An upper-case
letter starts a word after a lower-case letter, and also before one: `HTTPPassword` is made of
`HTTP` and `Password`.
-/

namespace TreeLint
namespace Text

/-- What the splitting needs to know about characters. -/
structure LetterClasses where
  letter : Char → Bool
  upper : Char → Bool
  lower : Char → Bool

/-- The letters of all scripts. -/
def unicodeLetters : LetterClasses :=
  ⟨isLetter, isUpper, isLower⟩

namespace LetterClasses

/-- Whether a letter and what follows it stand in one word. -/
def joins
    (k : LetterClasses)
    (c : Char) :
    List Char → Bool
  | [] => false
  | d :: rest => k.letter d && !(k.upper d && (k.lower c || rest.head?.any k.lower))

/-- Puts a letter in front of the first word. -/
def extendFirst
    (c : Char) :
    List (List Char) → List (List Char)
  | [] => [[c]]
  | w :: ws => (c :: w) :: ws

/-- The words of a text, in order. -/
def words (k : LetterClasses) : List Char → List (List Char)
  | [] => []
  | c :: cs =>
    if k.letter c then
      if k.joins c cs then extendFirst c (k.words cs) else [c] :: k.words cs
    else
      k.words cs

end LetterClasses

/-- The words of an identifier, in order. -/
def camelWords (name : List Char) : List (List Char) :=
  unicodeLetters.words name

end Text
end TreeLint
