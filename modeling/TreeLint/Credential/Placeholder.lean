import TreeLint.Text.WordChar
import TreeLint.Text.Blank
import TreeLint.Text.Piece

/-!
# Placeholders

A candidate secret that stands for a value filled in elsewhere is no secret: a leading question
mark, a `:name` parameter, a numbered slot in braces, or anything with quotation marks.
-/

namespace TreeLint
namespace Credential

open Text

/-- The character that ends a setting inside a connection string. -/
def separator : Char := ';'

/-- Whether a colon is followed by a word character. -/
def hasParameter : List Char → Bool
  | [] => false
  | c :: cs => (c = ':' && cs.head?.any isWordChar) || hasParameter cs

/-- Whether an opening brace is followed by a digit and, later, by a closing brace. -/
def hasSlot : List Char → Bool
  | [] => false
  | c :: cs => (c = '{' && cs.head?.any isDecimalDigit && cs.contains '}') || hasSlot cs

/-- Whether a candidate secret is really a placeholder. -/
def isPlaceholder (candidate : List Char) : Bool :=
  candidate.head? = some '?' || hasParameter candidate || hasSlot candidate ||
    candidate.contains '"' || candidate.getLast? = some '\''

/-- The first setting of a text, without white space around it. -/
def firstSetting (text : List Char) : List Char :=
  trim (text.takeWhile (· != separator))

/-- Whether the first setting of a text is empty or a placeholder. -/
def lacksSecret (text : List Char) : Bool :=
  (firstSetting text).isEmpty || isPlaceholder (firstSetting text)

end Credential
end TreeLint
