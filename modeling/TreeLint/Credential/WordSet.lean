import TreeLint.Credential.Placeholder
import TreeLint.Text.CamelCase
import TreeLint.Text.Lowercase
import TreeLint.Text.Folding
import TreeLint.Distinct

/-!
# Credential words

The words that point at a credential come from a comma separated list. They are looked for in the
name a value is assigned to, and in the value itself as the left side of a `word=value` pair that
reaches to the end of the text.
-/

namespace TreeLint
namespace Credential

open Text

/-- The items of a comma separated list, trimmed and mapped to lower case by `lowerCase`. -/
def listItems
    (lowerCase : List Char → List Char)
    (list : List Char) :
    List (List Char) :=
  (splitOn ',' list).map fun item => lowerCase (trim item)

/-- The words of a comma separated list: its items, without empty and repeated ones. -/
def normalizeWith
    (lowerCase : List Char → List Char)
    (list : List Char) :
    List (List Char) :=
  addNew [] ((listItems lowerCase list).filter fun w => !w.isEmpty)

/-- A set of credential words, in the order of the list they come from. -/
structure WordSet where
  words : List (List Char)
deriving DecidableEq, Repr

/-- The list used when none is configured. -/
def defaultWordList : String :=
  "password, passwd, pwd, passphrase"

namespace WordSet

/-- The words of a comma separated list. -/
def parse (list : String) : WordSet :=
  ⟨normalizeWith lower list.toList⟩

/-- The words of the list used when none is configured. -/
def standard : WordSet :=
  parse defaultWordList

/-- Whether a word belongs to the set, regardless of the case of ASCII letters. -/
def has (set : WordSet) (word : List Char) : Bool :=
  set.words.any fun w => sameAscii w word

/-- A word at the front of a text regardless of case: what it matches there, and the rest. -/
def afterWord? : List Char → List Char → Option (List Char × List Char)
  | [], cs => some ([], cs)
  | _ :: _, [] => none
  | w :: ws, c :: cs =>
    if sameLetter w c then
      (afterWord? ws cs).map fun (seen, rest) => (c :: seen, rest)
    else
      none

/-- The value after the sign of a pair: what follows the white space, on one line up to the end of
the text. Where only white space follows, its last character is the value. -/
def pairValue? (cs : List Char) : Option (List Char) :=
  let value :=
    match cs.dropWhile isBlank with
    | [] => cs.getLast?.toList
    | rest => rest
  if value.isEmpty || value.contains '\n' then none else some value

/-- A word that is paired with a value in a text. -/
structure Pair where
  word : List Char
  value : List Char
deriving DecidableEq, Repr

/-- The pair of one word at the front of a text. -/
def pairOf? (word cs : List Char) : Option Pair := do
  let (seen, rest) ← afterWord? word cs
  match rest.dropWhile isBlank with
  | sign :: rest =>
    if sign = ':' || sign = '=' then
      (pairValue? rest).map fun value => ⟨seen, value⟩
    else
      none
  | [] => none

/-- The first pair of a text whose characters before it end with `before`. A pair starts at a word
boundary; where several words match, the first of the set wins. -/
def pairFrom? (set : WordSet) (before : Option Char) : List Char → Option Pair
  | [] => none
  | c :: cs =>
    let here :=
      if isWordBoundary before (some c) then set.words.findSome? fun w => pairOf? w (c :: cs)
      else none
    here.or (pairFrom? set (some c) cs)

/-- The first pair of a text. -/
def pair? (set : WordSet) (value : List Char) : Option Pair :=
  pairFrom? set none value

/-- The words of the set among the words of a name. -/
def inName (set : WordSet) (name : List Char) : List (List Char) :=
  addNew [] (((camelWords name).map lower).filter set.has)

/-- The word of the first pair of a text, in lower case, unless its value lacks a secret. -/
def inValue (set : WordSet) (value : List Char) : List (List Char) :=
  match set.pair? value with
  | none => []
  | some pair => if lacksSecret pair.value then [] else [lower pair.word]

/-- The credential words found for a name and the value assigned to it. A value that restates its
own name is a placeholder. -/
def find (set : WordSet) (name value : List Char) : List (List Char) :=
  let named := set.inName name
  if named.any fun w => occurs w (lower value) then []
  else addNew named (set.inValue value)

end WordSet
end Credential
end TreeLint
