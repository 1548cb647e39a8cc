import TreeLint.Source.Unit
import TreeLint.Text.Quoted
import TreeLint.Text.Lowercase

/-!
# Grammars

What the analysis has to know about a language: the tags of its kinds, grouped by the part they
play, how its identifiers compare, and how its literals are spelled. All questions about trees are
answered from these tables, so they are asked once for all languages.
-/

namespace TreeLint
namespace Grammar

open Source

/-- A group of kinds, given by their tags. -/
abbrev KindSet := List String

/-- How two identifiers compare. -/
inductive NameComparison where
  | caseSensitive
  | caseInsensitive
deriving DecidableEq, Repr

namespace NameComparison

def name : NameComparison → String
  | caseSensitive => "case_sensitive"
  | caseInsensitive => "case_insensitive"

/-- Whether two names are equal; without regard to case, they are compared after lower-casing each
character by itself. -/
def equal : NameComparison → String → String → Bool
  | caseSensitive, a, b => a == b
  | caseInsensitive, a, b => Text.lowerEach a.toList == Text.lowerEach b.toList

end NameComparison
end Grammar

/-- The tables of a language. -/
structure Grammar where
  language : Source.Language
  comparison : Grammar.NameComparison
  /-- All kinds of the language. -/
  kinds : Grammar.KindSet
  identifierToken : Grammar.KindSet
  /-- Simple names that refer to a symbol. -/
  identifierName : Grammar.KindSet
  /-- Accesses to a member, whose name is the last child that is not a token. -/
  memberAccess : Grammar.KindSet
  parenthesized : Grammar.KindSet
  objectCreation : Grammar.KindSet
  argumentList : Grammar.KindSet
  argument : Grammar.KindSet
  simpleAssignment : Grammar.KindSet
  /-- Simple and compound assignments. -/
  assignment : Grammar.KindSet
  tuple : Grammar.KindSet
  /-- Patterns that introduce variables on the left of an assignment. -/
  declarationPattern : Grammar.KindSet
  /-- Single variables that such a pattern introduces. -/
  variableDesignation : Grammar.KindSet
  stringLiteral : Grammar.KindSet
  /-- Literals with a constant value. -/
  constantLiteral : Grammar.KindSet
  /-- The types of literals, by kind. -/
  literalTypes : List (String × String)
  /-- Nodes that hold the identifier of the node around them. -/
  namedHeader : Grammar.KindSet
  /-- Records, which may declare a constructor by a parameter list of their own. -/
  record : Grammar.KindSet
  /-- The value of a string literal, read off its spelling. -/
  unquote : List Char → Option (List Char)
  /-- An identifier without the marks that escape it. -/
  bareIdentifier : List Char → List Char

namespace Grammar

/-- Whether a tag is one of the language's kinds. -/
def knows (g : Grammar) (kind : String) : Bool :=
  g.kinds.contains kind

end Grammar
end TreeLint
