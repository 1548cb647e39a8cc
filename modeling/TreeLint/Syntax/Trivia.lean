/-!
# Trivia

White space, comments and directives, which stand around the tokens of a source text without being
part of its structure.
-/

namespace TreeLint
namespace Syntax

/-- What a piece of trivia is. -/
inductive TriviaKind where
  | whitespace
  | endOfLine
  | singleLineComment
  | multiLineComment
  | documentationComment
  | directive
  | other
deriving DecidableEq, Repr

namespace TriviaKind

/-- The name of a kind of trivia in documents. -/
def name : TriviaKind → String
  | whitespace => "whitespace"
  | endOfLine => "end_of_line"
  | singleLineComment => "single_line_comment"
  | multiLineComment => "multi_line_comment"
  | documentationComment => "documentation_comment"
  | directive => "directive"
  | other => "other"

/-- The kinds that documents name. -/
def all : List TriviaKind :=
  [whitespace, endOfLine, singleLineComment, multiLineComment, documentationComment, directive,
    other]

/-- The kind with a given name; an unknown name means `other`. -/
def ofName (s : String) : TriviaKind :=
  (all.find? fun k => k.name == s).getD other

/-- A comment that is not documentation. -/
def isPlainComment : TriviaKind → Bool
  | singleLineComment => true
  | multiLineComment => true
  | _ => false

end TriviaKind

/-- A piece of trivia. -/
structure Trivia where
  kind : TriviaKind
  text : String
deriving DecidableEq, Repr

/-- Whether there is a comment, documentation apart, among pieces of trivia. -/
def hasComment (ts : List Trivia) : Bool :=
  ts.any fun t => t.kind.isPlainComment

end Syntax
end TreeLint
