import TreeLint.Json.Token

/-!
# Reading JSON values

A pushdown automaton over tokens. Its stack holds the arrays and objects that are still open,
innermost first; a text is a value when the automaton ends with exactly one value read.
-/

namespace TreeLint
namespace Json

/-- How deeply arrays and objects may be nested; a deeper one can only be skipped. -/
def maxDepth : Nat := 127

/-- An open array or object with what it holds so far, in reverse. An object is not usable when
one of its names has no text. -/
inductive Frame where
  | array (done : List Value)
  | object (done : List (String × Value)) (name : String) (usable : Bool)

/-- What is expected next. -/
inductive Expect where
  | item
  | itemOrEnd
  | name
  | nameOrEnd
  | colon
  | next
  | nothing (v : Value)

/-- The automaton: its stack and what is expected. -/
structure State where
  stack : List Frame
  expect : Expect

/-- Hands a complete value to the innermost open container. -/
def give
    (v : Value) :
    List Frame → State
  | [] => ⟨[], .nothing v⟩
  | .array done :: rest => ⟨.array (v :: done) :: rest, .next⟩
  | .object done name usable :: rest => ⟨.object ((name, v) :: done) name usable :: rest, .next⟩

/-- A container that was closed with `outer` containers around it. -/
def close
    (outer : List Frame)
    (v : Value) :
    State :=
  give (if outer.length < maxDepth then v else .unusable) outer

/-- The value of a string token. -/
def textValue : Option String → Value
  | some s => .string s
  | none => .unusable

/-- Starts a value with a token. -/
def beginValue?
    (stack : List Frame) :
    Token → Option State
  | .scalar v => some (give v stack)
  | .text s => some (give (textValue s) stack)
  | .openArray => some ⟨.array [] :: stack, .itemOrEnd⟩
  | .openObject => some ⟨.object [] "" true :: stack, .nameOrEnd⟩
  | _ => none

/-- Reads the name of a field. -/
def beginField? : List Frame → Option String → Option State
  | .object done _ usable :: rest, some s => some ⟨.object done s usable :: rest, .colon⟩
  | .object done _ _ :: rest, none => some ⟨.object done "" false :: rest, .colon⟩
  | _, _ => none

/-- Closes the innermost container, if it is the one that the token closes. -/
def end? : List Frame → Token → Option State
  | .array done :: rest, .closeArray => some (close rest (.array done.reverse))
  | .object done _ usable :: rest, .closeObject =>
    some (close rest (if usable then .object done.reverse else .unusable))
  | _, _ => none

/-- Goes on behind a comma. -/
def another? : List Frame → Option State
  | .array done :: rest => some ⟨.array done :: rest, .item⟩
  | .object done name usable :: rest => some ⟨.object done name usable :: rest, .name⟩
  | [] => none

/-- One step of the automaton. -/
def State.step? (s : State) (t : Token) : Option State :=
  match s.expect, t with
  | .item, t => beginValue? s.stack t
  | .itemOrEnd, .closeArray => end? s.stack .closeArray
  | .itemOrEnd, t => beginValue? s.stack t
  | .name, .text name => beginField? s.stack name
  | .nameOrEnd, .text name => beginField? s.stack name
  | .nameOrEnd, .closeObject => end? s.stack .closeObject
  | .colon, .colon => some ⟨s.stack, .item⟩
  | .next, .comma => another? s.stack
  | .next, t => end? s.stack t
  | _, _ => none

/-- Runs the automaton over a sequence of tokens. -/
def State.run? (s : State) : List Token → Option State
  | [] => some s
  | t :: ts =>
    match s.step? t with
    | none => none
    | some next => next.run? ts

/-- The value that the automaton has read, once nothing is expected any more. -/
def State.value? (s : State) : Option Value :=
  match s.expect with
  | .nothing v => some v
  | _ => none

/-- The value of a sequence of tokens. -/
def ofTokens? (ts : List Token) : Option Value :=
  match State.run? ⟨[], .item⟩ ts with
  | none => none
  | some s => s.value?

/-- The value of a text. -/
def read? (text : List Char) : Option Value :=
  match tokens? text with
  | none => none
  | some ts => ofTokens? ts

end Json
end TreeLint
