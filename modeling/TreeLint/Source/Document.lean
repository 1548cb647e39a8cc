import TreeLint.Json.Reader
import TreeLint.Json.Record
import TreeLint.Source.Builder

/-!
# Interchange documents

A front end hands over a source as a JSON document: host facts, symbols, and a nest of nodes. A node
with a text is a token and has no children; every other node is an interior one.
-/

namespace TreeLint
namespace Source

open Symbols Syntax Json

/-- A node of a document. -/
structure DocumentFields where
  kind : String
  role : Option String
  text : Option String
  span : Option Span
  leading : List Trivia
  trailing : List Trivia
  symbol : Option SymbolId
  declares : Option SymbolId
  type : Option String
  constant : Option Constant

/-- A node of a document with its children. -/
inductive DocumentNode where
  | node (fields : DocumentFields) (children : List DocumentNode)

/-- A whole document. -/
structure Document where
  path : Option String
  language : Language
  generated : Bool
  testProject : Bool
  symbols : List Symbol
  root : DocumentNode

/-- Why a document yields no unit. -/
inductive DocumentError where
  /-- The file cannot be read. -/
  | unreadable
  /-- The text is not a JSON value of the expected form. -/
  | malformed
  /-- A node has both a text and children. -/
  | textWithChildren (kind : String)
  /-- The tree cannot be put together. -/
  | shape (e : ShapeError)
deriving DecidableEq, Repr

/-! ## Reading the parts of a document -/

def position? (line column : Option Nat) : Option Position := do
  some ⟨← line, ← column⟩

/-- Reads a span. -/
def span? (v : Value) : Option Span := do
  let names := ["start_line", "start_column", "end_line", "end_column"]
  let r ← Record.ofValue? names v
  let start ← position? (r.required? "start_line" Value.nat64?)
    (r.required? "start_column" Value.nat64?)
  let stop ← position? (r.required? "end_line" Value.nat64?)
    (r.required? "end_column" Value.nat64?)
  some ⟨start, stop⟩

/-- Reads a piece of trivia. -/
def trivia? (v : Value) : Option Trivia := do
  let r ← Record.ofValue? ["kind", "text"] v
  let kind ← r.required? "kind" Value.choice?
  let text ← r.required? "text" Value.string?
  some ⟨TriviaKind.ofName kind, text⟩

/-- Reads the value of a constant of a named type. -/
def constantOf? (type : String) (value : Option Value) : Option Constant :=
  match type, value with
  | "string", some v => v.string?.map .string
  | "integer", some v => v.int64?.map .integer
  | "float", some v => v.doubleBits?.map .float
  | "boolean", some v => v.bool?.map .boolean
  | "char", some v => v.char?.map .char
  | "null", none => some .null
  | "null", some .null => some .null
  | _, _ => none

/-- Reads a constant: its type and its value. -/
def constant? (v : Value) : Option Constant := do
  let r ← Record.ofValue? ["type", "value"] v
  let type ← r.required? "type" Value.choice?
  match v, r.fields.lookup "value" with
  | .array _, none => none
  | _, value => constantOf? type value

/-- The fields of a symbol. -/
def symbolNames : List String :=
  ["id", "name", "kind", "containing_type", "type", "is_virtual", "is_abstract", "is_override",
    "overridden"]

/-- Reads a symbol; without a number it has the number zero. -/
def symbol? (v : Value) : Option Symbol := do
  let r ← Record.ofValue? symbolNames v
  let id ← r.withDefault? "id" 0 Value.nat32?
  let name ← r.required? "name" Value.string?
  let kind ← r.required? "kind" fun k => k.choice?.bind SymbolKind.ofName?
  let containingType ← r.optional? "containing_type" Value.string?
  let type ← r.optional? "type" Value.string?
  let isVirtual ← r.withDefault? "is_virtual" false Value.bool?
  let isAbstract ← r.withDefault? "is_abstract" false Value.bool?
  let isOverride ← r.withDefault? "is_override" false Value.bool?
  let overridden ← r.optional? "overridden" Value.nat32?
  some ⟨id, name, kind, containingType, type, isVirtual, isAbstract, isOverride, overridden⟩

/-- The fields of a node. -/
def nodeNames : List String :=
  ["kind", "role", "text", "span", "leading_trivia", "trailing_trivia", "symbol", "declares",
    "type", "constant", "children"]

/-- Reads the fields of a node, its children apart. -/
def nodeFields? (v : Value) : Option DocumentFields := do
  let r ← Record.ofValue? nodeNames v
  let kind ← r.required? "kind" Value.string?
  let role ← r.optional? "role" Value.string?
  let text ← r.optional? "text" Value.string?
  let span ← r.optional? "span" span?
  let leading ← r.withDefault? "leading_trivia" [] (Value.list? trivia?)
  let trailing ← r.withDefault? "trailing_trivia" [] (Value.list? trivia?)
  let symbol ← r.optional? "symbol" Value.nat32?
  let declares ← r.optional? "declares" Value.nat32?
  let type ← r.optional? "type" Value.string?
  let constant ← r.optional? "constant" constant?
  some ⟨kind, role, text, span, leading, trailing, symbol, declares, type, constant⟩

mutual

/-- Reads a node. -/
def node? : Value → Option DocumentNode
  | .object fields =>
    match nodeFields? (.object fields), childrenIn? fields with
    | some f, some cs => some (.node f cs)
    | _, _ => none
  | .array items =>
    match nodeFields? (.array items), childrenAt? 10 items with
    | some f, some cs => some (.node f cs)
    | _, _ => none
  | _ => none

/-- Reads the children out of the fields of a node. -/
def childrenIn? : List (String × Value) → Option (List DocumentNode)
  | [] => some []
  | (name, v) :: rest => if name = "children" then nodes? v else childrenIn? rest

/-- Reads the children out of a node that is written as an array, a number of fields on. -/
def childrenAt? : Nat → List Value → Option (List DocumentNode)
  | _, [] => some []
  | 0, v :: _ => nodes? v
  | k + 1, _ :: rest => childrenAt? k rest

/-- Reads an array of nodes. -/
def nodes? : Value → Option (List DocumentNode)
  | .array items => nodesOf? items
  | _ => none

def nodesOf? : List Value → Option (List DocumentNode)
  | [] => some []
  | v :: rest =>
    match node? v, nodesOf? rest with
    | some n, some ns => some (n :: ns)
    | _, _ => none

end

/-- The fields of a document. -/
def documentNames : List String :=
  ["path", "language", "generated", "test_project", "symbols", "root"]

/-- Reads a document. -/
def Document.ofValue? (v : Value) : Option Document := do
  let r ← Record.ofValue? documentNames v
  let path ← r.optional? "path" Value.string?
  let language ← r.required? "language" fun l => l.choice?.bind Language.ofName?
  let generated ← r.withDefault? "generated" false Value.bool?
  let testProject ← r.withDefault? "test_project" false Value.bool?
  let symbols ← r.withDefault? "symbols" [] (Value.list? symbol?)
  let root ← r.required? "root" node?
  some ⟨path, language, generated, testProject, symbols, root⟩

/-- Reads the text of a document. -/
def Document.parse? (text : String) : Option Document :=
  (Json.read? text.toList).bind Document.ofValue?

/-! ## Building the unit of a document -/

namespace Builder

/-- Notes all that a document says about a node besides its children. -/
def annotate (b : Builder) (id : NodeId) (f : DocumentFields) : Builder :=
  let b := f.span.elim b fun s => b.setSpan id s
  let b := f.leading.foldl (fun b t => b.addLeading id t) b
  let b := f.trailing.foldl (fun b t => b.addTrailing id t) b
  let b := f.symbol.elim b fun s => b.bind id s
  let b := f.declares.elim b fun s => b.declare id s
  let b := f.type.elim b fun t => b.setType id t
  f.constant.elim b fun c => b.setConstant id c

mutual

/-- Adds a node of a document with all that is below it. -/
def add (b : Builder) : DocumentNode → Except DocumentError Builder
  | .node f children =>
    match f.text, children with
    | some _, _ :: _ => .error (.textWithChildren f.kind)
    | some text, [] => .ok ((b.token f.kind text f.role).annotate b.nextNode f)
    | none, children =>
      match addAll (b.start f.kind f.role) children with
      | .error e => .error e
      | .ok c => .ok (c.close.annotate b.nextNode f)

/-- Adds nodes of a document one after another. -/
def addAll (b : Builder) : List DocumentNode → Except DocumentError Builder
  | [] => .ok b
  | n :: ns =>
    match add b n with
    | .error e => .error e
    | .ok c => addAll c ns

end

end Builder

/-- The builder that a document starts with: host facts and symbols. -/
def Document.builder (d : Document) (path : String) : Builder :=
  d.symbols.foldl Builder.insertSymbol
    (Builder.new (d.path.getD path) d.language d.generated d.testProject)

/-- The unit of a document; a given path is used when the document has none. -/
def Document.toUnit (d : Document) (path : String) : Except DocumentError SourceUnit :=
  match (d.builder path).add d.root with
  | .error e => .error e
  | .ok b => b.finish.mapError .shape

/-- The unit of the text of a document. -/
def SourceUnit.ofText (text path : String) : Except DocumentError SourceUnit :=
  match Document.parse? text with
  | none => .error .malformed
  | some d => d.toUnit path

/-- The reason a shape cannot be built, or a node is refused. -/
def DocumentError.detail : DocumentError → String
  | .textWithChildren kind => "node '" ++ kind ++ "' has both text and children"
  | .shape e => e.message
  | _ => ""

/-- The text of an error; the wording for unreadable and malformed texts ends with their class. -/
def DocumentError.message : DocumentError → String
  | .unreadable => "IO error"
  | .malformed => "JSON parse error"
  | e => "Invalid document: " ++ e.detail

end Source
end TreeLint
