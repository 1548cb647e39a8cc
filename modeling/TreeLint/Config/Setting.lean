import TreeLint.Json.Value
import TreeLint.Yaml.Node
import TreeLint.Yaml.Plain

/-!
# Parameter values

The values that a configuration may give to the parameters of rules, read from JSON and from YAML.
-/

namespace TreeLint
namespace Config

/-- A value of a parameter. -/
inductive Setting where
  | null
  | bool (b : Bool)
  | number (n : Json.Number)
  | text (s : String)
  | list (items : List Setting)
  | map (entries : List (Setting × Setting))

namespace Setting

mutual

/-- Whether two values are the same. -/
def same : Setting → Setting → Bool
  | null, null => true
  | bool a, bool b => a == b
  | number a, number b => a == b
  | text a, text b => a == b
  | list a, list b => sameItems a b
  | map a, map b => sameEntries a b
  | _, _ => false

def sameItems : List Setting → List Setting → Bool
  | [], [] => true
  | a :: as, b :: bs => a.same b && sameItems as bs
  | _, _ => false

def sameEntries : List (Setting × Setting) → List (Setting × Setting) → Bool
  | [], [] => true
  | (k, v) :: as, (l, w) :: bs => k.same l && v.same w && sameEntries as bs
  | _, _ => false

end

/-- A map with given entries, if no key is repeated. -/
def ofEntries? (entries : List (Setting × Setting)) : Option Setting :=
  if distinct (entries.map Prod.fst) then some (map entries) else none
where
  /-- Whether no value is repeated. -/
  distinct : List Setting → Bool
    | [] => true
    | k :: ks => !ks.any k.same && distinct ks

mutual

/-- The value of a JSON value. -/
def ofJson? : Json.Value → Option Setting
  | .null => some null
  | .bool b => some (bool b)
  | .number n => some (number n)
  | .string s => some (text s)
  | .array items => (itemsOfJson? items).map list
  | .object fields => (entriesOfJson? fields).bind ofEntries?
  | .unusable => none

def itemsOfJson? : List Json.Value → Option (List Setting)
  | [] => some []
  | v :: vs =>
    match ofJson? v, itemsOfJson? vs with
    | some s, some ss => some (s :: ss)
    | _, _ => none

def entriesOfJson? : List (String × Json.Value) → Option (List (Setting × Setting))
  | [] => some []
  | (name, v) :: rest =>
    match ofJson? v, entriesOfJson? rest with
    | some s, some ss => some ((text name, s) :: ss)
    | _, _ => none

end

/-- The value of a plain scalar; an integer that does not fit 64 bits may have none. -/
def ofPlain? (s : String) : Option Setting :=
  match Yaml.plainValue s with
  | .null => some null
  | .bool b => some (bool b)
  | .number n => some (number n)
  | .wide => none
  | .text => some (text s)

mutual

/-- The value of a YAML node. -/
def ofNode? : Yaml.Node → Option Setting
  | .scalar plain s => if plain then ofPlain? s else some (text s)
  | .sequence items => (itemsOfNodes? items).map list
  | .mapping entries => (entriesOfNodes? entries).bind ofEntries?

def itemsOfNodes? : List Yaml.Node → Option (List Setting)
  | [] => some []
  | n :: ns =>
    match ofNode? n, itemsOfNodes? ns with
    | some s, some ss => some (s :: ss)
    | _, _ => none

def entriesOfNodes? : List (Yaml.Node × Yaml.Node) → Option (List (Setting × Setting))
  | [] => some []
  | (k, v) :: rest =>
    match ofNode? k, ofNode? v, entriesOfNodes? rest with
    | some key, some s, some ss => some ((key, s) :: ss)
    | _, _, _ => none

end

end Setting
end Config
end TreeLint
