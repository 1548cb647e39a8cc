import TreeLint.Json.Value

/-!
# Records in JSON

A record is written as an object, or as an array of its fields in their order. Fields that the
record does not know are skipped; a known one may be given only once, and an array may not be
longer than the record.
-/

namespace TreeLint
namespace Json

/-- The known fields that were given, with their values. -/
structure Record where
  fields : List (String × Value)

namespace Record

/-- Reads the given fields of a record that knows certain names. -/
def ofValue? (names : List String) : Value → Option Record
  | .object fields =>
    let known := fields.filter fun f => names.contains f.1
    if (known.map Prod.fst).Nodup then some ⟨known⟩ else none
  | .array items => if items.length ≤ names.length then some ⟨names.zip items⟩ else none
  | _ => none

/-- Reads a field that has to be there. -/
def required? {α : Type} (r : Record) (name : String) (read : Value → Option α) : Option α :=
  (r.fields.lookup name).bind read

/-- Reads a field that stands for a given value when it is left out. -/
def withDefault? {α : Type} (r : Record) (name : String) (default : α)
    (read : Value → Option α) : Option α :=
  match r.fields.lookup name with
  | none => some default
  | some v => read v

/-- Reads a field that may be left out or be null. -/
def optional? {α : Type} (r : Record) (name : String) (read : Value → Option α) :
    Option (Option α) :=
  match r.fields.lookup name with
  | none => some none
  | some .null => some none
  | some v => (read v).map some

end Record

namespace Value

/-- An unsigned integer below a bound. -/
def below? (bound : Nat) : Value → Option Nat
  | .number (.natural n) => if n < bound then some n else none
  | _ => none

/-- An unsigned integer of 32 bits. -/
def nat32? : Value → Option Nat :=
  below? (Nat.pow 2 32)

/-- An unsigned integer of 64 bits. -/
def nat64? : Value → Option Nat :=
  below? (Nat.pow 2 64)

/-- A signed integer of 64 bits. -/
def int64? : Value → Option Int
  | .number (.natural n) => if n < Nat.pow 2 63 then some n else none
  | .number (.negative n) => some (-(n : Int))
  | _ => none

/-- The bits of a double; an integer stands for the nearest one. -/
def doubleBits? : Value → Option UInt64
  | .number (.natural n) => some n.toUInt64.toFloat.toBits
  | .number (.negative n) => some (-n.toUInt64.toFloat).toBits
  | .number (.double bits) => some bits
  | _ => none

def bool? : Value → Option Bool
  | .bool b => some b
  | _ => none

/-- A string of one character. -/
def char? : Value → Option Char
  | .string s =>
    match s.toList with
    | [c] => some c
    | _ => none
  | _ => none

/-- The items of an array, each read the same way. -/
def list? {α : Type} (read : Value → Option α) : Value → Option (List α)
  | .array items => items.mapM read
  | _ => none

/-- A name out of a fixed choice: a string, or an object with that one field, which is null. -/
def choice? : Value → Option String
  | .string s => some s
  | .object [(s, .null)] => some s
  | _ => none

end Value
end Json
end TreeLint
