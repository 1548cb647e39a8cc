/-!
# JSON values

The values of JSON texts. The fields of an object keep their order and their repetitions, so that
a reader of records can refuse a field given twice. A number is an integer of 64 bits or a double.
-/

namespace TreeLint
namespace Json

/-- A number: an unsigned integer of 64 bits, a negative integer of 64 bits (given by its absolute
value), or a double given by its bits. -/
inductive Number where
  | natural (n : Nat)
  | negative (n : Nat)
  | double (bits : UInt64)
deriving DecidableEq, Repr

/-- A JSON value. `unusable` stands for a well-formed text that denotes no value: a number out of
range, a string with half a surrogate pair, or nesting beyond the limit. It may only be skipped. -/
inductive Value where
  | null
  | bool (b : Bool)
  | number (n : Number)
  | string (s : String)
  | array (items : List Value)
  | object (fields : List (String × Value))
  | unusable

namespace Value

/-- The value of a field, the first one where a name is repeated. -/
def field? (name : String) : Value → Option Value
  | .object fields => fields.lookup name
  | _ => none

/-- An unsigned integer. -/
def nat (n : Nat) : Value :=
  .number (.natural n)

/-- The text of a string value. -/
def string? : Value → Option String
  | .string s => some s
  | _ => none

/-- The items of an array value. -/
def array? : Value → Option (List Value)
  | .array items => some items
  | _ => none

/-- A value or `null`. -/
def ofOption {α : Type} (f : α → Value) : Option α → Value
  | none => .null
  | some a => f a

mutual

/-- Whether a value holds nothing unusable. -/
def isUsable : Value → Bool
  | .array items => areUsable items
  | .object fields => fieldsUsable fields
  | .unusable => false
  | _ => true

def areUsable : List Value → Bool
  | [] => true
  | v :: vs => v.isUsable && areUsable vs

def fieldsUsable : List (String × Value) → Bool
  | [] => true
  | (_, v) :: rest => v.isUsable && fieldsUsable rest

end

end Value
end Json
end TreeLint
