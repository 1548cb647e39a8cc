/-!
# Constants

The values that expressions are known to have before a program runs.
-/

namespace TreeLint
namespace Symbols

/-- A constant value. A float is given by the bits of its double. -/
inductive Constant where
  | string (s : String)
  | integer (n : Int)
  | float (bits : UInt64)
  | boolean (b : Bool)
  | char (c : Char)
  | null
deriving DecidableEq, Repr

/-- The text of a string constant. -/
def Constant.string? : Constant → Option String
  | .string s => some s
  | _ => none

end Symbols
end TreeLint
