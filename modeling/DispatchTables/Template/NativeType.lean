import DispatchTables.Json.Basic

/-!
# Native types

The types that a scalar of a document may have in a generated table.

## Main Definitions

* `NativeType.of?`: the type of a value, if it has one.
* `NativeType.rejection`: why it has none.
* `NativeType.accepts`: whether a slot of one type takes values of another.
-/

namespace DispatchTables

/-- The type of a scalar in a generated table. -/
inductive NativeType where
  | text
  | boolean
  | integer
  | float
  deriving DecidableEq, Inhabited

/-- Why a value has no native type. -/
inductive Rejection where
  | tooLarge
  | notScalar
  deriving DecidableEq, Inhabited

/-- The words for a rejection. -/
def Rejection.text : Rejection → String
  | tooLarge => "integer does not fit in int32_t"
  | notScalar => "value must be a string, boolean or number"

namespace NativeType

/-- Whether a whole number fits 32 bits with a sign. -/
def fitsInt32 (n : Int) : Bool := decide (-0x80000000 ≤ n) && decide (n < 0x80000000)

/-- The type of a value.  Whole numbers beyond 32 bits have none, nor have null, lists and
objects. -/
def of? : Json → Option NativeType
  | .string _ => some text
  | .bool _ => some boolean
  | .number (.whole n) => if fitsInt32 n then some integer else none
  | .number (.double _) => some float
  | _ => none

/-- Why a value without a native type has none. -/
def rejection : Json → Rejection
  | .number _ => .tooLarge
  | _ => .notScalar

/-- The type in C. -/
def cType : NativeType → String
  | text => "const char*"
  | boolean => "bool"
  | integer => "int32_t"
  | float => "float"

/-- The word for the type in documents. -/
def word : NativeType → String
  | text => "text"
  | boolean => "boolean"
  | integer => "integer"
  | float => "float"

/-- What the type is called in an error. -/
def describe : NativeType → String
  | text => "text"
  | boolean => "boolean"
  | integer => "integer"
  | float => "floating point"

/-- Whether a slot of the first type takes values of the second: its own, and a floating point
slot takes integers. -/
def accepts (slot other : NativeType) : Bool := slot == other || (slot == float && other == integer)

end NativeType

end DispatchTables
