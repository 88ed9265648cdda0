import DispatchTables.Json.Printer
import DispatchTables.Text.Quoted

/-!
# Shapes of documents

Typed records are read from values.  A record is read from an object member by member, in document
order, so that the first member with a wrong value is the one reported; members of other names are
passed over.  A record may also be an array of its fields in their declared order.

## Main Definitions

* `ShapeError`: why a value is not of the expected shape.
* `Decoder`: reading a value as something.
* `Decoder.fields`, `Decoder.positions`: the two written forms of a record.
-/

namespace DispatchTables

/-- Why a value does not have the expected shape. -/
inductive ShapeError where
  | invalidType (found : Json) (expected : String)
  | invalidValue (found : Json) (expected : String)
  | missingField (field : String)
  | duplicateField (field : String)
  | invalidLength (length : Nat) (expected : String)
  | noVariant (type : String)

/-- What a value is called in an error. -/
def Json.describe : Json → String
  | .null => "null"
  | .bool b => "boolean `" ++ (if b then "true" else "false") ++ "`"
  | .number (.whole n) => "integer `" ++ Json.wholeText n ++ "`"
  | .number (.double x) => "floating point `" ++ x.documentText ++ "`"
  | .string s => "string " ++ Text.quoted s
  | .array _ => "sequence"
  | .object _ => "map"

/-- The error as shown. -/
def ShapeError.message : ShapeError → String
  | .invalidType found expected => "invalid type: " ++ found.describe ++ ", expected " ++ expected
  | .invalidValue found expected => "invalid value: " ++ found.describe ++ ", expected " ++ expected
  | .missingField field => "missing field `" ++ field ++ "`"
  | .duplicateField field => "duplicate field `" ++ field ++ "`"
  | .invalidLength length expected =>
    "invalid length " ++ Nat.repr length ++ ", expected " ++ expected
  | .noVariant type => "data did not match any variant of untagged enum " ++ type

/-- Reading a value as an `α`. -/
abbrev Decoder (α : Type) := Json → Except ShapeError α

namespace Decoder

/-- A text. -/
def text : Decoder String
  | .string s => .ok s
  | v => .error (.invalidType v "a string")

/-- A truth value. -/
def bool : Decoder Bool
  | .bool b => .ok b
  | v => .error (.invalidType v "a boolean")

/-- A whole number of 32 bits, without a sign. -/
def word32 : Decoder Nat
  | .number (.whole n) =>
    if 0 ≤ n ∧ n < 0x100000000 then .ok n.toNat
    else .error (.invalidValue (.number (.whole n)) "u32")
  | v => .error (.invalidType v "u32")

/-- A number, as the nearest double. -/
def double : Decoder Double
  | .number (.whole n) => .ok ((Double.ofInt? n).getD Double.zero)
  | .number (.double x) => .ok x
  | v => .error (.invalidType v "f64")

/-- A value as it stands. -/
def any : Decoder Json := .ok

/-- Null, or something. -/
def optional {α : Type} (decode : Decoder α) : Decoder (Option α)
  | .null => .ok none
  | v => return some (← decode v)

/-- An array of things. -/
def list {α : Type} (decode : Decoder α) : Decoder (List α)
  | .array items => items.mapM decode
  | v => .error (.invalidType v "a sequence")

/-- An object, as things under keys, in document order. -/
def map {α : Type} (decode : Decoder α) : Decoder (List (String × α))
  | .object members => members.mapM fun m => return (m.1, ← decode m.2)
  | v => .error (.invalidType v "a map")

/-- A record from the members of an object; `set` puts one of them in. -/
def fields {α : Type} (set : α → String → Json → Except ShapeError α) (start : α)
    (members : Members) : Except ShapeError α :=
  members.foldlM (fun record m => set record m.1 m.2) start

/-- A record from the items of an array; the setters are those of its fields, in their order. -/
def positions {α : Type} (total : Nat) :
    List (α → Json → Except ShapeError α) → List Json → α → Except ShapeError α
  | _, [], record => .ok record
  | [], _ :: _, _ => .error (.invalidLength total "fewer elements in array")
  | set :: setters, v :: items, record => do positions total setters items (← set record v)

/-- A record in either form. -/
def struct {α : Type} (name : String) (set : α → String → Json → Except ShapeError α)
    (setters : List (α → Json → Except ShapeError α)) (start : α) : Decoder α
  | .object members => fields set start members
  | .array items => positions items.length setters items start
  | v => .error (.invalidType v ("struct " ++ name))

end Decoder

end DispatchTables
