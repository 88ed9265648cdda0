import DispatchTables.Json.Printer
import DispatchTables.Template.NativeType

/-!
# C literals

Values of documents as literals in C code.

## Main Definitions

* `cString`: a text as a string literal.
* `cFloat`: a number as a literal of type `float`.
* `cLiteral`: a value as a literal of a native type.
-/

namespace DispatchTables

/-- The digit of base eight. -/
def octalDigit (n : Nat) : Char := Char.ofNat (0x30 + n % 8)

/-- What one character becomes in a string literal.  Control characters without a letter of their
own are written in three octal digits, so that a digit after them is not taken for part of them. -/
def cStringChar (c : Char) : List Char :=
  if c = '"' then ['\\', '"']
  else if c = '\\' then ['\\', '\\']
  else if c = '\n' then ['\\', 'n']
  else if c = '\r' then ['\\', 'r']
  else if c = '\t' then ['\\', 't']
  else if c.toNat < 0x20 then
    ['\\', octalDigit (c.toNat / 64), octalDigit (c.toNat / 8), octalDigit c.toNat]
  else [c]

/-- A text as a string literal. -/
def cString (text : String) : String :=
  String.ofList ('"' :: (text.toList.flatMap cStringChar ++ ['"']))

/-- A number as the nearest double. -/
def Json.Number.toDouble : Json.Number → Double
  | .whole n => (Double.ofInt? n).getD Double.zero
  | .double x => x

/-- A number as a literal of type `float`: without an exponent, with a point when it is whole. -/
def cFloat (n : Json.Number) : String := n.toDouble.plainText ++ "f"

/-- A value as a literal of a native type. -/
def cLiteral (type : NativeType) (value : Json) : String :=
  match type, value with
  | .text, .string s => cString s
  | .float, .number n => cFloat n
  | _, value => value.compact

end DispatchTables
