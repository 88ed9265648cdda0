import DispatchTables.Json.Basic
import DispatchTables.Number.Format
import DispatchTables.Text.Quoted

/-!
# Writing JSON

The two written forms of a value: compact, without a blank, and indented by two spaces a level.
Strings escape the quote, the backslash and the control characters below the space, and nothing
else.

## Main Definitions

* `Json.compact`: the compact form.
* `Json.pretty`: the indented form.
-/

namespace DispatchTables.Json

open DispatchTables.Text

/-- A whole number in decimal digits. -/
def wholeText (n : Int) : String :=
  if n < 0 then "-" ++ Nat.repr n.natAbs else Nat.repr n.natAbs

/-- How a number is written. -/
def Number.text : Number → String
  | .whole n => wholeText n
  | .double x => x.documentText

/-- What one character of a string becomes between the quotes. -/
def escapeChar (c : Char) : List Char :=
  if c = '"' then ['\\', '"']
  else if c = '\\' then ['\\', '\\']
  else if c = '\x08' then ['\\', 'b']
  else if c = '\x0c' then ['\\', 'f']
  else if c = '\n' then ['\\', 'n']
  else if c = '\r' then ['\\', 'r']
  else if c = '\t' then ['\\', 't']
  else if c.toNat < 0x20 then ['\\', 'u'] ++ hexDigits 4 c.toNat
  else [c]

/-- A string between its quotes. -/
def stringText (s : String) : String :=
  String.ofList ('"' :: (s.toList.flatMap escapeChar ++ ['"']))

/-- How a value without parts is written. -/
def atomText : Json → String
  | .bool true => "true"
  | .bool false => "false"
  | .number n => n.text
  | .string s => stringText s
  | _ => "null"

/-! ### Compact form -/

mutual

/-- A value without blanks. -/
def compact : Json → String
  | .array items => "[" ++ ",".intercalate (compactItems items) ++ "]"
  | .object members => "\x7b" ++ ",".intercalate (compactMembers members) ++ "\x7d"
  | v => atomText v

/-- The items of an array, each written compactly. -/
def compactItems : List Json → List String
  | [] => []
  | v :: rest => v.compact :: compactItems rest

/-- The members of an object, each written compactly. -/
def compactMembers : Members → List String
  | [] => []
  | (k, v) :: rest => (stringText k ++ ":" ++ v.compact) :: compactMembers rest

end

/-! ### Indented form -/

/-- The start of a line `level` levels deep. -/
def lineStart (level : Nat) : String := "\n" ++ String.ofList (List.replicate (2 * level) ' ')

/-- Parts on lines of their own, one level deeper than the brackets around them. -/
def block (level : Nat) (opening closing : String) (parts : List String) : String :=
  match parts with
  | [] => opening ++ closing
  | parts =>
    let start := lineStart (level + 1)
    opening ++ start ++ ("," ++ start).intercalate parts ++ lineStart level ++ closing

mutual

/-- A value on several lines, inside brackets `level` deep. -/
def prettyAt (level : Nat) : Json → String
  | .array items => block level "[" "]" (prettyItems (level + 1) items)
  | .object members => block level "\x7b" "\x7d" (prettyMembers (level + 1) members)
  | v => atomText v

/-- The items of an array. -/
def prettyItems (level : Nat) : List Json → List String
  | [] => []
  | v :: rest => v.prettyAt level :: prettyItems level rest

/-- The members of an object. -/
def prettyMembers (level : Nat) : Members → List String
  | [] => []
  | (k, v) :: rest => (stringText k ++ ": " ++ v.prettyAt level) :: prettyMembers level rest

end

/-- A value on several lines. -/
def pretty (v : Json) : String := v.prettyAt 0

end DispatchTables.Json
