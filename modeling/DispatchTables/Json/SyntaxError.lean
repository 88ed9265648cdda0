/-!
# Syntax errors of documents

Why a text is not a JSON value, and where.  A place is a count of bytes into the text; it is shown
as a line and as the number of bytes since the last line end.

## Main Definitions

* `Json.Fault`: the reasons, and their wording.
* `Json.SyntaxError`: a reason with its line and column.
* `Json.place`: the line and column of a byte count.
-/

namespace DispatchTables.Json

/-- Why a text is not a value. -/
inductive Fault where
  | endInValue
  | endInObject
  | endInList
  | endInString
  | expectedValue
  | expectedIdent
  | expectedColon
  | expectedCommaOrBracket
  | expectedCommaOrBrace
  | keyNotString
  | trailingComma
  | trailingCharacters
  | invalidNumber
  | outOfRange
  | controlCharacter
  | invalidEscape
  | endOfEscape
  | loneSurrogate
  | tooDeep
  deriving DecidableEq

/-- The wording of a fault. -/
def Fault.text : Fault → String
  | .endInValue => "EOF while parsing a value"
  | .endInObject => "EOF while parsing an object"
  | .endInList => "EOF while parsing a list"
  | .endInString => "EOF while parsing a string"
  | .expectedValue => "expected value"
  | .expectedIdent => "expected ident"
  | .expectedColon => "expected `:`"
  | .expectedCommaOrBracket => "expected `,` or `]`"
  | .expectedCommaOrBrace => "expected `,` or `\x7d`"
  | .keyNotString => "key must be a string"
  | .trailingComma => "trailing comma"
  | .trailingCharacters => "trailing characters"
  | .invalidNumber => "invalid number"
  | .outOfRange => "number out of range"
  | .controlCharacter => "control character (\\u0000-\\u001F) found while parsing a string"
  | .invalidEscape => "invalid escape"
  | .endOfEscape => "unexpected end of hex escape"
  | .loneSurrogate => "lone leading surrogate in hex escape"
  | .tooDeep => "recursion limit exceeded"

/-- A fault and its place. -/
structure SyntaxError where
  fault : Fault
  line : Nat
  column : Nat
  deriving DecidableEq

/-- The error as shown. -/
def SyntaxError.message (e : SyntaxError) : String :=
  e.fault.text ++ " at line " ++ Nat.repr e.line ++ " column " ++ Nat.repr e.column

/-- The line and the column `bytes` further on, from a given line and column. -/
def placeFrom (line column : Nat) : List Char → Nat → Nat × Nat
  | [], _ => (line, column)
  | c :: rest, bytes =>
    if bytes < c.utf8Size then (line, column + bytes)
    else if c = '\n' then placeFrom (line + 1) 0 rest (bytes - c.utf8Size)
    else placeFrom line (column + c.utf8Size) rest (bytes - c.utf8Size)

/-- The line, from one, and the column, in bytes, after the first `bytes` bytes of a text. -/
def place (text : List Char) (bytes : Nat) : Nat × Nat := placeFrom 1 0 text bytes

end DispatchTables.Json
