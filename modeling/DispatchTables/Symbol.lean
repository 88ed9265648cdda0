/-!
# C symbols

Generated tables name things by C identifiers: a letter or an underscore, then letters, digits and
underscores, of ASCII.

## Main Definitions

* `cIdentifier`: arbitrary text as an identifier; other characters become underscores.
* `isCIdentifier`: whether a text is one already.
* `upperSymbol`, `lowerSymbol`: an identifier in one case.
-/

namespace DispatchTables

/-- Whether a character may stand in an identifier. -/
def isSymbolChar (c : Char) : Bool := c.isAlphanum || c == '_'

/-- A character of an identifier; an underscore stands for any other. -/
def symbolChar (c : Char) : Char := if isSymbolChar c then c else '_'

/-- An underscore is put ahead of nothing, and of a digit. -/
def guardDigit : List Char → List Char
  | [] => ['_']
  | c :: rest => if c.isDigit then '_' :: c :: rest else c :: rest

/-- Arbitrary text as an identifier. -/
def cIdentifier (text : String) : String :=
  String.ofList (guardDigit (text.toList.map symbolChar))

/-- Whether a text is an identifier as it stands. -/
def isCIdentifier (text : String) : Bool := !text.isEmpty && cIdentifier text == text

/-- Arbitrary text as an identifier in capitals. -/
def upperSymbol (text : String) : String :=
  String.ofList ((cIdentifier text).toList.map Char.toUpper)

/-- Arbitrary text as an identifier in small letters. -/
def lowerSymbol (text : String) : String :=
  String.ofList ((cIdentifier text).toList.map Char.toLower)

theorem isSymbolChar_symbolChar (c : Char) : isSymbolChar (symbolChar c) = true := by
  unfold symbolChar
  split
  · assumption
  · decide

end DispatchTables
