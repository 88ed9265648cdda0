import DispatchTables.Text.Blank
import DispatchTables.Text.Letters
import DispatchTables.Text.Identifier

/-!
# Component references

A reference names a component and may give template arguments: `head<DISPLAY_A, CAM_OV2640>`.

    reference := blank* name (blank* '<' argument (',' argument)* '>')? blank*
    argument  := blank* identifier blank*

A name is made of letters and numbers of any script and of `_ - . / \`.

## Main Definitions

* `Reference`: a name and its arguments.
* `Reference.parse?`: reads a reference.
* `Reference.display`: writes one.
-/

namespace DispatchTables

open Text

/-- A component with template arguments. -/
structure Reference where
  name : String
  args : List String
  deriving DecidableEq, Inhabited

namespace Reference

/-- A reference without arguments. -/
def plain (name : String) : Reference := ⟨name, []⟩

/-- Whether there are arguments. -/
def isGeneric (r : Reference) : Bool := !r.args.isEmpty

/-- The arguments in ascending order. -/
def sortedArgs (r : Reference) : List String := r.args.mergeSort fun a b => decide (a ≤ b)

/-- The reference without blanks. -/
def display (r : Reference) : String :=
  if r.args.isEmpty then r.name else r.name ++ "<" ++ ",".intercalate r.args ++ ">"

/-- Whether a character may stand in a name. -/
def isNameChar (c : Char) : Bool :=
  isAlphanumeric c || c == '_' || c == '-' || c == '.' || c == '/' || c == '\\'

/-- Whether characters form an identifier. -/
def isIdentifier : List Char → Bool
  | [] => false
  | c :: rest => startsIdentifier c && rest.all continuesIdentifier

/-- The identifier in a piece between two commas, if it holds one and blanks only. -/
def argument? (piece : List Char) : Option String :=
  let cs := trimBlankChars piece
  if isIdentifier cs then some (String.ofList cs) else none

/-- The arguments in what follows an opening bracket.  No argument holds a closing bracket, so the
first one ends the list. -/
def arguments? (cs : List Char) : Option (List String) :=
  match cs.dropWhile (· != '>') with
  | '>' :: after =>
    if after.all isBlank then ((cs.takeWhile (· != '>')).splitOn ',').mapM argument? else none
  | _ => none

/-- Reads a reference; `none` for anything else. -/
def parse? (text : String) : Option Reference :=
  let cs := trimBlankChars text.toList
  let name := cs.takeWhile isNameChar
  let rest := cs.dropWhile isNameChar
  if name.isEmpty then none
  else match rest with
    | [] => some (plain (String.ofList name))
    | rest =>
      match dropBlank rest with
      | '<' :: inside => return ⟨String.ofList name, ← arguments? inside⟩
      | _ => none

end Reference

end DispatchTables
