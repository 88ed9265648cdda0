import DispatchTables.Text.Blank
import DispatchTables.Text.Lowercase

/-!
# Keys

Descriptors are known by keys: names with slashes between them, in small letters, without the
extension of their file.  References are written more freely and are brought to the same form.

## Main Definitions

* `normalSegments`: the names of a reference.
* `normalize`: the reference in the form of a key.
-/

namespace DispatchTables

/-- Joins names with slashes. -/
def joinSegments (segments : List String) : String := "/".intercalate segments

/-- Drops the extension of a descriptor file, once. -/
def stripExtension (cs : List Char) : List Char :=
  let extension := ['.', 'j', 's', 'o', 'n']
  if extension.isSuffixOf cs then cs.take (cs.length - extension.length) else cs

/-- Goes one name further; the names so far are the nearest first.  A dot stays, two dots go back,
and at the top they stay too. -/
def descend (above : List (List Char)) (segment : List Char) : List (List Char) :=
  if segment = [] ∨ segment = ['.'] then above
  else if segment = ['.', '.'] then above.drop 1
  else segment :: above

/-- The names of a reference: without blanks around it, with backslashes as slashes, in small
letters, without extension and with dots resolved. -/
def normalSegments (reference : String) : List String :=
  let slashed := (Text.trimBlankChars reference.toList).map fun c => if c = '\\' then '/' else c
  let plain := stripExtension (Text.lowercaseFrom [] slashed)
  (((plain.splitOn '/').foldl descend []).reverse).map String.ofList

/-- A reference in the form of a key. -/
def normalize (reference : String) : String := joinSegments (normalSegments reference)

end DispatchTables
