import DispatchTables.Tables.Header
import DispatchTables.Tables.Source

/-!
# Generating tables

The header and the source for a traversal.

## Main Definitions

* `generateTables`: both files.
-/

namespace DispatchTables

/-- The files for a traversal, with its pins and its provenance if they are known.  A traversal
without rows has none. -/
def generateTables (t : Traversal) (pins : Option PinReport) (names : TableNames)
    (provenance : Option Provenance) : Except Failure TableFiles :=
  if t.entries.isEmpty then .error (.emptyTable t.root)
  else do
    let useFields ← planUseFields t.entries
    let input : TableInput := ⟨names, provenance, pins, t.root, t.entries, useFields⟩
    return ⟨names, joinLines input.headerLines, joinLines input.sourceLines⟩

end DispatchTables
