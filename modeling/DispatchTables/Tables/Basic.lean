import DispatchTables.Pins.Allocation
import DispatchTables.Store.Provenance
import DispatchTables.Tables.Literal
import DispatchTables.Tables.UseFields
import DispatchTables.Traversal.Basic

/-!
# Generated tables

The two files that are generated for a bot, what they are made from, and what both begin with.

## Main Definitions

* `TableNames`: the names of the two files.
* `TableFiles`: the files.
* `TableInput`: what the files are made from.
* `banner`: the first lines of a file.
-/

namespace DispatchTables

/-- The names of the generated files. -/
structure TableNames where
  header : String := "dispatch_tables.h"
  source : String := "dispatch_tables.c"
  deriving DecidableEq, Inhabited

/-- The generated files. -/
structure TableFiles where
  names : TableNames
  header : String
  source : String
  deriving DecidableEq, Inhabited

/-- What the files are made from. -/
structure TableInput where
  names : TableNames
  provenance : Option Provenance
  pins : Option PinReport
  root : String
  rows : List DispatchEntry
  useFields : UseFieldPlan

/-- Lines as text. -/
def joinLines (lines : List String) : String := String.join (lines.map (· ++ "\n"))

/-- Lines with an empty one after them. -/
def paragraph (lines : List String) : List String := lines ++ [""]

/-- Lines with an empty one after them, or nothing at all. -/
def optionalParagraph (lines : List String) : List String :=
  if lines.isEmpty then [] else paragraph lines

/-- The first lines of a file: for which bot it is and, if that is known, what it was made from. -/
def banner (root : String) (provenance : Option Provenance) : List String :=
  paragraph (["// Generated by generate_tables. Do not edit.", "// bot: " ++ root] ++
    match provenance with
    | some p => ["// descriptors: " ++ p.hex, "// compiler: " ++ p.version]
    | none => [])

namespace TableInput

/-- The configuration records of the rows. -/
def configs (t : TableInput) : List Expansion := t.rows.filterMap DispatchEntry.config

end TableInput

end DispatchTables
