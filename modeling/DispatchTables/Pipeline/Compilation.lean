import DispatchTables.Context
import DispatchTables.Pins.Allocation
import DispatchTables.Store.Provenance
import DispatchTables.Tables.Basic
import DispatchTables.Traversal.Basic

/-!
# Compilations

The state of a compilation between its passes: what has been read and resolved, what the passes have
yielded so far, and everything that has been said.

## Main Definitions

* `CompileOptions`: what is to be compiled, and how.
* `Artifacts`: what the passes have yielded.
* `Compilation`: the state.
-/

namespace DispatchTables

/-- What is to be compiled: a bot, perhaps for an environment, perhaps with a chip other than its
own, into files of some names. -/
structure CompileOptions where
  bot : String
  environment : Option String := none
  chip : Option String := none
  names : TableNames := {}
  deriving DecidableEq, Inhabited

/-- What passes have yielded. -/
structure Artifacts where
  root : Option Descriptor := none
  resolved : Option Resolved := none
  traversal : Option Traversal := none
  pins : Option PinReport := none
  generated : Option TableFiles := none
  deriving Inhabited

/-- The state of a compilation. -/
structure Compilation where
  context : Context
  artifacts : Artifacts := {}
  diagnostics : List Diagnostic := []
  hasError : Bool := false
  provenance : Option Provenance := none
  deriving Inhabited

namespace Compilation

/-- The state of a compilation on a store just opened. -/
def ofStore (s : Store) : Compilation := { context := .ofStore s }

/-- Adds a diagnostic to the report of the pass under way. -/
def report (c : Compilation) (d : Diagnostic) : Compilation :=
  { c with context := c.context.report d }

/-- Adds several diagnostics to the report of the pass under way. -/
def reportAll (c : Compilation) (ds : List Diagnostic) : Compilation :=
  { c with context := c.context.reportAll ds }

end Compilation

end DispatchTables
