import DispatchTables.Inheritance.Resolver

/-!
# Checking all descriptors

Every file of a store is read, resolved and read as a record, and all problems are collected.

## Main Definitions

* `Context.checkAll`: the problems of a store.
-/

namespace DispatchTables.Context

/-- Resolves descriptors and reads them as records; gives the failures in order. -/
def checkRecords (files : FileTree) : List Descriptor → Context → List Failure × Context
  | [], c => ([], c)
  | d :: rest, c =>
    let (r, c) := c.resolve files d
    let (failures, c) := checkRecords files rest c
    match Record.ofDocument r.key r.kind r.doc with
    | .ok _ => (failures, c)
    | .error e => (.invalidShape r.key (.mismatch e) :: failures, c)

/-- The problems of all files: first the warnings, then the files that cannot be read, then those
that are no records. -/
def checkAll (files : FileTree) (c : Context) : List Diagnostic × Context :=
  let (scan, s) := c.store.scanAll files
  let (failures, c) := checkRecords files scan.loaded { c with store := s }
  let (warnings, c) := c.takeDiagnostics
  (warnings ++ (scan.failures ++ failures).map Failure.toDiagnostic, c)

end DispatchTables.Context
