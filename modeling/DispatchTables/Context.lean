import DispatchTables.Store.Load

/-!
# Compilation context

Everything that a compilation keeps between its steps: what has been read, what has been resolved,
and what has been reported.

## Main Definitions

* `Resolver`: resolved documents by key, and what is known of a cut cycle.
* `Context`: store, resolver and diagnostics.
* `Context.absorb`: collects the warnings of store and resolver.
* `Context.takeDiagnostics`: hands out what has been reported.
-/

namespace DispatchTables

/-- Resolved documents.  `cut` is the shallowest place on the path at which a cycle has been cut
and not yet been left: what is resolved at or below it has seen only part of an ancestor. -/
structure Resolver where
  memo : KeyMap Resolved := .empty
  cut : Option Nat := none
  warnings : List Diagnostic := []
  deriving Inhabited

/-- What a compilation keeps between its steps. -/
structure Context where
  store : Store
  resolver : Resolver := {}
  diagnostics : List Diagnostic := []
  deriving Inhabited

namespace Context

/-- Adds a diagnostic to the report. -/
def report (c : Context) (d : Diagnostic) : Context :=
  { c with diagnostics := c.diagnostics ++ [d] }

/-- Adds several diagnostics to the report. -/
def reportAll (c : Context) (ds : List Diagnostic) : Context :=
  { c with diagnostics := c.diagnostics ++ ds }

/-- Moves the warnings of the store, then those of the resolver, to the report. -/
def absorb (c : Context) : Context :=
  { c with
    store := c.store.takeWarnings.2
    resolver := { c.resolver with warnings := [] }
    diagnostics := c.diagnostics ++ c.store.warnings ++ c.resolver.warnings }

/-- The context of a store just opened. -/
def ofStore (s : Store) : Context := absorb { store := s }

/-- The report, warnings still to be collected included, and the context without them. -/
def takeDiagnostics (c : Context) : List Diagnostic × Context :=
  (c.absorb.diagnostics, { c.absorb with diagnostics := [] })

end Context

end DispatchTables
