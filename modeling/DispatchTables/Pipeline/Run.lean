import DispatchTables.Environment
import DispatchTables.Pipeline.Compilation
import DispatchTables.Pipeline.Pass
import DispatchTables.Tables.Generation
import DispatchTables.Traversal.Walk

/-!
# Running passes

The passes of a compilation, each a step from one state to the next, and the run up to one of them.

## Main Definitions

* `Compilation.runPass`: one pass.
* `Compilation.finishPass`: hands out what a pass has to say.
* `Compilation.run`: all passes up to one, or up to the first that fails.

## Design Notes

A pass that fails leaves what it would have yielded as it was.  What it has done to the context, say
by reading files, stays.
-/

namespace DispatchTables.Compilation

/-- What a pass gives: whether it failed, and the state after it. -/
abbrev PassResult := Except Failure Unit × Compilation

/-- The failure of a pass that finds no input. -/
def inputMissing (pass : Pass) (input : String) : Failure :=
  .invalidShape input (.inputMissing pass.name)

/-! ### Loading, resolving, traversing -/

/-- Finds the bot. -/
def load (files : FileTree) (options : CompileOptions) (c : Compilation) : PassResult :=
  let (found, s) := c.context.store.locateBot files options.bot
  let c := { c with context := { c.context with store := s }.absorb }
  match found with
  | .ok root => (.ok (), { c with artifacts := { c.artifacts with root := some root } })
  | .error e => (.error e, c)

/-- Resolves the bot. -/
def resolve (files : FileTree) (c : Compilation) : PassResult :=
  match c.artifacts.root with
  | none => (.error (inputMissing .resolve "root"), c)
  | some root =>
    let (r, context) := c.context.resolve files root
    (.ok (), { c with context, artifacts := { c.artifacts with resolved := some r } })

/-- Walks the component graph of the bot. -/
def traverse (files : FileTree) (c : Compilation) : PassResult :=
  match c.artifacts.resolved with
  | none => (.error (inputMissing .traverse "resolved root"), c)
  | some root =>
    match DispatchTables.traverse files c.context root with
    | (.ok t, context) =>
      (.ok (), { c with context, artifacts := { c.artifacts with traversal := some t } })
    | (.error e, context) => (.error e, { c with context })

/-! ### Filtering -/

/-- Drops what is not allowed in the environment, if there is one. -/
def filter (files : FileTree) (options : CompileOptions) (c : Compilation) : PassResult :=
  match options.environment with
  | none => (.ok (), c)
  | some argument =>
    let (loaded, s) := AllowList.load files c.context.store argument
    let c := { c with context := { c.context with store := s } }
    match loaded, c.artifacts.traversal with
    | .error e, _ => (.error e, c)
    | .ok _, none => (.error (inputMissing .filter "traversal"), c)
    | .ok allow, some t =>
      let c := c.reportAll (allow.warnings t)
      (.ok (), { c with artifacts := { c.artifacts with traversal := some (allow.filter t) } })

/-! ### Allocating pins -/

/-- A resolved document as a chip. -/
def chipOf (r : Resolved) : Except Failure ChipSpec :=
  match Record.ofDocument r.key r.kind r.doc with
  | .ok (.chip chip) => .ok chip
  | .ok _ => .error (.invalidShape r.key .controllerNotChip)
  | .error e => .error (.invalidShape r.key (.mismatch e))

/-- What there is to say about a chip file that cannot be suggested. -/
def chipSkipped (failure : Failure) : Diagnostic :=
  .warn .chipSkipped "chip catalog" failure.message

/-- The failure of a chip with too few pins, with the chips of the store that would do. -/
def overrunFailure (files : FileTree) (chip : ChipSpec) (overrun : Overrun) (c : Context) :
    Failure × Context :=
  let ((catalog, failures), s) := c.store.chipCatalog files
  (.budgetExceeded overrun (suggest catalog overrun.required chip.name),
    { c with store := s }.reportAll (failures.map chipSkipped))

/-- Gives out the pins of a chip that a reference means. -/
def allocateOn (files : FileTree) (reference : String) (uses : List BusUse) (c : Context) :
    Except Failure PinReport × Context :=
  match c.loadResolved files reference with
  | (.error e, c) => (.error e, c)
  | (.ok r, c) =>
    match chipOf r with
    | .error e => (.error e, c)
    | .ok chip =>
      match DispatchTables.allocate chip uses with
      | .ok report => (.ok report, c.reportAll report.warnings)
      | .error overrun =>
        let (failure, c) := overrunFailure files chip overrun c
        (.error failure, c)

/-- The warning that no pins are given out for want of a chip. -/
def noController (root : String) : Diagnostic :=
  .warn .noController root "no controller declared and no --chip given; pin allocation skipped"

/-- Gives out the pins of the chip asked for, or else of the bot's own. -/
def allocate (files : FileTree) (options : CompileOptions) (c : Compilation) : PassResult :=
  match c.artifacts.traversal with
  | none => (.error (inputMissing .allocate "traversal"), c)
  | some t =>
    match options.chip.or t.controller with
    | none => (.ok (), c.report (noController t.root))
    | some reference =>
      match allocateOn files reference t.busUses c.context with
      | (.ok pins, context) =>
        (.ok (), { c with context, artifacts := { c.artifacts with pins := some pins } })
      | (.error e, context) => (.error e, { c with context })

/-! ### Generating tables -/

/-- Generates the tables. -/
def emit (options : CompileOptions) (c : Compilation) : PassResult :=
  match c.artifacts.traversal with
  | none => (.error (inputMissing .emit "traversal"), c)
  | some t =>
    let provenance := Provenance.ofStore c.context.store
    match generateTables t c.artifacts.pins options.names (some provenance) with
    | .error e => (.error e, c)
    | .ok generated =>
      (.ok (), { c with
        provenance := some provenance
        artifacts := { c.artifacts with generated := some generated } })

/-! ### The run -/

/-- One pass. -/
def runPass (files : FileTree) (options : CompileOptions) (pass : Pass) (c : Compilation) :
    PassResult :=
  match pass with
  | .load => c.load files options
  | .resolve => c.resolve files
  | .traverse => c.traverse files
  | .filter => c.filter files options
  | .allocate => c.allocate files options
  | .emit => c.emit options

/-- What a pass has to say: its warnings, then its failure. -/
def passDiagnostics (warnings : List Diagnostic) : Except Failure Unit → List Diagnostic
  | .ok () => warnings
  | .error e => warnings ++ [e.toDiagnostic]

/-- Hands out what a pass has to say, and notes a failure. -/
def finishPass : PassResult → List Diagnostic × Compilation
  | (result, c) =>
    let (warnings, context) := c.context.takeDiagnostics
    let said := passDiagnostics warnings result
    (said, { c with
      context
      diagnostics := c.diagnostics ++ said
      hasError := c.hasError || !result.isOk })

/-- What a run yields besides its last state: what each pass had to say, and the pass that failed
if one did. -/
structure RunReport where
  passes : List (Pass × List Diagnostic) := []
  failure : Option (Pass × Failure) := none

/-- Runs passes in turn, up to the first that fails. -/
def runAll (files : FileTree) (options : CompileOptions) :
    List Pass → Compilation → RunReport × Compilation
  | [], c => ({}, c)
  | pass :: rest, c =>
    let step := c.runPass files options pass
    let (said, c) := finishPass step
    match step.1 with
    | .error e => (⟨[(pass, said)], some (pass, e)⟩, c)
    | .ok () =>
      let (report, c) := runAll files options rest c
      ({ report with passes := (pass, said) :: report.passes }, c)

/-- Runs the passes up to one of them. -/
def run (files : FileTree) (options : CompileOptions) (last : Pass) (c : Compilation) :
    RunReport × Compilation :=
  runAll files options last.required c

end DispatchTables.Compilation
