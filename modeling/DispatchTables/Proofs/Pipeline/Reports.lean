import DispatchTables.Pipeline.Run
import DispatchTables.Proofs.Traversal.Warnings

/-!
# What a compilation reports

A run hands out, pass by pass, everything that has been queued, and keeps all of it.  A pass that
fails is the last one to be run and its failure the last thing to be said; the artifacts are then
those of the pass before it.

## Main Definitions

* `Compilation.passWarnings`, `Compilation.runWarnings`: what is queued in a pass, and in a run, by
  recursion along them and without a look at any queue.
* `Leaves`: what no pass touches, and what a failing pass does not touch.
* `RunTold`: what a run of passes yields.

## Main Statements

* `queues_runPass`: a pass loses none of what it queues.
* `runAll_told`: so it is with a run.
* `run_reports`: the report of a compilation, whether it fails or not.
-/

namespace DispatchTables

variable {files : FileTree} {options : CompileOptions} {s : Store}

/-! ### The store -/

/-- What the store queues for the name of a bot. -/
def Store.botWarnings (files : FileTree) (s : Store) (name : String) : List Diagnostic :=
  if files.isFile name then []
  else match s.botKey? name with
    | some _ => []
    | none => s.loadWarnings name

/-- What the store queues for an environment. -/
def AllowList.loadWarnings (s : Store) (argument : String) : List Diagnostic :=
  match s.findInDirectory directory argument with
  | none => []
  | some key => s.loadWarnings key

theorem warnings_loadFile (files : FileTree) (s : Store) (path : String) :
    (s.loadFile files path).2.warnings = s.warnings := by
  unfold Store.loadFile
  cases files.resolve path with
  | error fault => rfl
  | ok place =>
    dsimp only
    generalize s.keyOfLocation files place = key
    exact warnings_loadKey files { s with index := _ } key

theorem warnings_locateBot (files : FileTree) (s : Store) (name : String) :
    (s.locateBot files name).2.warnings = s.warnings ++ s.botWarnings files name := by
  unfold Store.locateBot Store.botWarnings
  by_cases isFile : files.isFile name = true
  · rw [if_pos isFile, if_pos isFile, List.append_nil]
    exact warnings_loadFile files s name
  · rw [if_neg isFile, if_neg isFile]
    cases s.botKey? name with
    | some key => exact (warnings_loadKey files s key).trans (List.append_nil _).symm
    | none =>
      dsimp only
      rw [warnings_load]

theorem warnings_allowList (files : FileTree) (s : Store) (argument : String) :
    (AllowList.load files s argument).2.warnings =
      s.warnings ++ AllowList.loadWarnings s argument := by
  unfold AllowList.load AllowList.loadWarnings
  cases s.findInDirectory AllowList.directory argument with
  | none => exact (List.append_nil _).symm
  | some key =>
    have loaded := warnings_load files s key
    dsimp only
    generalize s.load files key = out at loaded
    obtain ⟨found, s₁⟩ := out
    cases found with
    | error e => exact loaded
    | ok d =>
      dsimp only
      cases AllowList.namesOf? d.doc <;> exact loaded

theorem warnings_scan (files : FileTree) (keys : List String) (s : Store) (found : Store.Scan) :
    (Store.scan files keys s found).2.warnings = s.warnings := by
  induction keys generalizing s found with
  | nil => rfl
  | cons key rest ih =>
    have same := warnings_loadKey files s key
    unfold Store.scan
    generalize s.loadKey files key = out at same
    obtain ⟨loaded, s₁⟩ := out
    rw [← same]
    cases loaded <;> exact ih s₁ _

theorem warnings_chipCatalog (files : FileTree) (s : Store) :
    (s.chipCatalog files).2.warnings = s.warnings :=
  warnings_scan files s.keys s {}

/-! ### What a pass queues -/

namespace Compilation

/-- What is queued while the pins of a chip are given out. -/
def chipWarnings (files : FileTree) (reference : String) (uses : List BusUse) (c : Context) :
    List Diagnostic :=
  c.loadResolvedWarnings files reference ++
    match c.loadResolved files reference with
    | (.error _, _) => []
    | (.ok r, c) =>
      match chipOf r with
      | .error _ => []
      | .ok chip =>
        match DispatchTables.allocate chip uses with
        | .ok report => report.warnings
        | .error _ => (c.store.chipCatalog files).1.2.map chipSkipped

/-- What is queued in a pass. -/
def passWarnings (files : FileTree) (options : CompileOptions) (pass : Pass) (c : Compilation) :
    List Diagnostic :=
  match pass with
  | .load => c.context.store.botWarnings files options.bot
  | .resolve =>
    match c.artifacts.root with
    | none => []
    | some root => c.context.resolveWarnings files root
  | .traverse =>
    match c.artifacts.resolved with
    | none => []
    | some root => traverseWarnings files c.context root
  | .filter =>
    match options.environment with
    | none => []
    | some argument =>
      AllowList.loadWarnings c.context.store argument ++
        match (AllowList.load files c.context.store argument).1, c.artifacts.traversal with
        | .ok allow, some t => allow.warnings t
        | _, _ => []
  | .allocate =>
    match c.artifacts.traversal with
    | none => []
    | some t =>
      match options.chip.or t.controller with
      | none => [noController t.root]
      | some reference => chipWarnings files reference t.busUses c.context
  | .emit => []

/-- What is queued in a run, up to the first pass that fails. -/
def runWarnings (files : FileTree) (options : CompileOptions) :
    List Pass → Compilation → List Diagnostic
  | [], _ => []
  | pass :: rest, c =>
    c.passWarnings files options pass ++
      match (c.runPass files options pass).1 with
      | .error _ => []
      | .ok () => runWarnings files options rest (finishPass (c.runPass files options pass)).2

end Compilation

open Compilation

theorem queues_overrun (files : FileTree) (chip : ChipSpec) (overrun : Overrun) (c : Context) :
    Queues c ((c.store.chipCatalog files).1.2.map chipSkipped)
      (overrunFailure files chip overrun c).2 := by
  have same := warnings_chipCatalog files c.store
  unfold overrunFailure
  generalize c.store.chipCatalog files = out at same
  obtain ⟨⟨catalog, failures⟩, s⟩ := out
  have scanned : Queues c [] { c with store := s } :=
    queues_store (same.trans (List.append_nil _).symm)
  exact scanned.trans (queues_reportAll _ _)

theorem queues_allocateOn (files : FileTree) (reference : String) (uses : List BusUse)
    (c : Context) :
    Queues c (chipWarnings files reference uses c) (allocateOn files reference uses c).2 := by
  have loaded := queues_loadResolved files c reference
  unfold chipWarnings allocateOn
  generalize c.loadResolved files reference = out at loaded
  obtain ⟨found, c₁⟩ := out
  refine loaded.trans ?_
  cases found with
  | error e => exact .refl c₁
  | ok r =>
    dsimp only
    cases Compilation.chipOf r with
    | error e => exact .refl c₁
    | ok chip =>
      dsimp only
      cases DispatchTables.allocate chip uses with
      | ok report => exact queues_reportAll c₁ report.warnings
      | error overrun => exact queues_overrun files chip overrun c₁

/-- **A pass loses none of what it queues**, whether it fails or not. -/
theorem queues_runPass (files : FileTree) (options : CompileOptions) (pass : Pass)
    (c : Compilation) :
    Queues c.context (c.passWarnings files options pass)
      (c.runPass files options pass).2.context := by
  cases pass with
  | load =>
    have located := (queues_store (warnings_locateBot files c.context.store options.bot)).trans
      (queues_absorb { c.context with store := (c.context.store.locateBot files options.bot).2 })
    rw [List.append_nil] at located
    unfold passWarnings runPass Compilation.load
    dsimp only
    generalize c.context.store.locateBot files options.bot = out at located
    obtain ⟨found, s⟩ := out
    cases found <;> exact located
  | resolve =>
    unfold passWarnings runPass Compilation.resolve
    dsimp only
    cases c.artifacts.root with
    | none => exact .refl c.context
    | some root => exact queues_resolve files c.context root
  | traverse =>
    unfold passWarnings runPass Compilation.traverse
    dsimp only
    cases c.artifacts.resolved with
    | none => exact .refl c.context
    | some root =>
      have walked := queues_traverse files c.context root
      dsimp only
      generalize DispatchTables.traverse files c.context root = out at walked
      obtain ⟨found, c₁⟩ := out
      cases found <;> exact walked
  | filter =>
    unfold passWarnings runPass Compilation.filter
    dsimp only
    cases options.environment with
    | none => exact .refl c.context
    | some argument =>
      have loaded := queues_store (warnings_allowList files c.context.store argument)
      dsimp only
      generalize AllowList.load files c.context.store argument = out at loaded
      obtain ⟨found, s⟩ := out
      refine loaded.trans ?_
      cases found with
      | error e => exact .refl _
      | ok allow =>
        cases c.artifacts.traversal with
        | none => exact .refl _
        | some t => exact queues_reportAll _ (allow.warnings t)
  | allocate =>
    unfold passWarnings runPass Compilation.allocate
    dsimp only
    cases c.artifacts.traversal with
    | none => exact .refl c.context
    | some t =>
      dsimp only
      cases options.chip.or t.controller with
      | none => exact queues_report c.context _
      | some reference =>
        have given := queues_allocateOn files reference t.busUses c.context
        dsimp only
        generalize allocateOn files reference t.busUses c.context = out at given
        obtain ⟨found, c₁⟩ := out
        cases found <;> exact given
  | emit =>
    unfold passWarnings runPass Compilation.emit
    dsimp only
    cases c.artifacts.traversal with
    | none => exact .refl c.context
    | some t =>
      dsimp only
      split <;> exact .refl c.context

/-! ### What passes leave alone -/

/-- What no pass touches is the report; what a pass that fails does not touch are the artifacts and
the provenance, and the latter is left by any pass but the last. -/
structure Leaves (pass : Pass) (c : Compilation) (out : PassResult) : Prop where
  diagnostics : out.2.diagnostics = c.diagnostics
  hasError : out.2.hasError = c.hasError
  artifacts : ∀ e, out.1 = .error e → out.2.artifacts = c.artifacts
  failed : ∀ e, out.1 = .error e → out.2.provenance = c.provenance
  provenance : pass ≠ .emit → out.2.provenance = c.provenance

/-- A pass that has only changed the context leaves the rest alone. -/
theorem leaves_of_context (pass : Pass) (c : Compilation) (context : Context)
    (r : Except Failure Unit) : Leaves pass c (r, { c with context }) :=
  ⟨rfl, rfl, fun _ _ => rfl, fun _ _ => rfl, fun _ => rfl⟩

/-- So does a pass that has succeeded and changed the artifacts besides. -/
theorem leaves_of_artifacts (pass : Pass) (c : Compilation) (context : Context)
    (artifacts : Artifacts) : Leaves pass c (.ok (), { c with context, artifacts }) :=
  ⟨rfl, rfl, fun _ h => (nomatch h), fun _ h => (nomatch h), fun _ => rfl⟩

theorem runPass_leaves (files : FileTree) (options : CompileOptions) (pass : Pass)
    (c : Compilation) : Leaves pass c (c.runPass files options pass) := by
  cases pass with
  | load =>
    unfold runPass Compilation.load
    dsimp only
    cases (c.context.store.locateBot files options.bot).1 with
    | ok root => exact leaves_of_artifacts _ c _ _
    | error e => exact leaves_of_context _ c _ _
  | resolve =>
    unfold runPass Compilation.resolve
    dsimp only
    cases c.artifacts.root with
    | none => exact leaves_of_context _ c c.context _
    | some root => exact leaves_of_artifacts _ c _ _
  | traverse =>
    unfold runPass Compilation.traverse
    dsimp only
    cases c.artifacts.resolved with
    | none => exact leaves_of_context _ c c.context _
    | some root =>
      dsimp only
      generalize DispatchTables.traverse files c.context root = out
      obtain ⟨found, c₁⟩ := out
      cases found with
      | ok t => exact leaves_of_artifacts _ c _ _
      | error e => exact leaves_of_context _ c _ _
  | filter =>
    unfold runPass Compilation.filter
    dsimp only
    cases options.environment with
    | none => exact leaves_of_context _ c c.context _
    | some argument =>
      dsimp only
      generalize AllowList.load files c.context.store argument = out
      obtain ⟨found, s⟩ := out
      cases found with
      | error e => exact leaves_of_context _ c _ _
      | ok allow =>
        generalize c.artifacts.traversal = traversal
        cases traversal with
        | none => exact leaves_of_context _ c _ _
        | some t => exact leaves_of_artifacts _ c _ _
  | allocate =>
    unfold runPass Compilation.allocate
    dsimp only
    cases c.artifacts.traversal with
    | none => exact leaves_of_context _ c c.context _
    | some t =>
      dsimp only
      cases options.chip.or t.controller with
      | none => exact leaves_of_context _ c _ _
      | some reference =>
        dsimp only
        generalize allocateOn files reference t.busUses c.context = out
        obtain ⟨found, c₁⟩ := out
        cases found with
        | ok pins => exact leaves_of_artifacts _ c _ _
        | error e => exact leaves_of_context _ c _ _
  | emit =>
    unfold runPass Compilation.emit
    dsimp only
    cases c.artifacts.traversal with
    | none => exact leaves_of_context _ c c.context _
    | some t =>
      dsimp only
      split
      · exact leaves_of_context _ c c.context _
      · exact ⟨rfl, rfl, fun _ h => (nomatch h), fun _ h => (nomatch h),
          fun other => absurd rfl other⟩

/-! ### Handing out -/

/-- Everything that waits is handed out, and then the failure if there is one. -/
theorem finishPass_eq (r : Except Failure Unit) (c : Compilation) :
    finishPass (r, c) =
      (passDiagnostics c.context.waiting r, { c with
        context := c.context.takeDiagnostics.2
        diagnostics := c.diagnostics ++ passDiagnostics c.context.waiting r
        hasError := c.hasError || !r.isOk }) := rfl

theorem waiting_takeDiagnostics (c : Context) : c.takeDiagnostics.2.waiting = [] := rfl

/-- Everything that has been said or waits to be said. -/
def Compilation.told (c : Compilation) : List Diagnostic := c.diagnostics ++ c.context.waiting

/-- What comes of a run: the report and the last state. -/
abbrev RunResult := RunReport × Compilation

/-- The diagnostic of the failure that ends a run. -/
def failureDiagnostics (report : RunReport) : List Diagnostic :=
  (report.failure.map fun f => f.2.toDiagnostic).toList

/-- How a run that fails at a pass ends: the passes before it have succeeded, it is the last to be
heard of, its failure is said last, and the artifacts and the provenance are those from before
it. -/
structure FailsAt (files : FileTree) (options : CompileOptions) (passes : List Pass)
    (c : Compilation) (out : RunResult) (before : List Pass) (p : Pass) (e : Failure) : Prop where
  passes : before ++ [p] <+: passes
  heard : out.1.passes.map Prod.fst = before ++ [p]
  succeeded : (runAll files options before c).1.failure = none
  fails : ((runAll files options before c).2.runPass files options p).1 = .error e
  said : ∃ ws, out.1.passes.getLast? = some (p, ws ++ [e.toDiagnostic])
  hasError : out.2.hasError = true
  artifacts : out.2.artifacts = (runAll files options before c).2.artifacts
  provenance : out.2.provenance = (runAll files options before c).2.provenance

/-- **What a run of passes yields**: everything that has been handed out is kept, nothing that has
been queued is lost, and all passes have been heard of, or all up to the first that fails. -/
structure RunTold (files : FileTree) (options : CompileOptions) (passes : List Pass)
    (c : Compilation) (out : RunResult) : Prop where
  kept : out.2.diagnostics = c.diagnostics ++ out.1.passes.flatMap Prod.snd
  told : out.2.told.Perm
    (c.told ++ c.runWarnings files options passes ++ failureDiagnostics out.1)
  handedOut : passes ≠ [] → out.2.context.waiting = []
  succeeds : out.1.failure = none →
    out.1.passes.map Prod.fst = passes ∧ out.2.hasError = c.hasError
  fails : ∀ p e, out.1.failure = some (p, e) →
    ∃ before, FailsAt files options passes c out before p e

/-- **One pass**: what has been told grows by what the pass queues, and by its failure. -/
theorem told_finishPass (files : FileTree) (options : CompileOptions) (pass : Pass)
    (c : Compilation) :
    (finishPass (c.runPass files options pass)).2.told.Perm
      (c.told ++ passDiagnostics (c.passWarnings files options pass)
        (c.runPass files options pass).1) := by
  have queued := queues_runPass files options pass c
  have same := (runPass_leaves files options pass c).diagnostics
  generalize c.runPass files options pass = out at queued same
  obtain ⟨r, c₁⟩ := out
  have handed : (finishPass (r, c₁)).2.told =
      c.diagnostics ++ passDiagnostics c₁.context.waiting r := by
    rw [finishPass_eq]
    dsimp only at same
    simp [Compilation.told, waiting_takeDiagnostics, same]
  rw [handed]
  unfold Queues at queued
  dsimp only at queued ⊢
  unfold Compilation.told
  rw [List.append_assoc]
  refine List.Perm.append_left c.diagnostics ?_
  cases r with
  | ok done => exact queued
  | error e =>
    unfold passDiagnostics
    rw [← List.append_assoc]
    exact queued.append_right _

/-- Passes that succeed can be run ahead of the others. -/
theorem runAll_cons_ok {pass : Pass} (rest : List Pass) {c : Compilation}
    (succeeds : (c.runPass files options pass).1 = .ok ()) :
    runAll files options (pass :: rest) c =
      let (said, c₁) := finishPass (c.runPass files options pass)
      let (report, c₂) := runAll files options rest c₁
      ({ report with passes := (pass, said) :: report.passes }, c₂) := by
  rw [runAll]
  dsimp only
  rw [succeeds]

theorem runAll_cons_error {pass : Pass} (rest : List Pass) {c : Compilation} {e : Failure}
    (fails : (c.runPass files options pass).1 = .error e) :
    runAll files options (pass :: rest) c =
      (⟨[(pass, (finishPass (c.runPass files options pass)).1)], some (pass, e)⟩,
        (finishPass (c.runPass files options pass)).2) := by
  rw [runAll]
  dsimp only
  rw [fails]

/-- A run that stops at its first pass. -/
theorem runTold_of_error {pass : Pass} {rest : List Pass} {c : Compilation} {e : Failure}
    (fails : (c.runPass files options pass).1 = .error e) :
    RunTold files options (pass :: rest) c (runAll files options (pass :: rest) c) := by
  have leaves := runPass_leaves files options pass c
  have told := told_finishPass files options pass c
  have stopped := runAll_cons_error rest fails
  have queued : c.runWarnings files options (pass :: rest) =
      c.passWarnings files options pass := by
    unfold runWarnings
    rw [fails, List.append_nil]
  rw [stopped]
  generalize ran : c.runPass files options pass = out at leaves told fails
  obtain ⟨r, c₁⟩ := out
  obtain rfl : r = .error e := fails
  rw [finishPass_eq] at told ⊢
  exact
    { kept := by
        have same : c₁.diagnostics = c.diagnostics := leaves.diagnostics
        simp [same]
      told := by
        rw [queued, List.append_assoc]
        exact told
      handedOut := fun _ => waiting_takeDiagnostics c₁.context
      succeeds := fun none => nomatch none
      fails := by
        intro p e' failed
        obtain ⟨rfl, rfl⟩ := Prod.mk.inj (Option.some.inj failed)
        exact ⟨[],
          { passes := ⟨rest, rfl⟩
            heard := rfl
            succeeded := rfl
            fails := congrArg Prod.fst ran
            said := ⟨c₁.context.waiting, rfl⟩
            hasError := by simp [Except.isOk, Except.toBool]
            artifacts := leaves.artifacts e rfl
            provenance := leaves.failed e rfl }⟩ }

/-- A run that goes on after its first pass. -/
theorem runTold_of_ok {pass : Pass} {rest : List Pass} {c : Compilation}
    (succeeds : (c.runPass files options pass).1 = .ok ())
    (ih : RunTold files options rest (finishPass (c.runPass files options pass)).2
      (runAll files options rest (finishPass (c.runPass files options pass)).2)) :
    RunTold files options (pass :: rest) c (runAll files options (pass :: rest) c) := by
  have leaves := runPass_leaves files options pass c
  have told := told_finishPass files options pass c
  have queued : c.runWarnings files options (pass :: rest) = c.passWarnings files options pass ++
      (finishPass (c.runPass files options pass)).2.runWarnings files options rest := by
    rw [runWarnings, succeeds]
  have further := runAll_cons_ok rest succeeds
  have said : (finishPass (c.runPass files options pass)).2.diagnostics =
      c.diagnostics ++ (finishPass (c.runPass files options pass)).1 := by
    rw [← leaves.diagnostics]
    rfl
  have unmarked : (finishPass (c.runPass files options pass)).2.hasError = c.hasError := by
    rw [← leaves.hasError]
    show ((c.runPass files options pass).2.hasError ||
      !(c.runPass files options pass).1.isOk) = _
    rw [succeeds]
    simp [Except.isOk, Except.toBool]
  have emptied : (finishPass (c.runPass files options pass)).2.context.waiting = [] := rfl
  rw [succeeds] at told
  rw [further]
  generalize finished : finishPass (c.runPass files options pass) = out at *
  obtain ⟨slice, c₁⟩ := out
  dsimp only at said unmarked emptied told ih ⊢
  generalize later : runAll files options rest c₁ = out at ih
  obtain ⟨report, c₂⟩ := out
  exact
    { kept := by
        rw [ih.kept, said, List.flatMap_cons, List.append_assoc]
      told := by
        refine ih.told.trans ?_
        rw [queued, ← List.append_assoc]
        exact (told.append_right _).append_right _
      handedOut := by
        intro _
        cases rest with
        | nil =>
          cases later
          exact emptied
        | cons next more => exact ih.handedOut (by simp)
      succeeds := by
        intro none
        obtain ⟨heard, unmarked'⟩ := ih.succeeds none
        exact ⟨by rw [List.map_cons, heard], unmarked'.trans unmarked⟩
      fails := by
        intro p e failed
        obtain ⟨before, h⟩ := ih.fails p e failed
        have ahead := runAll_cons_ok before succeeds
        rw [finished] at ahead
        obtain ⟨ws, last⟩ := h.said
        exact ⟨pass :: before,
          { passes := by
              obtain ⟨after, eq⟩ := h.passes
              exact ⟨after, by rw [← eq]; rfl⟩
            heard := by rw [List.map_cons, h.heard]; rfl
            succeeded := by rw [ahead]; exact h.succeeded
            fails := by rw [ahead]; exact h.fails
            said := by
              refine ⟨ws, ?_⟩
              rw [List.getLast?_cons, last]
              rfl
            hasError := h.hasError
            artifacts := by rw [ahead]; exact h.artifacts
            provenance := by rw [ahead]; exact h.provenance }⟩ }

/-- **Nothing is lost in a run**, and nothing of a pass that fails is kept but what it has to
say. -/
theorem runAll_told (files : FileTree) (options : CompileOptions) (passes : List Pass)
    (c : Compilation) :
    RunTold files options passes c (runAll files options passes c) := by
  induction passes generalizing c with
  | nil =>
    exact
      { kept := by simp [runAll]
        told := by simp [runAll, runWarnings, failureDiagnostics]
        handedOut := fun none => absurd rfl none
        succeeds := fun _ => ⟨rfl, rfl⟩
        fails := fun _ _ failed => nomatch failed }
  | cons pass rest ih =>
    cases result : (c.runPass files options pass).1 with
    | error e => exact runTold_of_error result
    | ok done => exact runTold_of_ok result (ih _)

/-! ### Compilations -/

/-- Only the last pass writes down where its output is from. -/
theorem provenance_runAll {passes : List Pass} (h : .emit ∉ passes) (c : Compilation) :
    (runAll files options passes c).2.provenance = c.provenance := by
  induction passes generalizing c with
  | nil => rfl
  | cons pass rest ih =>
    rw [List.mem_cons, not_or] at h
    have kept : (finishPass (c.runPass files options pass)).2.provenance = c.provenance :=
      (runPass_leaves files options pass c).provenance fun same => h.1 same.symm
    cases result : (c.runPass files options pass).1 with
    | error e => rw [runAll_cons_error rest result, kept]
    | ok done =>
      rw [runAll_cons_ok rest result]
      exact (ih h.2 _).trans kept

/-- Tables are generated last. -/
theorem emit_not_mem_before {last p : Pass} {before : List Pass}
    (h : before ++ [p] <+: last.required) : .emit ∉ before := by
  intro mem
  obtain ⟨after, eq⟩ := h
  have early : .emit ∈ last.required.dropLast := by
    rw [← eq, List.append_assoc, List.dropLast_append_of_ne_nil (by simp)]
    exact List.mem_append_left _ mem
  revert early
  cases last <;> decide

/-- **The report of a compilation** from a store just opened.  What is kept is what has been handed
out, pass by pass; it holds the warnings of opening, every warning queued in the run, each as often
as it has been queued, and the failure if there is one.  Without a failure all passes have been
heard of, in order.  Otherwise the first pass that fails is the last one heard of; its failure is
said last, there is no provenance, and the artifacts are those of the passes before it. -/
theorem run_reports (files : FileTree) (options : CompileOptions) (last : Pass) (s : Store) :
    let start := Compilation.ofStore s
    let out := start.run files options last
    out.2.diagnostics = out.1.passes.flatMap Prod.snd ∧
    out.2.diagnostics.Perm
      (s.warnings ++ start.runWarnings files options last.required ++ failureDiagnostics out.1) ∧
    match out.1.failure with
    | none => out.1.passes.map Prod.fst = last.required ∧ out.2.hasError = false
    | some (p, e) => ∃ before, before ++ [p] <+: last.required ∧
        out.1.passes.map Prod.fst = before ++ [p] ∧
        (runAll files options before start).1.failure = none ∧
        ((runAll files options before start).2.runPass files options p).1 = .error e ∧
        out.2.hasError = true ∧ out.2.diagnostics.getLast? = some e.toDiagnostic ∧
        out.2.provenance = none ∧
        out.2.artifacts = (runAll files options before start).2.artifacts := by
  intro start out
  have h : RunTold files options last.required start out :=
    runAll_told files options last.required start
  have opened : start.told = s.warnings := by
    simp [start, Compilation.told, Compilation.ofStore, Context.ofStore, Context.waiting,
      Context.absorb, Store.takeWarnings]
  have nonempty : last.required ≠ [] := by cases last <;> decide
  have kept : out.2.diagnostics = out.1.passes.flatMap Prod.snd := h.kept
  have told : out.2.told = out.2.diagnostics := by
    rw [Compilation.told, h.handedOut nonempty, List.append_nil]
  clear_value out
  refine ⟨kept, ?_, ?_⟩
  · rw [← told, ← opened]
    exact h.told
  · cases failure : out.1.failure with
    | none => exact h.succeeds failure
    | some failed =>
      obtain ⟨p, e⟩ := failed
      obtain ⟨before, fails⟩ := h.fails p e failure
      obtain ⟨ws, lastSaid⟩ := fails.said
      refine ⟨before, fails.passes, fails.heard, fails.succeeded, fails.fails, fails.hasError, ?_,
        ?_, fails.artifacts⟩
      · obtain ⟨earlier, eq⟩ := List.getLast?_eq_some_iff.mp lastSaid
        rw [kept, eq, List.flatMap_append, List.getLast?_append]
        simp
      · exact fails.provenance.trans (provenance_runAll (emit_not_mem_before fails.passes) start)

end DispatchTables
