import DispatchTables.Pipeline.Check
import DispatchTables.Proofs.Pipeline.Reading
import DispatchTables.Proofs.Store.Catalog
import DispatchTables.Proofs.Traversal.Faults

/-!
# What a check vouches for

A check reads every file, resolves it and reads it as a record.  When it finds no error, no walk
comes upon a file that is no document or no record.  Components in place are not checked: a walk
reads them as records for the first time, and that is all that it may still fail on in this way.

## Main Statements

* `clean_of_checkAll`: a check without errors vouches for the files.
* `Compilation.run_fails_inPlace`: what a run may still fail on.
* `Compilation.run_fails_unchecked`: it may.
-/

namespace DispatchTables

variable {files : FileTree} {s t : Store} {c : Context} {d root : Descriptor} {ds : List Descriptor}
  {options : CompileOptions} {pass : Pass} {e : Failure}

/-! ### Checking -/

/-- A scan without failures has read every file. -/
theorem scanAll_reads (faithful : s.Faithful files) (grown : Store.Grows files s t)
    (none : (t.scanAll files).1.failures = []) :
    ∀ key ∈ s.keys, ∃ d, s.readKey files key = .ok d := by
  rw [scanAll_fst faithful grown] at none
  intro key mem
  have read := List.filterMap_eq_nil_iff.mp none key mem
  cases found : s.readKey files key with
  | error e =>
    rw [found] at read
    cases read
  | ok d => exact ⟨d, rfl⟩

/-- What is checked without failures is a record when it is resolved. -/
theorem checkRecords_reads (orderly : s.Orderly files) (abides : Abides files s c)
    (held : ∀ d ∈ ds, s.Holds files d) (none : (c.checkRecords files ds).1 = []) :
    ∀ d ∈ ds, ∃ record, Record.ofDocument (resolveAlone files s d).key
      (resolveAlone files s d).kind (resolveAlone files s d).doc = .ok record := by
  induction ds generalizing c with
  | nil => exact nofun
  | cons d rest ih =>
    rw [List.forall_mem_cons] at held ⊢
    obtain ⟨yields, after⟩ := abides.resolve_file orderly held.1
    unfold Context.checkRecords at none
    dsimp only at none
    rw [yields] at none
    split at none
    · rename_i record read
      exact ⟨⟨record, read⟩, ih after held.2 none⟩
    · cases none

/-- A check without errors has found no failures, for each of them is an error. -/
theorem failures_of_checkAll (quiet : ∀ w ∈ (c.checkAll files).1, w.isError = false) :
    let scan := c.store.scanAll files
    scan.1.failures = [] ∧
      (Context.checkRecords files scan.1.loaded { c with store := scan.2 }).1 = [] := by
  rw [← List.append_eq_nil_iff, List.eq_nil_iff_forall_not_mem]
  intro e mem
  have said : e.toDiagnostic ∈ (c.checkAll files).1 :=
    List.mem_append_right _ (List.mem_map_of_mem mem)
  exact Bool.noConfusion (quiet _ said)

/-- **A check without errors vouches for the files**: each can be read and is a record. -/
theorem clean_of_checkAll (orderly : s.Orderly files)
    (quiet : ∀ w ∈ ((Context.ofStore s).checkAll files).1, w.isError = false) :
    s.Clean files := by
  obtain ⟨reads, records⟩ := failures_of_checkAll quiet
  have start : Abides files s (.ofStore s) := abides_ofStore orderly
  have abides : Abides files s { Context.ofStore s with
      store := ((Context.ofStore s).store.scanAll files).2 } :=
    start.keeps (Store.scan_grows ..) rfl rfl
  rw [scanAll_fst orderly.faithful start.grown] at records
  refine ⟨orderly, scanAll_reads orderly.faithful start.grown reads, fun d held => ?_⟩
  exact checkRecords_reads orderly abides (fun d mem => Store.mem_held_iff.mp mem) records d
    (Store.mem_held_iff.mpr held)

/-! ### Running -/

namespace Compilation

variable {c : Compilation} {rest : List Pass} {r : Resolved}

/-- A pass that succeeds leaves the failing to the others. -/
theorem runAll_failure_of_ok
    (done : (c.runPass files options pass).1 = .ok ()) :
    (runAll files options (pass :: rest) c).1.failure =
      (runAll files options rest (finishPass (c.runPass files options pass)).2).1.failure := by
  rw [runAll_cons_ok rest done]

theorem traverse_eq_error (there : c.artifacts.resolved = some r)
    (failed : (c.traverse files).1 = .error e) :
    ∃ k, DispatchTables.traverse files c.context r = (.error e, k) := by
  unfold Compilation.traverse at failed
  simp only [there] at failed
  cases walked : DispatchTables.traverse files c.context r with
  | mk yielded k =>
    simp only [walked] at failed
    cases yielded with
    | ok t => cases failed
    | error other =>
      cases failed
      exact ⟨k, rfl⟩

/-- **A compilation on its way to the traversal**: nothing waits to be reported, and beyond files
only components in place are remembered. -/
structure Abiding (files : FileTree) (s : Store) (c : Compilation) : Prop where
  settled : Settled c.context
  abides : Abides files s c.context

theorem abiding_finish (abides : Abides files s c.context) (result : Except Failure Unit) :
    (finishPass (result, c)).2.Abiding files s :=
  ⟨⟨rfl, rfl⟩, abides.keeps (Store.takeWarnings_grows files _) rfl rfl⟩

/-- The bot is found in a file. -/
theorem abiding_load (orderly : s.Orderly files)
    (located : ((Context.ofStore s).store.locateBot files options.bot).1 = .ok root)
    (indexed : root.key ∈ s.keys) :
    let out := (ofStore s).runPass files options .load
    out.1 = .ok () ∧ s.Holds files root ∧ (finishPass out).2.Abiding files s ∧
      (finishPass out).2.artifacts.root = some root := by
  obtain ⟨_, opened⟩ := orderly.opened
  have unread : s.cache = .empty := Store.ofDirectory_cache opened
  have fresh : (ofStore s).context.store.cache = .empty := unread
  have done : ((ofStore s).load files options).1 = .ok () := by
    unfold Compilation.load
    dsimp only
    rw [show ((ofStore s).context.store.locateBot files options.bot).1 = .ok root from located]
  obtain ⟨d, t, found, eq⟩ := load_eq_ok done
  obtain rfl : root = d := by
    rw [show (ofStore s).context = .ofStore s from rfl] at found
    rw [found] at located
    exact (Except.ok.inj located).symm
  have start : Abides files s (.ofStore s) := abides_ofStore orderly
  have grown : Store.Grows files (Context.ofStore s).store t :=
    Store.locateBot_grows fresh found indexed
  have abides : Abides files s { Context.ofStore s with store := t } := start.keeps grown rfl rfl
  obtain ⟨faithful, read⟩ := Store.locateBot_faithful fresh found
  have held := Store.readKey_eq_ok_iff.mpr (faithful root.key root read)
  rw [Store.readKey_congr abides.grown.index] at held
  dsimp only [runPass]
  generalize (ofStore s).load files options = out at done eq ⊢
  obtain ⟨result, c⟩ := out
  obtain rfl := eq
  exact ⟨done, (Store.readKey_eq_ok_iff.mp held).2, abiding_finish abides.absorb result, rfl⟩

/-- The bot is resolved as it is alone. -/
theorem abiding_resolve (orderly : s.Orderly files) (h : c.Abiding files s)
    (held : s.Holds files root) (there : c.artifacts.root = some root) :
    let out := c.runPass files options .resolve
    out.1 = .ok () ∧ (finishPass out).2.Abiding files s ∧
      (finishPass out).2.artifacts.resolved = some (resolveAlone files s root) := by
  have done : (c.resolve files).1 = .ok () := by
    unfold Compilation.resolve
    rw [there]
  obtain ⟨d, found, eq⟩ := resolve_eq_ok done
  obtain rfl := Option.some.inj (there.symm.trans found)
  obtain ⟨yields, after⟩ := h.abides.resolve_file orderly held
  rw [← yields]
  dsimp only [runPass]
  generalize c.resolve files = out at done eq ⊢
  obtain ⟨result, c'⟩ := out
  obtain rfl := eq
  exact ⟨done, abiding_finish after result, rfl⟩

/-- **What the traversal of a compilation may fail on** whose bot is a file. -/
theorem runAll_traverse_leaves (clean : s.Clean files) (h : c.Abiding files s)
    (held : s.Holds files root) (robotic : root.kind ≠ .chipSpec)
    (there : c.artifacts.resolved = some (resolveAlone files s root))
    (failed : (runAll files options [.traverse] c).1.failure = some (pass, e)) :
    pass = .traverse ∧ s.Leaves files e := by
  cases result : (c.runPass files options .traverse).1 with
  | ok _ =>
    rw [runAll_failure_of_ok result] at failed
    cases failed
  | error other =>
    rw [runAll_cons_error [] result] at failed
    cases failed
    obtain ⟨k, walked⟩ := traverse_eq_error there result
    have kind : (resolveAlone files s root).kind = root.kind := by
      rw [resolveAlone, resolveAlong_eq]
      rfl
    exact ⟨rfl, traverse_leaves clean (.file held) (kind ▸ robotic) h.settled h.abides walked⟩

/-- **What a run to the traversal may fail on** when a check has found no error: on nothing that is
no document, and on no file that is no record. -/
theorem run_fails_inPlace {dir : String} (opened : Store.ofDirectory files dir = .ok s)
    (quiet : ∀ d, s.Holds files d → quietLists d.doc = true) (apart : Keeping.KeysApart s)
    (checked : ∀ w ∈ ((Context.ofStore s).checkAll files).1, w.isError = false)
    (located : ((Context.ofStore s).store.locateBot files options.bot).1 = .ok root)
    (indexed : root.key ∈ s.keys) (robotic : root.kind ≠ .chipSpec)
    (failed : ((ofStore s).run files options .traverse).1.failure = some (pass, e)) :
    pass = .traverse ∧ e.code ≠ .malformedJson ∧
      (e.code = .invalidShape → s.FaultInPlace files e) := by
  have orderly : s.Orderly files := ⟨⟨dir, opened⟩, quiet, apart⟩
  have clean : s.Clean files := clean_of_checkAll orderly checked
  have passes : Pass.required .traverse = [.load, .resolve, .traverse] := rfl
  obtain ⟨loads, held, found, there⟩ := abiding_load orderly located indexed
  obtain ⟨resolves, after, alone⟩ := abiding_resolve orderly found held there
  rw [run, passes, runAll_failure_of_ok loads, runAll_failure_of_ok resolves] at failed
  obtain ⟨last, leaves⟩ := runAll_traverse_leaves clean after held robotic alone failed
  exact ⟨last, leaves.document, leaves.record⟩

/-- A tree with one bot, and in it a component in place the hit count of which is a text. -/
def oftenFiles : FileTree where
  workingDirectory := []
  directories := [["lib"]]
  files := [(["lib", "bot.json"], ("\x7b\"name\": \"bot\", \"components\": [" ++
    "\x7b\"name\": \"eye\", \"timing\": \x7b\"hitCount\": \"often\"\x7d\x7d]\x7d").toUTF8)]

/-- The store of this tree. -/
def oftenStore : Store := [["bot.json"]].foldl Store.addFile (.empty "/lib")

theorem ofDirectory_oftenFiles : Store.ofDirectory oftenFiles "/lib" = .ok oftenStore :=
  Store.ofDirectory_of_ordered ["lib"] _ (by decide +kernel) (by decide +kernel)
    (by decide +kernel) (by decide +kernel) (by decide +kernel)

/-- The bot of this tree is a file, and a component. -/
theorem exists_oftenRoot : ∃ root,
    ((Context.ofStore oftenStore).store.locateBot oftenFiles "bot").1 = .ok root ∧
      root.key ∈ oftenStore.keys ∧ root.kind ≠ .chipSpec := by
  obtain ⟨root, located, same⟩ : ∃ root,
      ((Context.ofStore oftenStore).store.locateBot oftenFiles "bot").1 = .ok root ∧
        (root.key, root.kind) = ("bot", Kind.component) :=
    exists_of_toOption (by decide +kernel)
  obtain ⟨key, kind⟩ := Prod.mk.inj same
  refine ⟨root, located, ?_, ?_⟩
  · rw [key]
    decide +kernel
  · rw [kind]
    decide

theorem checkAll_oftenFiles : ((Context.ofStore oftenStore).checkAll oftenFiles).1 = [] := by
  decide +kernel

/-- What a compilation of this tree fails on. -/
theorem exists_oftenFailure : ∃ e,
    ((ofStore oftenStore).run oftenFiles { bot := "bot" } .traverse).1.failure =
      some (.traverse, e) ∧ e.code = .invalidShape ∧
      e.message = "descriptor 'bot#eye' has an invalid shape: " ++
        "invalid type: string \"often\", expected u32" := by
  have failed : ((ofStore oftenStore).run oftenFiles { bot := "bot" } .traverse).1.failure.map
      (fun f => (f.1, f.2.code, f.2.message)) =
        some (.traverse, .invalidShape, "descriptor 'bot#eye' has an invalid shape: " ++
          "invalid type: string \"often\", expected u32") := by
    decide +kernel
  obtain ⟨⟨pass, e⟩, failed, same⟩ := Option.map_eq_some_iff.mp failed
  obtain ⟨rfl, said⟩ := Prod.mk.inj same
  exact ⟨e, failed, Prod.mk.inj said⟩

/-- What it fails on is the component in place. -/
theorem run_fails_inPlace_often : ∃ e,
    ((ofStore oftenStore).run oftenFiles { bot := "bot" } .traverse).1.failure =
      some (.traverse, e) ∧ oftenStore.FaultInPlace oftenFiles e := by
  obtain ⟨root, located, indexed, robotic⟩ := exists_oftenRoot
  obtain ⟨e, failed, code, -⟩ := exists_oftenFailure
  have checked : ∀ w ∈ ((Context.ofStore oftenStore).checkAll oftenFiles).1, w.isError = false := by
    rw [checkAll_oftenFiles]
    exact nofun
  obtain ⟨-, -, inPlace⟩ := run_fails_inPlace ofDirectory_oftenFiles
    (quiet_of_held (by decide +kernel)) (Keeping.keysApart_of_unmarked (by decide +kernel)) checked
    located indexed robotic failed
  exact ⟨e, failed, inPlace code⟩

/-- **A check does not see into components in place**: it has nothing to say of a tree that does not
compile because one of them is no record. -/
theorem run_fails_unchecked :
    Store.ofDirectory oftenFiles "/lib" = .ok oftenStore ∧
      (∃ root, ((Context.ofStore oftenStore).store.locateBot oftenFiles "bot").1 = .ok root ∧
        root.key ∈ oftenStore.keys ∧ root.kind ≠ .chipSpec) ∧
      ((Context.ofStore oftenStore).checkAll oftenFiles).1 = [] ∧
      ∃ e, ((ofStore oftenStore).run oftenFiles { bot := "bot" } .traverse).1.failure =
          some (.traverse, e) ∧ e.code = .invalidShape ∧
        e.message = "descriptor 'bot#eye' has an invalid shape: " ++
          "invalid type: string \"often\", expected u32" :=
  ⟨ofDirectory_oftenFiles, exists_oftenRoot, checkAll_oftenFiles, exists_oftenFailure⟩

end Compilation

end DispatchTables
