import DispatchTables.CommandLine.Execution
import DispatchTables.Proofs.Files.Writing
import DispatchTables.Proofs.Pipeline.Reading
import DispatchTables.Proofs.Tables.Pieces

/-!
# What the command leaves behind

The header and the source are written one after the other, each as a whole, and nothing is taken
back.  What is left is told by how many of the two have been written: none, the header alone, or
both.  Since the names of the two are paths, both may lead to one file, and then the source is in
it.

## Main Definitions

* `Written`: how far the files of a list have been written, and where.
* `Invocation.Generates`: the tables that an invocation generates.
* `Invocation.Leaves`: what a command for tables leaves behind.

## Main Statements

* `writeFiles_written`: files are written in order, up to the first path that is refused.
* `executeArguments_leaves`: what the command leaves behind, by its exit code.
* `header_without_source`: a command that fails may leave a header without its source.
-/

namespace DispatchTables

variable {i : Invocation} {t : FileTree} {dir : String} {outputs : List (String × String)}

/-! ### Writing in order -/

/-- **How far files have been written**: the first ones, each as a whole at the place that its path
leads to, and the next one, if there is a fault, has a path that is refused. -/
structure Written (dir : String) (outputs : List (String × String)) (t : FileTree)
    (places : List Location) (out : Option OutputFault × FileTree) : Prop where
  files : out.2 = t.puts (places.zip (outputs.map fun o => o.2.toUTF8))
  located : ∀ (n : Nat) (place : Location), places[n]? = some place → ∃ o, outputs[n]? = some o ∧
    out.2.locate (Path.join dir o.1) = .ok place
  ended : out.1 = none → places.length = outputs.length
  refused : ∀ fault, out.1 = some fault → ∃ o cause, outputs[places.length]? = some o ∧
    out.2.write (Path.join dir o.1) o.2.toUTF8 = .error cause ∧
    fault = .writing (Path.join dir o.1) cause

/-- One more file has been written ahead of the others. -/
theorem Written.cons {name text : String} {t' : FileTree} {places : List Location}
    {place : Location} {out : Option OutputFault × FileTree}
    (put : t' = t.put place text.toUTF8)
    (leads : t'.locate (Path.join dir name) = .ok place)
    (h : Written dir outputs t' places out) :
    Written dir ((name, text) :: outputs) t (place :: places) out where
  files := by
    rw [h.files, put, List.map_cons, List.zip_cons_cons, FileTree.puts_cons]
  located n found there := by
    cases n with
    | zero =>
      cases there
      refine ⟨(name, text), rfl, ?_⟩
      rw [h.files]
      exact (FileTree.within_puts t' _).locate leads
    | succ n => exact h.located n found there
  ended none_ := congrArg (· + 1) (h.ended none_)
  refused := h.refused

theorem writeFiles_nil (dir : String) (t : FileTree) : writeFiles dir [] t = (none, t) := by
  rfl

theorem writeFiles_cons (dir name text : String) (rest : List (String × String)) (t : FileTree) :
    writeFiles dir ((name, text) :: rest) t =
      match t.write (Path.join dir name) text.toUTF8 with
      | .ok t' => writeFiles dir rest t'
      | .error cause => (some (.writing (Path.join dir name) cause), t) := by
  rfl

/-- **Files are written in order**, up to the first path that is refused. -/
theorem writeFiles_written (dir : String) (outputs : List (String × String)) (t : FileTree) :
    ∃ places, Written dir outputs t places (writeFiles dir outputs t) := by
  induction outputs generalizing t with
  | nil =>
    rw [writeFiles_nil]
    exact ⟨[], rfl, nofun, fun _ => rfl, nofun⟩
  | cons output rest ih =>
    obtain ⟨name, text⟩ := output
    rw [writeFiles_cons]
    cases written : t.write (Path.join dir name) text.toUTF8 with
    | error cause =>
      refine ⟨[], rfl, nofun, nofun, ?_⟩
      rintro fault ⟨⟩
      exact ⟨(name, text), cause, rfl, written, rfl⟩
    | ok t' =>
      obtain ⟨place, put, leads⟩ := FileTree.write_eq_ok written
      obtain ⟨places, h⟩ := ih t'
      exact ⟨place :: places, h.cons put leads⟩

/-! ### The tables of an invocation -/

/-- **The tables that an invocation generates** on a tree: those of its run, if it goes well. -/
def Invocation.Generates (i : Invocation) (t : FileTree) (g : TableFiles) : Prop :=
  ∃ s, Store.ofDirectory t i.root = .ok s ∧
    ((Compilation.ofStore s).run t i.options .emit).1.failure = none ∧
    ((Compilation.ofStore s).run t i.options .emit).2.artifacts.generated = some g

/-- The tables of a run that goes well have the names that were asked for. -/
theorem exists_generated {options : CompileOptions} {s : Store}
    (done : ((Compilation.ofStore s).run t options .emit).1.failure = none) :
    ∃ g, ((Compilation.ofStore s).run t options .emit).2.artifacts.generated = some g ∧
      g.names = options.names := by
  have last : Pass.required .emit = [.load, .resolve, .traverse, .filter, .allocate] ++ [.emit] :=
    rfl
  unfold Compilation.run at done ⊢
  rw [last] at done ⊢
  obtain ⟨_, _, g, -, made, there⟩ := Compilation.runAll_generated done
  obtain ⟨_, -, rfl⟩ := generateTables_eq_ok made
  exact ⟨_, there, rfl⟩

/-! ### What is left -/

/-- **What writing tables leaves**: both files, or the header alone, or the files as they were. -/
theorem writeTables_leaves (dir : String) (g : TableFiles) (t : FileTree) :
    let out := writeTables dir g t
    (out.1 = none → ∃ header source,
      out.2.locate (Path.join dir g.names.header) = .ok header ∧
      out.2.locate (Path.join dir g.names.source) = .ok source ∧
      out.2.content? source = some g.source.toUTF8 ∧
      (header ≠ source → out.2.content? header = some g.header.toUTF8) ∧
      ∀ place, place ≠ header → place ≠ source → out.2.content? place = t.content? place) ∧
    (out.1 ≠ none → (∀ place, out.2.content? place = t.content? place) ∨
      ∃ header cause, out.2.locate (Path.join dir g.names.header) = .ok header ∧
        out.2.content? header = some g.header.toUTF8 ∧
        (∀ place, place ≠ header → out.2.content? place = t.content? place) ∧
        out.2.write (Path.join dir g.names.source) g.source.toUTF8 = .error cause) := by
  dsimp only
  unfold writeTables
  cases made : t.makeDirectories dir with
  | error fault => exact ⟨nofun, fun _ => .inl fun place => rfl⟩
  | ok t₁ =>
    dsimp only
    have old : ∀ place, t₁.content? place = t.content? place := fun place => by
      unfold FileTree.content?
      rw [FileTree.files_makeNested made]
    obtain ⟨places, written⟩ := writeFiles_written dir
      [(g.names.header, g.header), (g.names.source, g.source)] t₁
    generalize writeFiles dir [(g.names.header, g.header), (g.names.source, g.source)] t₁ = out
      at written
    constructor
    · intro ended
      obtain ⟨header, source, rfl⟩ := List.length_eq_two.mp (written.ended ended)
      have contents (place : Location) : out.2.content? place =
          if place = source then some g.source.toUTF8
          else if place = header then some g.header.toUTF8 else t.content? place := by
        rw [written.files, ← old]
        exact FileTree.content?_put.trans (by rw [FileTree.content?_put])
      obtain ⟨_, ⟨⟩, first⟩ := written.located 0 header rfl
      obtain ⟨_, ⟨⟩, second⟩ := written.located 1 source rfl
      refine ⟨header, source, first, second, ?_, fun apart => ?_, fun place other other' => ?_⟩
      · rw [contents, if_pos rfl]
      · rw [contents, if_neg apart, if_pos rfl]
      · rw [contents, if_neg other', if_neg other]
    · intro faulty
      obtain ⟨fault, is⟩ := Option.ne_none_iff_exists'.mp faulty
      obtain ⟨o, cause, next, refused, -⟩ := written.refused fault is
      match places with
      | [] =>
        left
        intro place
        rw [written.files, ← old]
        rfl
      | [header] =>
        right
        cases next
        obtain ⟨_, ⟨⟩, first⟩ := written.located 0 header rfl
        have contents (place : Location) : out.2.content? place =
            if place = header then some g.header.toUTF8 else t.content? place := by
          rw [written.files, ← old]
          exact FileTree.content?_put
        refine ⟨header, cause, first, ?_, fun place other => ?_, refused⟩
        · rw [contents, if_pos rfl]
        · rw [contents, if_neg other]
      | _ :: _ :: _ => cases next

/-- **What a command for tables leaves behind**, by its exit code.  Whether the directories above
the files have been made is left open. -/
inductive Invocation.Leaves (i : Invocation) (t : FileTree) (exit : UInt32) (after : FileTree) :
    Prop where
  /-- The tables have been generated and written. -/
  | tables {dir : String} {g : TableFiles} {header source : Location}
      (is : exit = 0) (asked : i.outputDirectory = some dir) (generates : i.Generates t g)
      (headerPath : after.locate (Path.join dir i.names.header) = .ok header)
      (sourcePath : after.locate (Path.join dir i.names.source) = .ok source)
      (sourceHolds : after.content? source = some g.source.toUTF8)
      (headerHolds : header ≠ source → after.content? header = some g.header.toUTF8)
      (others : ∀ place, place ≠ header → place ≠ source →
        after.content? place = t.content? place)
  /-- There are no tables to write. -/
  | ungenerated (is : exit = 1) (same : after = t) (none : ¬ ∃ g, i.Generates t g)
  /-- Neither file has been written. -/
  | unwritten (is : exit = 2) (same : ∀ place, after.content? place = t.content? place)
  /-- The header has been written, and the path of the source is refused. -/
  | headerAlone {dir : String} {g : TableFiles} {header : Location} {cause : FileFault}
      (is : exit = 2) (asked : i.outputDirectory = some dir) (generates : i.Generates t g)
      (headerPath : after.locate (Path.join dir i.names.header) = .ok header)
      (headerHolds : after.content? header = some g.header.toUTF8)
      (others : ∀ place, place ≠ header → after.content? place = t.content? place)
      (refused : after.write (Path.join dir i.names.source) g.source.toUTF8 = .error cause)

theorem deliver_leaves (tables : i.product = .tables) (asked : i.outputDirectory = some dir)
    {g : TableFiles} {c : Compilation} (generates : i.Generates t g) (named : g.names = i.names)
    (made : c.artifacts.generated = some g) :
    i.Leaves t (i.deliver t c).exit (i.deliver t c).files := by
  obtain ⟨both, fewer⟩ := writeTables_leaves dir g t
  unfold Invocation.deliver
  rw [tables, asked, made]
  dsimp only
  rw [named] at both fewer
  generalize writeTables dir g t = out at both fewer
  obtain ⟨fault, after⟩ := out
  cases fault with
  | none =>
    obtain ⟨header, source, first, second, sourceHolds, headerHolds, others⟩ := both rfl
    exact .tables rfl asked generates first second sourceHolds headerHolds others
  | some fault =>
    rcases fewer nofun with same | ⟨header, cause, path, holds, others, refused⟩
    · exact .unwritten rfl same
    · exact .headerAlone rfl asked generates path holds others refused

theorem compile_leaves (tables : i.product = .tables) (asked : i.outputDirectory = some dir)
    {s : Store} (opened : Store.ofDirectory t i.root = .ok s) :
    i.Leaves t (i.compile t s).exit (i.compile t s).files := by
  have pass : i.product.pass = .emit := by rw [tables]; rfl
  unfold Invocation.compile
  rw [pass]
  cases failed : ((Compilation.ofStore s).run t i.options .emit).1.failure with
  | some failure =>
    dsimp only
    rw [failed]
    refine .ungenerated rfl rfl ?_
    rintro ⟨g, s', opened', done, -⟩
    obtain rfl := Except.ok.inj (opened.symm.trans opened')
    rw [failed] at done
    cases done
  | none =>
    dsimp only
    rw [failed]
    obtain ⟨g, made, named⟩ := exists_generated failed
    exact deliver_leaves tables asked ⟨s, opened, failed, made⟩ named made

theorem execute_leaves (tables : i.product = .tables) (t : FileTree) :
    i.Leaves t (i.execute t).exit (i.execute t).files := by
  unfold Invocation.execute
  cases opened : Store.ofDirectory t i.root with
  | error e =>
    refine .ungenerated rfl rfl ?_
    rintro ⟨g, s, opened', -⟩
    rw [opened] at opened'
    cases opened'
  | ok s =>
    dsimp only
    unfold Invocation.executeOn
    rw [tables]
    cases asked : i.outputDirectory with
    | none => exact .unwritten rfl fun place => rfl
    | some dir => exact compile_leaves tables asked opened

/-- **What a command for tables leaves behind**, whatever its arguments and the files are.  If it
exits with zero, the tables have been generated; the path of the source leads to the source, that of
the header to the header unless it leads to the same file, and every other file is as it was.  If it
exits with one, none have been generated and nothing has changed.  Else it exits with two, and
either all files are as they were, or the header has been written and the path of the source was
refused, and all other files are as they were.

Where nothing is to be done nothing changes: a command that is asked about itself exits with zero,
and one whose arguments are wrong with two. -/
theorem executeArguments_leaves (arguments : List String) (defaultRoot : Option String)
    (t : FileTree) :
    match Invocation.ofArguments arguments defaultRoot with
    | .ok i => i.product = .tables → i.Leaves t (executeArguments arguments defaultRoot t).exit
        (executeArguments arguments defaultRoot t).files
    | .error .help | .error .version => (executeArguments arguments defaultRoot t).exit = 0 ∧
        (executeArguments arguments defaultRoot t).files = t
    | .error (.misuse _) => (executeArguments arguments defaultRoot t).exit = 2 ∧
        (executeArguments arguments defaultRoot t).files = t := by
  unfold executeArguments
  cases Invocation.ofArguments arguments defaultRoot with
  | error reply => cases reply <;> exact ⟨rfl, rfl⟩
  | ok i => exact fun tables => execute_leaves tables t

/-- A bot with one component, and a directory for its tables. -/
def oneEye : FileTree where
  workingDirectory := []
  directories := [["lib"], ["out"]]
  files := [
    (["lib", "bot.json"], "\x7b\"name\": \"bot\", \"components\": [\"eye\"]\x7d".toUTF8),
    (["lib", "eye.json"], "\x7b\"name\": \"eye\"\x7d".toUTF8)]

/-- The arguments for its tables, with the source in a directory that is not there. -/
def strayArguments : List String :=
  ["bot", "/out", "--root", "/lib", "--source-name", "no/tables.c"]

/-- What they say is to be done. -/
def strayInvocation : Invocation :=
  { bot := "bot", outputDirectory := some "/out", root := "/lib",
    names := ⟨"dispatch_tables.h", "no/tables.c"⟩ }

theorem ofArguments_stray : Invocation.ofArguments strayArguments none = .ok strayInvocation :=
  eq_ok_of_toOption (by decide +kernel)

theorem ofDirectory_oneEye : Store.ofDirectory oneEye "/lib" =
    .ok ([["bot.json"], ["eye.json"]].foldl Store.addFile (.empty "/lib")) :=
  Store.ofDirectory_of_ordered ["lib"] _ (by decide +kernel) (by decide +kernel)
    (by decide +kernel) (by decide +kernel) (by decide +kernel)

/-- The command fails when it is to write the source. -/
theorem executeArguments_stray :
    let done := executeArguments strayArguments none oneEye
    done.exit = 2 ∧ done.files.locate "/out/dispatch_tables.h" = .ok ["out", "dispatch_tables.h"] ∧
      done.files.hasFile ["out", "dispatch_tables.h"] = true := by
  unfold executeArguments
  rw [ofArguments_stray]
  dsimp only
  unfold Invocation.execute
  rw [show strayInvocation.root = "/lib" from rfl, ofDirectory_oneEye]
  dsimp only
  refine ⟨?_, eq_ok_of_toOption ?_, ?_⟩
  all_goals decide +kernel

/-- The tables have been generated, and only the header is there. -/
theorem executeArguments_leaves_stray : ∃ g, strayInvocation.Generates oneEye g ∧
    (executeArguments strayArguments none oneEye).files.content? ["out", "dispatch_tables.h"] =
      some g.header.toUTF8 ∧
    ∀ place, place ≠ ["out", "dispatch_tables.h"] →
      (executeArguments strayArguments none oneEye).files.content? place =
        oneEye.content? place := by
  obtain ⟨exit, path, there⟩ := executeArguments_stray
  have left := executeArguments_leaves strayArguments none oneEye
  rw [ofArguments_stray] at left
  cases left rfl with
  | tables is =>
    rw [exit] at is
    cases is
  | ungenerated is =>
    rw [exit] at is
    cases is
  | unwritten is same =>
    rw [FileTree.hasFile, same] at there
    exact absurd there (by decide +kernel)
  | @headerAlone dir g header cause is asked generates headerPath holds others refused =>
    obtain rfl := Option.some.inj asked
    have joined : Path.join "/out" strayInvocation.names.header = "/out/dispatch_tables.h" := by
      decide +kernel
    rw [joined, path] at headerPath
    obtain rfl := Except.ok.inj headerPath
    exact ⟨g, generates, holds, others⟩

/-- **A command that fails may leave a header without its source.**  The directory that the source
is to stand in is not there, which is found out when the header has been written. -/
theorem header_without_source :
    oneEye.hasFile ["out", "dispatch_tables.h"] = false ∧
    (executeArguments strayArguments none oneEye).exit = 2 ∧
    (executeArguments strayArguments none oneEye).files.hasFile ["out", "dispatch_tables.h"] =
      true :=
  ⟨by decide +kernel, executeArguments_stray.1, executeArguments_stray.2.2⟩

end DispatchTables
