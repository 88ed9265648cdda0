import DispatchTables.Proofs.Pipeline.Passes
import DispatchTables.Proofs.Tables.Introduction

/-!
# What the output depends on

Generated tables are stamped with a hash over every descriptor that was read.  Two compilations with
the same options whose stamps are over the same keys and documents yield the same tables if three
things that are not hashed agree too: which descriptor is the bot, which one an environment names,
and that no template that one of them reports as left unresolved has been read by the other.

## Main Definitions

* `Compilation.Twin`: the same compilation on two runs.
* `Compilation.ReadsAs`: one compilation has read the same as another.

## Main Statements

* `runPass_inStep`: passes of two runs go in step.
* `generated_eq_of_readsAs`: compilations that have read the same yield the same tables.
* `runEnds_ofStore`: a run ends by itself if nothing in place names sources.
* `generated_differ`: the hash alone does not decide the tables.
-/

namespace DispatchTables

variable {files files' : FileTree} {options : CompileOptions} {o o' : Upshot} {s s' : Store}
  {d : Descriptor}

namespace Compilation

variable {c c' : Compilation} {pass : Pass} {rest : List Pass}

/-! ### In step -/

/-- **The same compilation on two runs**, as far as the tables are concerned. -/
structure Twin (c c' : Compilation) : Prop where
  context : c.context.Twin c'.context
  root : Option.Rel (fun d d' => ∃ place, d' = { d with path := place }) c.artifacts.root
    c'.artifacts.root
  resolved : Option.Rel Resolved.Twin c.artifacts.resolved c'.artifacts.resolved
  traversal : c'.artifacts.traversal = c.artifacts.traversal
  pins : c'.artifacts.pins = c.artifacts.pins

theorem Twin.finish (h : c.Twin c') (result result' : Except Failure Unit) :
    (finishPass (result, c)).2.Twin (finishPass (result', c')).2 :=
  ⟨⟨h.context.memo, h.context.cut⟩, h.root, h.resolved, h.traversal, h.pins⟩

end Compilation

/-- The key of the descriptor that the argument for an environment leads to, if it leads to one. -/
def AllowList.key? (s : Store) (argument : String) : Option String :=
  (s.findInDirectory directory argument).bind fun key => (s.resolveKey key).1.toOption

theorem AllowList.key?_congr (same : s'.index = s.index) (argument : String) :
    AllowList.key? s' argument = AllowList.key? s argument := by
  have found : s'.findInDirectory directory argument = s.findInDirectory directory argument := by
    simp only [Store.findInDirectory, Store.keys, same]
  simp only [AllowList.key?, found, Store.resolveKey_fst_congr same]

/-- What an allow-list drops is decided by its names. -/
theorem AllowList.filter_congr {allow allow' : AllowList} (same : allow'.names = allow.names)
    (t : Traversal) : allow'.filter t = allow.filter t := by
  obtain ⟨source, names⟩ := allow
  obtain ⟨source', names'⟩ := allow'
  obtain rfl : names' = names := same
  rfl

/-- The names of an allow-list are written out, or are those of the descriptor that the argument
leads to. -/
theorem AllowList.names_of_load {argument : String} {allow : AllowList}
    (h : AllowList.load files s argument = (.ok allow, s')) :
    (AllowList.key? s argument = none ∧ allow.names = namesIn argument) ∨
      ∃ key d, AllowList.key? s argument = some key ∧ s'.cache.get? key = some d ∧
        namesOf? d.doc = some allow.names := by
  unfold AllowList.load at h
  unfold AllowList.key?
  cases found : s.findInDirectory directory argument with
  | none =>
    simp only [found] at h
    cases h
    exact .inl ⟨rfl, rfl⟩
  | some key =>
    simp only [found] at h
    cases loaded : s.load files key with
    | mk result s₁ =>
      simp only [loaded] at h
      cases result with
      | error e => cases h
      | ok d =>
        cases named : namesOf? d.doc with
        | none =>
          simp only [named] at h
          cases h
        | some names =>
          simp only [named] at h
          cases h
          obtain ⟨meant, resolved, read⟩ := Store.load_snd_get? loaded
          refine .inr ⟨meant, d, ?_, read, named⟩
          rw [Option.bind_some, resolved]
          rfl

namespace Compilation

variable {c c' : Compilation} {pass : Pass} {rest : List Pass}

/-- What is asked of the environment on two runs: that the argument leads to the same descriptor on
both, or to none on either. -/
def SameEnvironment (options : CompileOptions) (s s' : Store) : Prop :=
  ∀ argument, options.environment = some argument →
    AllowList.key? s' argument = AllowList.key? s argument

theorem filter_inStep (alike : Alike o o') (twin : c.Twin c')
    (environment : SameEnvironment options o.store o'.store)
    (done : (c.filter o.files options).1 = .ok ()) (done' : (c'.filter o'.files options).1 = .ok ())
    (before : Precedes o (c.filter o.files options).2.context)
    (before' : Precedes o' (c'.filter o'.files options).2.context) :
    (c.filter o.files options).2.Twin (c'.filter o'.files options).2 := by
  obtain ⟨none, eq⟩ | ⟨argument, allow, s, t, asked, loaded, there, eq⟩ := filter_eq_ok done
  · obtain ⟨-, eq'⟩ | ⟨_, _, _, _, asked', -⟩ := filter_eq_ok done'
    · rw [eq, eq']
      exact twin
    · rw [none] at asked'
      cases asked'
  · obtain ⟨none, -⟩ | ⟨argument', allow', s', t', asked', loaded', there', eq'⟩ :=
      filter_eq_ok done'
    · rw [asked] at none
      cases none
    · obtain rfl : argument = argument' := Option.some.inj (asked.symm.trans asked')
      obtain rfl : t' = t := by
        rw [twin.traversal, there] at there'
        exact (Option.some.inj there').symm
      rw [eq] at before ⊢
      rw [eq'] at before' ⊢
      have index : o.store.index = c.context.store.index :=
        before.index.symm.trans (allowList_grows loaded).index
      have index' : o'.store.index = c'.context.store.index :=
        before'.index.symm.trans (allowList_grows loaded').index
      have sameKey := environment argument asked
      rw [AllowList.key?_congr index, AllowList.key?_congr index'] at sameKey
      -- the names are written out on both runs, or read from the same descriptor
      have sameNames : allow'.names = allow.names := by
        obtain ⟨none, names⟩ | ⟨key, d, meant, read, names⟩ := AllowList.names_of_load loaded
        · obtain ⟨-, names'⟩ | ⟨_, _, meant', -, -⟩ := AllowList.names_of_load loaded'
          · rw [names, names']
          · rw [sameKey, none] at meant'
            cases meant'
        · obtain ⟨none, -⟩ | ⟨key', d', meant', read', names'⟩ := AllowList.names_of_load loaded'
          · rw [sameKey, meant] at none
            cases none
          · obtain rfl : key = key' := by
              rw [sameKey, meant] at meant'
              exact Option.some.inj meant'
            obtain ⟨place, there⟩ := alike.there.read (before.read read)
            obtain rfl := Option.some.inj (there.symm.trans (before'.read read'))
            exact Option.some.inj (names'.symm.trans names)
      refine ⟨⟨twin.context.memo, twin.context.cut⟩, twin.root, twin.resolved, ?_, twin.pins⟩
      exact congrArg some (AllowList.filter_congr sameNames t')

theorem allocate_inStep (alike : Alike o o') (twin : c.Twin c')
    (ends : c.PassEnds o.files options .allocate) (ends' : c'.PassEnds o'.files options .allocate)
    (done : (c.allocate o.files options).1 = .ok ())
    (done' : (c'.allocate o'.files options).1 = .ok ())
    (before : Precedes o (c.allocate o.files options).2.context)
    (before' : Precedes o' (c'.allocate o'.files options).2.context) :
    (c.allocate o.files options).2.Twin (c'.allocate o'.files options).2 := by
  obtain ⟨t, there, given⟩ := allocate_eq_ok done
  obtain ⟨t', there', given'⟩ := allocate_eq_ok done'
  obtain rfl : t' = t := by
    rw [twin.traversal, there] at there'
    exact (Option.some.inj there').symm
  obtain ⟨none, eq⟩ | ⟨reference, pins, k, asked, given, eq⟩ := given
  · obtain ⟨-, eq'⟩ | ⟨_, _, _, asked', -⟩ := given'
    · rw [eq, eq']
      exact ⟨⟨twin.context.memo, twin.context.cut⟩, twin.root, twin.resolved, twin.traversal,
        twin.pins⟩
    · rw [none] at asked'
      cases asked'
  · obtain ⟨none, -⟩ | ⟨reference', pins', k', asked', given', eq'⟩ := given'
    · rw [asked] at none
      cases none
    · obtain rfl : reference = reference' := Option.some.inj (asked.symm.trans asked')
      rw [eq] at before ⊢
      rw [eq'] at before' ⊢
      obtain ⟨r, k₁, chip, loaded, isChip, allocated, rfl⟩ := allocateOn_eq_ok given
      obtain ⟨r', k₁', chip', loaded', isChip', allocated', rfl⟩ := allocateOn_eq_ok given'
      obtain ⟨⟨place, rfl⟩, twin₁⟩ := loadResolved_inStep alike twin.context
        (ends t' reference there asked) (ends' t' reference there' asked) loaded loaded'
        (before.of_onward (reportAll_onward o.files _ _))
        (before'.of_onward (reportAll_onward o'.files _ _))
      obtain rfl : chip = chip' := Except.ok.inj (isChip.symm.trans isChip')
      obtain rfl : pins = pins' := Except.ok.inj (allocated.symm.trans allocated')
      exact ⟨⟨twin₁.memo, twin₁.cut⟩, twin.root, twin.resolved, twin.traversal, rfl⟩

/-- **Passes of two runs go in step**, but for the first and the last. -/
theorem runPass_inStep (alike : Alike o o') (twin : c.Twin c') (notFirst : pass ≠ .load)
    (notLast : pass ≠ .emit) (environment : SameEnvironment options o.store o'.store)
    (ends : c.PassEnds o.files options pass) (ends' : c'.PassEnds o'.files options pass)
    (done : (c.runPass o.files options pass).1 = .ok ())
    (done' : (c'.runPass o'.files options pass).1 = .ok ())
    (before : Precedes o (c.runPass o.files options pass).2.context)
    (before' : Precedes o' (c'.runPass o'.files options pass).2.context) :
    (c.runPass o.files options pass).2.Twin (c'.runPass o'.files options pass).2 := by
  cases pass with
  | load => exact absurd rfl notFirst
  | resolve =>
    dsimp only [runPass] at done done' before before' ⊢
    obtain ⟨root, there, eq⟩ := resolve_eq_ok done
    obtain ⟨root', there', eq'⟩ := resolve_eq_ok done'
    have same := twin.root
    rw [there, there'] at same
    obtain ⟨place, rfl⟩ := Option.rel_some_some.mp same
    rw [eq] at before ⊢
    rw [eq'] at before' ⊢
    obtain ⟨resolved, twin₁⟩ := resolve_inStep alike twin.context root place (ends root there)
      (ends' _ there') before before'
    exact ⟨twin₁, twin.root, .some resolved, twin.traversal, twin.pins⟩
  | traverse =>
    dsimp only [runPass] at done done' before before' ⊢
    obtain ⟨root, t, k, there, walked, eq⟩ := traverse_eq_ok done
    obtain ⟨root', t', k', there', walked', eq'⟩ := traverse_eq_ok done'
    have same := twin.resolved
    rw [there, there'] at same
    obtain ⟨place, rfl⟩ := Option.rel_some_some.mp same
    rw [eq] at before ⊢
    rw [eq'] at before' ⊢
    obtain ⟨rfl, twin₁⟩ := traverse_inStep alike place twin.context (ends root there)
      (ends' _ there') walked walked' before before'
    exact ⟨twin₁, twin.root, twin.resolved, rfl, twin.pins⟩
  | filter =>
    dsimp only [runPass] at done done' before before' ⊢
    exact filter_inStep alike twin environment done done' before before'
  | allocate =>
    dsimp only [runPass] at done done' before before' ⊢
    exact allocate_inStep alike twin ends ends' done done' before before'
  | emit => exact absurd rfl notLast

/-! ### The output -/

/-- The stamp is over the keys and documents of what has been read. -/
theorem ofStore_congr (same : s'.loadedPairs = s.loadedPairs) :
    Provenance.ofStore s' = Provenance.ofStore s := by
  have parts : ∀ t : Store, t.loaded.map fingerprintPart =
      t.loadedPairs.map fun p => p.1 ++ "\x00" ++ (Json.object p.2).compact ++ "\x00" := by
    intro t
    rw [Store.loadedPairs, List.map_map]
    rfl
  have count : ∀ t : Store, t.loaded.length = t.loadedPairs.length := fun t =>
    (List.length_map _).symm
  simp only [Provenance.ofStore, fingerprint, fingerprintText, parts, count, same]

theorem emit_inStep (twin : c.Twin c')
    (same : c'.context.store.loadedPairs = c.context.store.loadedPairs)
    (done : (c.emit options).1 = .ok ()) (done' : (c'.emit options).1 = .ok ()) :
    ∃ generated, (c.emit options).2.artifacts.generated = some generated ∧
      (c'.emit options).2.artifacts.generated = some generated := by
  obtain ⟨t, generated, there, made, eq⟩ := emit_eq_ok done
  obtain ⟨t', generated', there', made', eq'⟩ := emit_eq_ok done'
  obtain rfl : t' = t := by
    rw [twin.traversal, there] at there'
    exact (Option.some.inj there').symm
  rw [twin.pins, ofStore_congr same, made] at made'
  obtain rfl := Except.ok.inj made'
  exact ⟨generated, by rw [eq], by rw [eq']⟩

/-- **Runs in step** yield the same tables: from compilations that are the same after the bot has
been found, over stores that have read the same in the end. -/
theorem runAll_inStep {passes : List Pass} (notFirst : Pass.load ∉ passes)
    (notLast : Pass.emit ∉ passes)
    (twin : c.Twin c')
    (done : (runAll files options (passes ++ [Pass.emit]) c).1.failure = none)
    (done' : (runAll files' options (passes ++ [Pass.emit]) c').1.failure = none)
    (alike : Alike ((runAll files options (passes ++ [Pass.emit]) c).2.upshot files)
      ((runAll files' options (passes ++ [Pass.emit]) c').2.upshot files'))
    (environment : SameEnvironment options
      (runAll files options (passes ++ [Pass.emit]) c).2.context.store
      (runAll files' options (passes ++ [Pass.emit]) c').2.context.store)
    (loaded : (runAll files' options (passes ++ [Pass.emit]) c').2.context.store.loadedPairs =
      (runAll files options (passes ++ [Pass.emit]) c).2.context.store.loadedPairs)
    (ends : c.RunEnds files options (passes ++ [Pass.emit]))
    (ends' : c'.RunEnds files' options (passes ++ [Pass.emit])) :
    ∃ generated,
      (runAll files options (passes ++ [Pass.emit]) c).2.artifacts.generated = some generated ∧
      (runAll files' options (passes ++ [Pass.emit]) c').2.artifacts.generated = some generated := by
  induction passes generalizing c c' with
  | nil =>
    obtain ⟨first, -, eq⟩ := runAll_cons_done done
    obtain ⟨first', -, eq'⟩ := runAll_cons_done done'
    dsimp only [runPass] at first first'
    have kept : ∀ (files : FileTree) (c : Compilation), (c.emit options).1 = .ok () →
        Store.loadedPairs (runAll files options []
          (finishPass (c.runPass files options .emit)).2).2.context.store =
            c.context.store.loadedPairs := by
      intro files c done
      obtain ⟨t, generated, -, -, eq⟩ := emit_eq_ok done
      show (c.emit options).2.context.store.loadedPairs = _
      rw [eq]
    rw [List.nil_append, eq, eq', kept files c first, kept files' c' first'] at loaded
    rw [List.nil_append, eq, eq']
    exact emit_inStep twin loaded first first'
  | cons pass rest ih =>
    rw [List.cons_append] at *
    rw [List.mem_cons, not_or] at notFirst notLast
    obtain ⟨first, others, eq⟩ := runAll_cons_done done
    obtain ⟨first', others', eq'⟩ := runAll_cons_done done'
    have ahead : .load ∉ rest ++ [.emit] := by simpa using notFirst.2
    have further := (finishPass_furthers files _ _).trans (runAll_furthers ahead others)
    have further' := (finishPass_furthers files' _ _).trans (runAll_furthers ahead others')
    rw [eq, eq'] at alike environment loaded
    rw [eq, eq']
    have twin₁ := runPass_inStep alike twin (Ne.symm notFirst.1) (Ne.symm notLast.1) environment
      ends.1 ends'.1 first first' further.precedes further'.precedes
    have later := ends.2
    have later' := ends'.2
    rw [first] at later
    rw [first'] at later'
    exact ih notFirst.2 notLast.2 (twin₁.finish _ _) others others' alike environment loaded later
      later'

/-! ### From an open store -/

/-- The bot is looked for first, and once. -/
theorem required_eq_cons (last : Pass) : ∃ rest, .load ∉ rest ∧ last.required = .load :: rest := by
  cases last <;> exact ⟨_, by decide, rfl⟩

/-- **A compilation whose bot has just been found**: the bot has been read, and nothing has been
resolved. -/
structure Begun (files : FileTree) (c : Compilation) (d : Descriptor) : Prop where
  artifacts : c.artifacts = { root := some d }
  faithful : c.context.store.Faithful files
  read : c.context.store.cache.get? d.key = some d
  memo : c.context.resolver.memo = .empty
  cut : c.context.resolver.cut = none

theorem begun_of_load {root : String} (opened : Store.ofDirectory files root = .ok s)
    (done : ((ofStore s).runPass files options .load).1 = .ok ()) :
    ∃ d, Begun files (finishPass ((ofStore s).runPass files options .load)).2 d := by
  obtain ⟨d, t, located, eq⟩ := load_eq_ok done
  have unread : s.cache = .empty := Store.ofDirectory_cache opened
  have fresh : (ofStore s).context.store.cache = .empty := unread
  obtain ⟨faithful, read⟩ := Store.locateBot_faithful fresh located
  dsimp only [runPass]
  generalize (ofStore s).load files options = out at eq ⊢
  obtain ⟨result, c⟩ := out
  obtain rfl := eq
  exact ⟨d, rfl, faithful.grows ((Store.takeWarnings_grows files t).trans
    (Store.takeWarnings_grows files _)), read, rfl, rfl⟩

/-- Before anything is resolved all is as quiet as the documents of the store. -/
theorem Begun.quiet (h : Begun files c d)
    (quiet : ∀ e, c.context.store.Holds files e → quietLists e.doc = true) :
    c.Quiet files c.context.store where
  context := by
    refine ⟨quiet, h.faithful, Store.Grows.refl files _, ?_⟩
    intro key r found
    rw [h.memo] at found
    cases found
  root := by
    intro e there
    rw [h.artifacts] at there
    cases there
    exact quiet d (h.faithful d.key d h.read).2
  resolved := by
    intro r there
    rw [h.artifacts] at there
    cases there

/-- A store in which the bot has been looked for. -/
def withBot (files : FileTree) (options : CompileOptions) (s : Store) : Store :=
  ((ofStore s).runPass files options .load).2.context.store

/-- **A run ends by itself** if nothing in place names sources in any document of the store in which
its bot has been found. -/
theorem runEnds_ofStore {root : String} (opened : Store.ofDirectory files root = .ok s)
    (quiet : ∀ e, (withBot files options s).Holds files e → quietLists e.doc = true) (last : Pass) :
    (ofStore s).RunEnds files options last.required := by
  obtain ⟨rest, later, eq⟩ := required_eq_cons last
  rw [eq]
  refine ⟨trivial, ?_⟩
  cases done : ((ofStore s).runPass files options .load).1 with
  | error e => trivial
  | ok _ =>
    obtain ⟨d, begun⟩ := begun_of_load opened done
    exact runEnds_of_quiet later (begun.quiet quiet)

theorem Begun.twin {place : String} (h : Begun files c d)
    (h' : Begun files' c' { d with path := place }) : c.Twin c' := by
  refine ⟨⟨?_, by rw [h.cut, h'.cut]⟩, ?_, ?_, ?_, ?_⟩
  · intro key
    rw [h.memo, h'.memo]
    exact .none
  all_goals rw [h.artifacts, h'.artifacts]
  · exact .some ⟨place, rfl⟩
  · exact .none

/-- What one compilation has left unresolved another has not read. -/
def LeavesUnread (c c' : Compilation) : Prop :=
  ∀ child reference failure, leftUnresolved child reference failure ∈ c.diagnostics →
    c'.context.store.finds reference = none

/-- **One compilation has read the same as another**, and to the same end: what is hashed agrees,
and so do the bot and what the argument for an environment leads to; and what one of them has left
unresolved the other has not read. -/
structure ReadsAs (options : CompileOptions) (c c' : Compilation) : Prop where
  loaded : c'.context.store.loadedPairs = c.context.store.loadedPairs
  root : c'.artifacts.root.map Descriptor.key = c.artifacts.root.map Descriptor.key
  environment : SameEnvironment options c.context.store c'.context.store
  there : c.LeavesUnread c'
  back : c'.LeavesUnread c

theorem LeavesUnread.mirrors (unread : c.LeavesUnread c') (handedOut : c.context.waiting = [])
    (faithful : c.context.store.Faithful files)
    (read : c.context.store.ReadIn c'.context.store) :
    Mirrors (c.upshot files) (c'.upshot files') where
  faithful := faithful
  read := read
  unresolved := by
    intro child reference failure mem
    refine unread child reference failure ?_
    rwa [upshot, told, handedOut, List.append_nil] at mem

/-- **Compilations that have read the same yield the same tables.** -/
theorem generated_eq_of_readsAs {root root' : String}
    (opened : Store.ofDirectory files root = .ok s)
    (opened' : Store.ofDirectory files' root' = .ok s')
    (done : ((ofStore s).run files options .emit).1.failure = none)
    (done' : ((ofStore s').run files' options .emit).1.failure = none)
    (ends : (ofStore s).RunEnds files options (Pass.required .emit))
    (ends' : (ofStore s').RunEnds files' options (Pass.required .emit))
    (same : ReadsAs options ((ofStore s).run files options .emit).2
      ((ofStore s').run files' options .emit).2) :
    ∃ generated,
      ((ofStore s).run files options .emit).2.artifacts.generated = some generated ∧
      ((ofStore s').run files' options .emit).2.artifacts.generated = some generated := by
  have handedOut : ((ofStore s).run files options .emit).2.context.waiting = [] :=
    (runAll_told files options _ _).handedOut (by decide)
  have handedOut' : ((ofStore s').run files' options .emit).2.context.waiting = [] :=
    (runAll_told files' options _ _).handedOut (by decide)
  have passes : Pass.required .emit =
      .load :: ([.resolve, .traverse, .filter, .allocate] ++ [.emit]) := rfl
  unfold run at *
  rw [passes] at done done' ends ends' same handedOut handedOut' ⊢
  obtain ⟨first, others, eq⟩ := runAll_cons_done done
  obtain ⟨first', others', eq'⟩ := runAll_cons_done done'
  have later := ends.2
  have later' := ends'.2
  rw [first] at later
  rw [first'] at later'
  rw [eq, eq'] at same
  rw [eq] at handedOut ⊢
  rw [eq'] at handedOut' ⊢
  obtain ⟨d, begun⟩ := begun_of_load opened first
  obtain ⟨d', begun'⟩ := begun_of_load opened' first'
  have further := runAll_furthers (by decide) others
  have further' := runAll_furthers (by decide) others'
  have faithful := begun.faithful.grows further.grown
  have faithful' := begun'.faithful.grows further'.grown
  have there : Store.ReadIn _ _ := fun h =>
    Store.readIn_of_loaded faithful faithful' same.loaded.symm h
  have back : Store.ReadIn _ _ := fun h => Store.readIn_of_loaded faithful' faithful same.loaded h
  -- the bots have been read, and under one key
  have sameKey : d'.key = d.key := by
    have roots := same.root
    rw [further.root, further'.root, begun.artifacts, begun'.artifacts] at roots
    exact Option.some.inj roots
  obtain ⟨place, read'⟩ := there (further.grown.kept begun.read)
  have held := further'.grown.kept begun'.read
  rw [sameKey, read'] at held
  obtain rfl : { d with path := place } = d' := Option.some.inj held
  exact runAll_inStep (by decide) (by decide) (begun.twin begun') others others'
    ⟨same.there.mirrors handedOut faithful there, same.back.mirrors handedOut' faithful' back⟩
    same.environment same.loaded later later'

/-! ### What the hash leaves out -/

/-- The tables of a run that succeeds are those of its traversal. -/
theorem runAll_generated {passes : List Pass}
    (done : (runAll files options (passes ++ [.emit]) c).1.failure = none) :
    let out := (runAll files options (passes ++ [.emit]) c).2
    ∃ t provenance generated, out.artifacts.traversal = some t ∧
      generateTables t out.artifacts.pins options.names provenance = .ok generated ∧
      out.artifacts.generated = some generated := by
  induction passes generalizing c with
  | nil =>
    obtain ⟨first, -, eq⟩ := runAll_cons_done done
    dsimp only [runPass] at first
    obtain ⟨t, generated, there, made, eq'⟩ := emit_eq_ok first
    rw [List.nil_append, eq]
    dsimp only [runPass]
    have kept : (runAll files options [] (finishPass (c.emit options)).2).2.artifacts =
        { c.artifacts with generated := some generated } :=
      congrArg Compilation.artifacts eq'
    rw [kept]
    exact ⟨t, _, generated, there, made, rfl⟩
  | cons pass rest ih =>
    rw [List.cons_append] at done ⊢
    obtain ⟨-, others, eq⟩ := runAll_cons_done done
    rw [eq]
    exact ih others

/-- What a run that succeeds has read, and the hit counts of its rows if they are bare. -/
def gist? (files : FileTree) (out : RunResult) :
    Option (List (String × Option String) × List Nat) :=
  match out.1.failure, out.2.artifacts.traversal with
  | none, some t =>
    if StaysInLine t.root ∧ ∀ e ∈ t.entries, IsBare e then
      some (out.2.context.store.loadedTexts files, t.entries.map (·.hitCount))
    else none
  | _, _ => none

/-- What such a run has read is what its files say. -/
theorem run_faithful {root : String} (opened : Store.ofDirectory files root = .ok s)
    (done : ((ofStore s).run files options .emit).1.failure = none) :
    ((ofStore s).run files options .emit).2.context.store.Faithful files := by
  obtain ⟨rest, later, passes⟩ := required_eq_cons .emit
  unfold run at done ⊢
  rw [passes] at done ⊢
  obtain ⟨first, others, eq⟩ := runAll_cons_done done
  obtain ⟨d, begun⟩ := begun_of_load opened first
  rw [eq]
  exact begun.faithful.grows (runAll_furthers later others).grown

theorem gist_spec {texts : List (String × Option String)} {counts : List Nat}
    (header : IsPlain options.names.header)
    (h : gist? files ((ofStore s).run files options .emit) = some (texts, counts)) :
    let out := (ofStore s).run files options .emit
    out.1.failure = none ∧
      out.2.context.store.loadedTexts files = texts ∧
      ∃ generated, out.2.artifacts.generated = some generated ∧
        numbersOf "dispatch_hit_count_table" generated.source = some counts := by
  unfold gist? at h
  split at h
  · rename_i t done there
    split at h
    · rename_i rows
      obtain ⟨rfl, rfl⟩ := Prod.mk.inj (Option.some.inj h)
      refine ⟨done, rfl, ?_⟩
      have passes : Pass.required .emit =
          [.load, .resolve, .traverse, .filter, .allocate] ++ [.emit] := rfl
      unfold run at done there ⊢
      rw [passes] at done there ⊢
      obtain ⟨t', provenance, generated, there', made, eq⟩ := runAll_generated done
      obtain rfl := Option.some.inj (there.symm.trans there')
      exact ⟨generated, eq, numbersOf_generated rows.1 header rows.2 made⟩
    · cases h
  · cases h

/-- **Two trees on which compilations disagree** although they read the same. -/
structure Disagree (options : CompileOptions) (files files' : FileTree) (s s' : Store) : Prop where
  opened : Store.ofDirectory files "/lib" = .ok s
  opened' : Store.ofDirectory files' "/lib" = .ok s'
  done : ((ofStore s).run files options .emit).1.failure = none
  done' : ((ofStore s').run files' options .emit).1.failure = none
  loaded : ((ofStore s').run files' options .emit).2.context.store.loadedPairs =
    ((ofStore s).run files options .emit).2.context.store.loadedPairs
  differ : ∃ generated generated',
    ((ofStore s).run files options .emit).2.artifacts.generated = some generated ∧
    ((ofStore s').run files' options .emit).2.artifacts.generated = some generated' ∧
    generated.source ≠ generated'.source

/-- Whether two runs have read the same texts, and counted differently. -/
def gistsDiffer : Option (List (String × Option String) × List Nat) →
    Option (List (String × Option String) × List Nat) → Bool
  | some (texts, counts), some (texts', counts') => texts == texts' && counts != counts'
  | _, _ => false

theorem disagree_of_gists (opened : Store.ofDirectory files "/lib" = .ok s)
    (opened' : Store.ofDirectory files' "/lib" = .ok s') (header : IsPlain options.names.header)
    (h : gistsDiffer (gist? files ((ofStore s).run files options .emit))
      (gist? files' ((ofStore s').run files' options .emit)) = true) :
    Disagree options files files' s s' := by
  unfold gistsDiffer at h
  split at h
  · rename_i texts counts texts' counts' first second
    rw [Bool.and_eq_true, beq_iff_eq, bne_iff_ne] at h
    obtain ⟨rfl, differ⟩ := h
    obtain ⟨done, read, generated, made, counted⟩ := gist_spec header first
    obtain ⟨done', read', generated', made', counted'⟩ := gist_spec header second
    have faithful := run_faithful opened done
    have faithful' := run_faithful opened' done'
    refine ⟨opened, opened', done, done', ?_, generated, generated', made, made', ?_⟩
    · exact Store.loadedPairs_eq_of_texts faithful' faithful (read'.trans read.symm)
    · intro same
      rw [same, counted'] at counted
      exact differ (Option.some.inj counted).symm
  · cases h

/-- A tree with a bot that builds on one template twice, the second time by the last part of its
key. -/
def clearFiles : FileTree where
  workingDirectory := []
  directories := [["lib"], ["lib", "b"]]
  files := [
    (["lib", "b", "t.json"], ("\x7b\"software\": \x7b\x7d, " ++
      "\"timing\": \x7b\"hitCount\": 1\x7d\x7d").toUTF8),
    (["lib", "bot.json"], ("\x7b\"name\": \"bot\", " ++
      "\"inherits_from\": [\"b/t\", \"u\", \"t\"]\x7d").toUTF8),
    (["lib", "u.json"], "\x7b\"timing\": \x7b\"hitCount\": 2\x7d\x7d".toUTF8)]

/-- The store of this tree. -/
def clearStore : Store :=
  [["b", "t.json"], ["bot.json"], ["u.json"]].foldl Store.addFile (.empty "/lib")

/-- The same with an empty file that the last part of the key means rather. -/
def hidingFiles : FileTree where
  workingDirectory := []
  directories := ["lib", "a"] :: clearFiles.directories
  files := (["lib", "a", "t.json"], "".toUTF8) :: clearFiles.files

/-- The store of this tree. -/
def hidingStore : Store :=
  [["a", "t.json"], ["b", "t.json"], ["bot.json"], ["u.json"]].foldl Store.addFile (.empty "/lib")

/-- Two bots that build on each other. -/
def mutualBots : List ByteArray :=
  [("\x7b\"software\": \x7b\x7d, \"timing\": \x7b\"hitCount\": 1\x7d, " ++
      "\"inherits_from\": \"lib/bot\"\x7d").toUTF8,
    ("\x7b\"software\": \x7b\x7d, \"timing\": \x7b\"hitCount\": 2\x7d, " ++
      "\"inherits_from\": \"bot\"\x7d").toUTF8]

/-- A tree of these two, the first under a name of some case. -/
def botFiles (name : String) : FileTree where
  workingDirectory := []
  directories := [["lib"], ["lib", "bots"], ["lib", "bots", "lib"]]
  files := [["lib", name], ["lib", "bots", "lib", "bot.json"]].zip mutualBots

/-- The store of this tree. -/
def botStore (name : String) : Store :=
  [[name], ["bots", "lib", "bot.json"]].foldl Store.addFile (.empty "/lib")

/-- A tree with a bot that builds on an environment, and perhaps the file of another. -/
def environmentFiles (others : List (Location × ByteArray)) : FileTree where
  workingDirectory := []
  directories := [["lib"], ["lib", "environments"]]
  files := [
    (["lib", "b.json"], "\x7b\"name\": \"b\"\x7d".toUTF8),
    (["lib", "bot.json"], ("\x7b\"name\": \"bot\", \"software\": \x7b\x7d, " ++
      "\"timing\": \x7b\"hitCount\": 2\x7d, \"components\": [\"b\"], " ++
      "\"inherits_from\": \"environments/b,x\"\x7d").toUTF8),
    (["lib", "environments", "b,x.json"],
      "\x7b\"allowed_components\": [\"bot\"]\x7d".toUTF8)] ++ others

/-- The store of this tree, with the names of the other files. -/
def environmentStore (others : List Location) : Store :=
  ([["b.json"], ["bot.json"], ["environments", "b,x.json"]] ++ others).foldl Store.addFile
    (.empty "/lib")

/-- **The hash alone does not decide the tables.**  A file that cannot be read may hide a template,
the name of a bot may lead to another descriptor of those read, and the argument for an environment
to a descriptor or to none. -/
theorem generated_differ :
    Disagree { bot := "bot" } hidingFiles clearFiles hidingStore clearStore ∧
    Disagree { bot := "/lib/bot.json" } (botFiles "bot.json") (botFiles "bot.JSON")
      (botStore "bot.json") (botStore "bot.JSON") ∧
    Disagree { bot := "bot", environment := some "b,x.json.json" }
      (environmentFiles [(["lib", "environments", "b,x.json.json"], "".toUTF8)])
      (environmentFiles []) (environmentStore [["environments", "b,x.json.json"]])
      (environmentStore []) := by
  refine ⟨?_, ?_, ?_⟩
  all_goals
    refine disagree_of_gists (Store.ofDirectory_of_ordered ["lib"] _ ?_ ?_ ?_ ?_ ?_)
      (Store.ofDirectory_of_ordered ["lib"] _ ?_ ?_ ?_ ?_ ?_) ?_ ?_
    all_goals decide +kernel

/-! ### A library that has moved -/

/-- What a run that succeeds has read, and the key of its bot, if no template is left unresolved. -/
def reading? (files : FileTree) (out : RunResult) :
    Option (List (String × Option String) × Option String) :=
  if out.1.failure.isNone ∧ out.2.diagnostics.all (·.code != some .unresolvedTemplate) then
    some (out.2.context.store.loadedTexts files, out.2.artifacts.root.map Descriptor.key)
  else none

/-- Whether two runs have read the same so. -/
def readingsAgree : Option (List (String × Option String) × Option String) →
    Option (List (String × Option String) × Option String) → Bool
  | some reading, some reading' => reading == reading'
  | _, _ => false

theorem leavesUnread_of_resolved
    (resolved : c.diagnostics.all (·.code != some .unresolvedTemplate) = true) :
    c.LeavesUnread c' := by
  intro child reference failure mem
  have other := List.all_eq_true.mp resolved _ mem
  cases other

theorem readsAs_of_readings {root root' : String} (opened : Store.ofDirectory files root = .ok s)
    (opened' : Store.ofDirectory files' root' = .ok s') (everywhere : options.environment = none)
    (h : readingsAgree (reading? files ((ofStore s).run files options .emit))
      (reading? files' ((ofStore s').run files' options .emit)) = true) :
    ((ofStore s).run files options .emit).1.failure = none ∧
      ((ofStore s').run files' options .emit).1.failure = none ∧
      ReadsAs options ((ofStore s).run files options .emit).2
        ((ofStore s').run files' options .emit).2 := by
  unfold readingsAgree at h
  split at h
  · rename_i reading reading' first second
    obtain rfl := beq_iff_eq.mp h
    unfold reading? at first second
    split at first
    · rename_i known
      split at second
      · rename_i known'
        have done := Option.isNone_iff_eq_none.mp known.1
        have done' := Option.isNone_iff_eq_none.mp known'.1
        obtain ⟨texts, bot⟩ := Prod.mk.inj (Option.some.inj (second.trans first.symm))
        refine ⟨done, done', ?_, bot, ?_, leavesUnread_of_resolved known.2,
          leavesUnread_of_resolved known'.2⟩
        · exact Store.loadedPairs_eq_of_texts (run_faithful opened' done')
            (run_faithful opened done) texts
        · intro argument asked
          rw [everywhere] at asked
          cases asked
      · cases second
    · cases first
  · cases h

theorem quiet_of_held (quiet : (s.held files).all (quietLists ·.doc) = true) :
    ∀ e, s.Holds files e → quietLists e.doc = true := fun e held =>
  List.all_eq_true.mp quiet e (Store.mem_held_iff.mpr held)

/-- The files of `clearFiles` elsewhere, and one more that is never read. -/
def movedFiles : FileTree where
  workingDirectory := []
  directories := [["srv"], ["srv", "b"], ["srv", "v"]]
  files := clearFiles.files.map (fun file => ("srv" :: file.1.tail, file.2)) ++
    [(["srv", "v", "t.json"], "".toUTF8)]

/-- The store of this tree. -/
def movedStore : Store :=
  [["b", "t.json"], ["bot.json"], ["u.json"], ["v", "t.json"]].foldl Store.addFile (.empty "/srv")

/-- A file that is never read makes no difference, nor does the place of the library. -/
theorem generated_eq_of_readsAs_moved : ∃ generated,
    ((ofStore clearStore).run clearFiles { bot := "bot" } .emit).2.artifacts.generated =
      some generated ∧
    ((ofStore movedStore).run movedFiles { bot := "bot" } .emit).2.artifacts.generated =
      some generated := by
  have opened : Store.ofDirectory clearFiles "/lib" = .ok clearStore :=
    Store.ofDirectory_of_ordered ["lib"] _ (by decide +kernel) (by decide +kernel)
      (by decide +kernel) (by decide +kernel) (by decide +kernel)
  have opened' : Store.ofDirectory movedFiles "/srv" = .ok movedStore :=
    Store.ofDirectory_of_ordered ["srv"] _ (by decide +kernel) (by decide +kernel)
      (by decide +kernel) (by decide +kernel) (by decide +kernel)
  obtain ⟨done, done', same⟩ :=
    @readsAs_of_readings _ _ { bot := "bot" } _ _ _ _ opened opened' rfl (by decide +kernel)
  have quiet : ∀ e, (withBot clearFiles { bot := "bot" } clearStore).Holds clearFiles e →
      quietLists e.doc = true := quiet_of_held (by decide +kernel)
  have quiet' : ∀ e, (withBot movedFiles { bot := "bot" } movedStore).Holds movedFiles e →
      quietLists e.doc = true := quiet_of_held (by decide +kernel)
  exact generated_eq_of_readsAs opened opened' done done' (runEnds_ofStore opened quiet _)
    (runEnds_ofStore opened' quiet' _) same

end Compilation

end DispatchTables
