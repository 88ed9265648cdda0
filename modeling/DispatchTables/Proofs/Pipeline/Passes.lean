import DispatchTables.Proofs.Pipeline.Reports
import DispatchTables.Proofs.Traversal.Quiet

/-!
# Passes that succeed

What a pass does when it succeeds, and what becomes of a compilation after its bot has been found:
more is read, and what has been told or waits to be told is told.  Where nothing in place names
sources, all that is resolved on the way is resolved without the bound on nesting.

## Main Definitions

* `Compilation.Furthers`: what becomes of a compilation.
* `Compilation.upshot`: what has come of a run.
* `Compilation.RunEnds`: what a run resolves is resolved without the bound on nesting.

## Main Statements

* `runAll_furthers`: a run that succeeds takes a compilation further.
* `runEnds_of_quiet`: a run over documents in which nothing in place names sources ends by itself.
-/

namespace DispatchTables

variable {files : FileTree} {options : CompileOptions} {s s' : Store} {d : Descriptor}
  {key : String}

/-! ### Loading the bot -/

theorem Store.loadKey_faithful (faithful : s.Faithful files)
    (h : s.loadKey files key = (.ok d, s')) :
    s'.Faithful files ∧ s'.cache.get? d.key = some d := by
  have grown := s.loadKey_grows files key
  rw [h] at grown
  have read := loadKey_snd_get? h
  obtain ⟨same, -⟩ := faithful.grows grown key d read
  exact ⟨faithful.grows grown, same ▸ read⟩

/-- **The bot is found** in a store that has read nothing yet, and has been read then. -/
theorem Store.locateBot_faithful {name : String} (unread : s.cache = .empty)
    (h : s.locateBot files name = (.ok d, s')) :
    s'.Faithful files ∧ s'.cache.get? d.key = some d := by
  have fresh : ∀ t : Store, t.cache = .empty → t.Faithful files := by
    intro t empty key d present
    rw [empty] at present
    cases present
  unfold locateBot at h
  split at h
  · unfold loadFile at h
    split at h
    · cases h
    · refine loadKey_faithful (fresh _ ?_) h
      exact unread
  · split at h
    · exact loadKey_faithful (fresh s unread) h
    · unfold load at h
      split at h
      · cases h
      · rename_i resolved
        have grown := s.resolveKey_grows files name
        rw [resolved] at grown
        exact loadKey_faithful ((fresh s unread).grows grown) h

/-- What is read under a key that has a file already leaves the index as it is. -/
theorem Store.grows_of_insertNew {place : String} (unread : s.cache = .empty)
    (h : loadKey files { s with index := s.index.insertNew key place } key = (.ok d, s'))
    (indexed : d.key ∈ s.keys) : Grows files s s' := by
  have fresh : Store.Faithful files { s with index := s.index.insertNew key place } := by
    intro key d present
    rw [show (Store.cache { s with index := _ }) = .empty from unread] at present
    cases present
  have grown := Store.loadKey_grows files { s with index := s.index.insertNew key place } key
  rw [h] at grown
  obtain ⟨same, -⟩ := fresh.grows grown key d (loadKey_snd_get? h)
  have known : s.index.has key = true := KeyMap.mem_keys_iff.mp (same ▸ indexed)
  rw [KeyMap.insertNew, if_pos known] at grown
  exact grown

/-- Looking for a bot that has a file leaves the index as it is. -/
theorem Store.locateBot_grows {name : String} (unread : s.cache = .empty)
    (h : s.locateBot files name = (.ok d, s')) (indexed : d.key ∈ s.keys) :
    Grows files s s' := by
  unfold locateBot at h
  split at h
  · unfold loadFile at h
    split at h
    · cases h
    · exact grows_of_insertNew unread h indexed
  · split at h
    · rename_i key _
      have grown := s.loadKey_grows files key
      rw [h] at grown
      exact grown
    · have grown := s.load_grows files name
      rw [h] at grown
      exact grown

namespace Compilation

variable {c c' : Compilation} {pass : Pass} {rest : List Pass}

/-! ### Passes that succeed -/

theorem load_eq_ok (done : (c.load files options).1 = .ok ()) :
    ∃ root s, c.context.store.locateBot files options.bot = (.ok root, s) ∧
      (c.load files options).2 = { c with
        context := Context.absorb { c.context with store := s }
        artifacts := { c.artifacts with root := some root } } := by
  unfold Compilation.load at done ⊢
  cases located : c.context.store.locateBot files options.bot with
  | mk found s =>
    simp only [located] at done ⊢
    cases found with
    | error e => cases done
    | ok root => exact ⟨root, s, rfl, rfl⟩

theorem resolve_eq_ok (done : (c.resolve files).1 = .ok ()) :
    ∃ root, c.artifacts.root = some root ∧ (c.resolve files).2 = { c with
      context := (c.context.resolve files root).2
      artifacts := { c.artifacts with resolved := some (c.context.resolve files root).1 } } := by
  unfold Compilation.resolve at done ⊢
  cases found : c.artifacts.root with
  | none =>
    rw [found] at done
    cases done
  | some root => exact ⟨root, rfl, rfl⟩

theorem traverse_eq_ok (done : (c.traverse files).1 = .ok ()) :
    ∃ root t k, c.artifacts.resolved = some root ∧
      DispatchTables.traverse files c.context root = (.ok t, k) ∧
      (c.traverse files).2 = { c with
        context := k, artifacts := { c.artifacts with traversal := some t } } := by
  unfold Compilation.traverse at done ⊢
  cases found : c.artifacts.resolved with
  | none =>
    rw [found] at done
    cases done
  | some root =>
    simp only [found] at done ⊢
    cases walked : DispatchTables.traverse files c.context root with
    | mk yielded k =>
      simp only [walked] at done ⊢
      cases yielded with
      | error e => cases done
      | ok t => exact ⟨root, t, k, rfl, walked, rfl⟩

theorem filter_eq_ok (done : (c.filter files options).1 = .ok ()) :
    options.environment = none ∧ (c.filter files options).2 = c ∨
      ∃ argument allow s t, options.environment = some argument ∧
        AllowList.load files c.context.store argument = (.ok allow, s) ∧
        c.artifacts.traversal = some t ∧
        (c.filter files options).2 = { c with
          context := Context.reportAll { c.context with store := s } (allow.warnings t)
          artifacts := { c.artifacts with traversal := some (allow.filter t) } } := by
  unfold Compilation.filter at done ⊢
  cases asked : options.environment with
  | none => exact .inl ⟨rfl, rfl⟩
  | some argument =>
    simp only [asked] at done ⊢
    cases loaded : AllowList.load files c.context.store argument with
    | mk found s =>
      simp only [loaded] at done ⊢
      cases found with
      | error e => cases done
      | ok allow =>
        cases there : c.artifacts.traversal with
        | none =>
          simp only [there] at done
          cases done
        | some t => exact .inr ⟨argument, allow, s, t, rfl, loaded, rfl, rfl⟩

theorem allocateOn_eq_ok {reference : String} {uses : List BusUse} {k k' : Context}
    {pins : PinReport} (h : allocateOn files reference uses k = (.ok pins, k')) :
    ∃ r k₁ chip, k.loadResolved files reference = (.ok r, k₁) ∧ chipOf r = .ok chip ∧
      DispatchTables.allocate chip uses = .ok pins ∧ k' = k₁.reportAll pins.warnings := by
  unfold allocateOn at h
  cases loaded : k.loadResolved files reference with
  | mk found k₁ =>
    simp only [loaded] at h
    cases found with
    | error e => cases h
    | ok r =>
      cases isChip : chipOf r with
      | error e =>
        simp only [isChip] at h
        cases h
      | ok chip =>
        simp only [isChip] at h
        cases given : DispatchTables.allocate chip uses with
        | error overrun =>
          simp only [given] at h
          cases h
        | ok report =>
          simp only [given] at h
          cases h
          exact ⟨r, k₁, chip, rfl, isChip, given, rfl⟩

theorem allocate_eq_ok (done : (c.allocate files options).1 = .ok ()) :
    ∃ t, c.artifacts.traversal = some t ∧
      (options.chip.or t.controller = none ∧
          (c.allocate files options).2 = c.report (noController t.root) ∨
        ∃ reference pins k, options.chip.or t.controller = some reference ∧
          allocateOn files reference t.busUses c.context = (.ok pins, k) ∧
          (c.allocate files options).2 = { c with
            context := k, artifacts := { c.artifacts with pins := some pins } }) := by
  unfold Compilation.allocate at done ⊢
  cases there : c.artifacts.traversal with
  | none =>
    rw [there] at done
    cases done
  | some t =>
    simp only [there] at done ⊢
    refine ⟨t, rfl, ?_⟩
    cases asked : options.chip.or t.controller with
    | none => exact .inl ⟨rfl, rfl⟩
    | some reference =>
      simp only [asked] at done ⊢
      cases given : allocateOn files reference t.busUses c.context with
      | mk found k =>
        simp only [given] at done ⊢
        cases found with
        | error e => cases done
        | ok pins => exact .inr ⟨reference, pins, k, rfl, given, rfl⟩

theorem emit_eq_ok (done : (c.emit options).1 = .ok ()) :
    ∃ t generated, c.artifacts.traversal = some t ∧
      generateTables t c.artifacts.pins options.names
        (some (Provenance.ofStore c.context.store)) = .ok generated ∧
      (c.emit options).2 = { c with
        provenance := some (Provenance.ofStore c.context.store)
        artifacts := { c.artifacts with generated := some generated } } := by
  unfold Compilation.emit at done ⊢
  cases there : c.artifacts.traversal with
  | none =>
    rw [there] at done
    cases done
  | some t =>
    simp only [there] at done ⊢
    cases made : generateTables t c.artifacts.pins options.names
        (some (Provenance.ofStore c.context.store)) with
    | error e =>
      simp only [made] at done
      cases done
    | ok generated => exact ⟨t, generated, rfl, made, rfl⟩

/-! ### Onward -/

theorem allowList_grows {argument : String} {allow : AllowList}
    (h : AllowList.load files s argument = (.ok allow, s')) : Store.Grows files s s' := by
  unfold AllowList.load at h
  cases found : s.findInDirectory AllowList.directory argument with
  | none =>
    simp only [found] at h
    cases h
    exact Store.Grows.refl files s
  | some key =>
    have grown := Store.load_grows files s key
    simp only [found] at h
    generalize s.load files key = out at grown h
    obtain ⟨loaded, s₁⟩ := out
    cases loaded with
    | error e => cases h
    | ok d =>
      cases named : AllowList.namesOf? d.doc with
      | none =>
        simp only [named] at h
        cases h
      | some names =>
        simp only [named] at h
        cases h
        exact grown

/-- **A pass that succeeds goes onward**, unless it is the first. -/
theorem runPass_onward (later : pass ≠ .load) (done : (c.runPass files options pass).1 = .ok ()) :
    Onward files c.context (c.runPass files options pass).2.context := by
  refine ⟨?_, (queues_runPass files options pass c).waits⟩
  cases pass with
  | load => exact absurd rfl later
  | resolve =>
    dsimp only [runPass] at done ⊢
    obtain ⟨root, -, eq⟩ := resolve_eq_ok done
    rw [eq]
    exact (resolve_onward files c.context root).grown
  | traverse =>
    dsimp only [runPass] at done ⊢
    obtain ⟨root, t, k, -, walked, eq⟩ := traverse_eq_ok done
    rw [eq]
    exact (traverse_onward walked).grown
  | filter =>
    dsimp only [runPass] at done ⊢
    obtain ⟨-, eq⟩ | ⟨argument, allow, s, t, -, loaded, -, eq⟩ := filter_eq_ok done
    · rw [eq]
      exact Store.Grows.refl files _
    · rw [eq]
      exact allowList_grows loaded
  | allocate =>
    dsimp only [runPass] at done ⊢
    obtain ⟨t, -, ⟨-, eq⟩ | ⟨reference, pins, k, -, given, eq⟩⟩ := allocate_eq_ok done
    · rw [eq]
      exact Store.Grows.refl files _
    · obtain ⟨r, k₁, chip, loaded, -, -, rfl⟩ := allocateOn_eq_ok given
      have grown := (loadResolved_onward files c.context reference).grown
      rw [loaded] at grown
      rw [eq]
      exact grown
  | emit =>
    dsimp only [runPass] at done ⊢
    obtain ⟨t, generated, -, -, eq⟩ := emit_eq_ok done
    rw [eq]
    exact Store.Grows.refl files _

/-- The bot is found once and for all. -/
theorem runPass_root (later : pass ≠ .load) (done : (c.runPass files options pass).1 = .ok ()) :
    (c.runPass files options pass).2.artifacts.root = c.artifacts.root := by
  cases pass with
  | load => exact absurd rfl later
  | resolve =>
    dsimp only [runPass] at done ⊢
    obtain ⟨root, -, eq⟩ := resolve_eq_ok done
    rw [eq]
  | traverse =>
    dsimp only [runPass] at done ⊢
    obtain ⟨root, t, k, -, -, eq⟩ := traverse_eq_ok done
    rw [eq]
  | filter =>
    dsimp only [runPass] at done ⊢
    obtain ⟨-, eq⟩ | ⟨argument, allow, s, t, -, -, -, eq⟩ := filter_eq_ok done <;> rw [eq]
  | allocate =>
    dsimp only [runPass] at done ⊢
    obtain ⟨t, -, ⟨-, eq⟩ | ⟨reference, pins, k, -, -, eq⟩⟩ := allocate_eq_ok done <;> rw [eq]
    rfl
  | emit =>
    dsimp only [runPass] at done ⊢
    obtain ⟨t, generated, -, -, eq⟩ := emit_eq_ok done
    rw [eq]

/-- **What becomes of a compilation** after its bot has been found: files are read, and what has
been told or waits to be told is told. -/
structure Furthers (files : FileTree) (c c' : Compilation) : Prop where
  grown : Store.Grows files c.context.store c'.context.store
  told : ∀ w ∈ c.told, w ∈ c'.told
  root : c'.artifacts.root = c.artifacts.root

theorem Furthers.trans {c'' : Compilation} (h : Furthers files c c') (h' : Furthers files c' c'') :
    Furthers files c c'' :=
  ⟨h.grown.trans h'.grown, fun w mem => h'.told w (h.told w mem), h'.root.trans h.root⟩

theorem runPass_furthers (later : pass ≠ .load)
    (done : (c.runPass files options pass).1 = .ok ()) :
    Furthers files c (c.runPass files options pass).2 := by
  have onward := runPass_onward later done
  have same := (runPass_leaves files options pass c).diagnostics
  refine ⟨onward.grown, ?_, runPass_root later done⟩
  intro w mem
  rw [told, same]
  exact (List.mem_append.mp mem).elim (List.mem_append_left _)
    fun waits => List.mem_append_right _ (onward.waits w waits)

theorem finishPass_furthers (files : FileTree) (result : Except Failure Unit) (c : Compilation) :
    Furthers files c (finishPass (result, c)).2 where
  grown := Store.takeWarnings_grows files _
  told := by
    intro w mem
    have said : w ∈ c.diagnostics ++ passDiagnostics c.context.waiting result := by
      rcases List.mem_append.mp mem with old | waits
      · exact List.mem_append_left _ old
      · refine List.mem_append_right _ ?_
        cases result with
        | ok _ => exact waits
        | error e => exact List.mem_append_left _ waits
    exact List.mem_append_left _ said
  root := rfl

/-- A run that goes well is its first pass and then the rest. -/
theorem runAll_cons_done (done : (runAll files options (pass :: rest) c).1.failure = none) :
    (c.runPass files options pass).1 = .ok () ∧
      (runAll files options rest (finishPass (c.runPass files options pass)).2).1.failure = none ∧
      (runAll files options (pass :: rest) c).2 =
        (runAll files options rest (finishPass (c.runPass files options pass)).2).2 := by
  cases result : (c.runPass files options pass).1 with
  | error e =>
    rw [runAll_cons_error rest result] at done
    cases done
  | ok _ =>
    have eq := runAll_cons_ok rest result
    rw [eq] at done ⊢
    exact ⟨rfl, done, rfl⟩

theorem runAll_furthers {passes : List Pass} (later : .load ∉ passes)
    (done : (runAll files options passes c).1.failure = none) :
    Furthers files c (runAll files options passes c).2 := by
  induction passes generalizing c with
  | nil => exact ⟨Store.Grows.refl files _, fun _ mem => mem, rfl⟩
  | cons pass rest ih =>
    rw [List.mem_cons, not_or] at later
    obtain ⟨first, others, eq⟩ := runAll_cons_done done
    rw [eq]
    exact ((runPass_furthers (Ne.symm later.1) first).trans (finishPass_furthers files _ _)).trans
      (ih later.2 others)

/-- What has come of a run. -/
def upshot (files : FileTree) (c : Compilation) : Upshot := ⟨files, c.context.store, c.told⟩

theorem Furthers.precedes (h : Furthers files c c') : Precedes (c'.upshot files) c.context where
  index := h.grown.index.symm
  read := h.grown.kept
  told := fun w mem => h.told w (List.mem_append_right _ mem)

/-! ### Ending -/

/-- What a pass resolves is resolved without the bound on nesting. -/
def PassEnds (files : FileTree) (options : CompileOptions) (pass : Pass) (c : Compilation) : Prop :=
  match pass with
  | .resolve => ∀ root, c.artifacts.root = some root → c.context.Ends files root
  | .traverse => ∀ root, c.artifacts.resolved = some root → TraverseEnds files c.context root
  | .allocate => ∀ t reference, c.artifacts.traversal = some t →
      options.chip.or t.controller = some reference → c.context.LoadEnds files reference
  | _ => True

/-- **What a run resolves** is resolved without the bound on nesting, up to the first pass that
fails. -/
def RunEnds (files : FileTree) (options : CompileOptions) : List Pass → Compilation → Prop
  | [], _ => True
  | pass :: rest, c =>
    c.PassEnds files options pass ∧
      match (c.runPass files options pass).1 with
      | .error _ => True
      | .ok () => RunEnds files options rest (finishPass (c.runPass files options pass)).2

/-- What has been read and resolved of a compilation is quiet. -/
structure Quiet (files : FileTree) (s : Store) (c : Compilation) : Prop where
  context : c.context.Quiet files s
  root : ∀ d, c.artifacts.root = some d → quietLists d.doc = true
  resolved : ∀ r, c.artifacts.resolved = some r → quietLists r.doc = true

theorem Quiet.finish (h : c.Quiet files s) (result : Except Failure Unit) :
    (finishPass (result, c)).2.Quiet files s :=
  ⟨h.context.congr (Store.takeWarnings_grows files _) rfl, h.root, h.resolved⟩

theorem passEnds_of_quiet (h : c.Quiet files s) : c.PassEnds files options pass := by
  cases pass with
  | resolve => exact fun root there => (h.context.ends (h.root root there)).1
  | traverse => exact fun root there => traverseEnds_of_quiet h.context (h.resolved root there)
  | allocate => exact fun t reference _ _ => h.context.loadEnds reference
  | _ => trivial

/-- **A pass over quiet documents** leaves a quiet compilation. -/
theorem runPass_quiet (later : pass ≠ .load) (h : c.Quiet files s)
    (done : (c.runPass files options pass).1 = .ok ()) :
    (c.runPass files options pass).2.Quiet files s := by
  cases pass with
  | load => exact absurd rfl later
  | resolve =>
    dsimp only [runPass] at done ⊢
    obtain ⟨root, there, eq⟩ := resolve_eq_ok done
    obtain ⟨-, inner, after⟩ := h.context.ends (h.root root there)
    rw [eq]
    refine ⟨after, h.root, ?_⟩
    rintro r ⟨⟩
    exact inner
  | traverse =>
    dsimp only [runPass] at done ⊢
    obtain ⟨root, t, k, there, walked, eq⟩ := traverse_eq_ok done
    rw [eq]
    exact ⟨traverse_quiet h.context (h.resolved root there) walked, h.root, h.resolved⟩
  | filter =>
    dsimp only [runPass] at done ⊢
    obtain ⟨-, eq⟩ | ⟨argument, allow, s', t, -, loaded, -, eq⟩ := filter_eq_ok done
    · rw [eq]
      exact h
    · rw [eq]
      exact ⟨h.context.congr (allowList_grows loaded) rfl, h.root, h.resolved⟩
  | allocate =>
    dsimp only [runPass] at done ⊢
    obtain ⟨t, -, ⟨-, eq⟩ | ⟨reference, pins, k, -, given, eq⟩⟩ := allocate_eq_ok done
    · rw [eq]
      exact ⟨h.context.congr (Store.Grows.refl files _) rfl, h.root, h.resolved⟩
    · obtain ⟨r, k₁, chip, loaded, -, -, rfl⟩ := allocateOn_eq_ok given
      have after := (h.context.loadResolved reference).1
      rw [loaded] at after
      rw [eq]
      exact ⟨after.congr (Store.Grows.refl files _) rfl, h.root, h.resolved⟩
  | emit =>
    dsimp only [runPass] at done ⊢
    obtain ⟨t, generated, -, -, eq⟩ := emit_eq_ok done
    rw [eq]
    exact ⟨h.context, h.root, h.resolved⟩

/-- **A run over quiet documents ends by itself.** -/
theorem runEnds_of_quiet {passes : List Pass} (later : .load ∉ passes) (h : c.Quiet files s) :
    c.RunEnds files options passes := by
  induction passes generalizing c with
  | nil => trivial
  | cons pass rest ih =>
    rw [List.mem_cons, not_or] at later
    refine ⟨passEnds_of_quiet h, ?_⟩
    cases done : (c.runPass files options pass).1 with
    | error e => trivial
    | ok _ => exact ih later.2 ((runPass_quiet (Ne.symm later.1) h done).finish _)

end Compilation

end DispatchTables
