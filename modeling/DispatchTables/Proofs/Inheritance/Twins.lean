import DispatchTables.Proofs.Inheritance.Alone
import DispatchTables.Proofs.Inheritance.Frame
import DispatchTables.Proofs.Inheritance.Warnings
import DispatchTables.Proofs.Store.Agreement
import Mathlib.Data.Option.Basic

/-!
# Resolving on two runs

Two runs over different files are followed side by side.  What each of them reads is in the store
that it ends with, for stores only grow; so if these stores have read the same, the runs read the
same at every step, as long as both read at all.  That only one of them does is ruled out by what
they report: a source that cannot be had is left unresolved with a warning.

## Main Definitions

* `Upshot`: what has come of a run; `Precedes`: a context from earlier in it.
* `Onward`: what a context becomes.
* `Alike`: two upshots that have read the same.
* `Resolved.Twin`, `Context.Twin`: the same on two runs, but for the files it is from.
* `InStep`: two steps that do the same to twins.
* `Context.Ends`: resolving ends by itself, and not at the bound on nesting.

## Main Statements

* `resolveAt_onward`: resolving goes onward.
* `resolveAt_inStep`, `resolve_inStep`: resolvers of two runs go in step.
-/

namespace DispatchTables

/-! ### Runs seen from their end -/

/-- What has come of a run: its files, the store with all that has been read, and all that has been
told. -/
structure Upshot where
  files : FileTree
  store : Store
  told : List Diagnostic

variable {files : FileTree} {o o' : Upshot} {c c' c'' : Context} {d d' : Descriptor}
  {key reference : String}

/-- **A context from earlier in a run**: all that has been read by then, and all that waits to be
told, is there in the end. -/
structure Precedes (o : Upshot) (c : Context) : Prop where
  index : c.store.index = o.store.index
  read : ∀ {key d}, c.store.cache.get? key = some d → o.store.cache.get? key = some d
  told : ∀ w ∈ c.waiting, w ∈ o.told

/-- **What a context becomes**: files are read, and what waits still waits. -/
structure Onward (files : FileTree) (c c' : Context) : Prop where
  grown : Store.Grows files c.store c'.store
  waits : ∀ w ∈ c.waiting, w ∈ c'.waiting

theorem Onward.refl (files : FileTree) (c : Context) : Onward files c c :=
  ⟨Store.Grows.refl files _, fun _ mem => mem⟩

theorem Onward.trans (h : Onward files c c') (h' : Onward files c' c'') : Onward files c c'' :=
  ⟨h.grown.trans h'.grown, fun w mem => h'.waits w (h.waits w mem)⟩

theorem Precedes.of_onward (h : Precedes o c') (onward : Onward files c c') : Precedes o c where
  index := by rw [← h.index, onward.grown.index]
  read := fun found => h.read (onward.grown.kept found)
  told := fun w mem => h.told w (onward.waits w mem)

theorem Queues.waits {ws : List Diagnostic} (h : Queues c ws c') :
    ∀ w ∈ c.waiting, w ∈ c'.waiting := fun _ mem => h.mem_iff.mpr (List.mem_append_left ws mem)

theorem loadForResolver_grows (files : FileTree) (c : Context) (reference : String) :
    Store.Grows files c.store (c.loadForResolver files reference).2.store := by
  have grown := Store.load_grows files c.store reference
  unfold Context.loadForResolver
  generalize c.store.load files reference = out at grown
  exact grown.trans (Store.takeWarnings_grows files _)

/-- Whatever the resolver does goes onward. -/
theorem onward_keeps (files : FileTree) (c : Context) :
    ResolverKeeps files (fun _ => True) (fun _ => True) (Onward files c) where
  down := fun _ _ => trivial
  found := fun _ _ _ _ => trivial
  load := fun reference h => h.trans
    ⟨loadForResolver_grows files _ reference, (queues_loadForResolver files _ reference).waits⟩
  warn := fun _ _ h => h.trans ⟨Store.Grows.refl files _, (queues_warnResolver _ _).waits⟩
  cut := fun _ _ _ h => ⟨h.grown, h.waits⟩
  uncut := fun h => ⟨h.grown, h.waits⟩
  memo := fun _ _ _ h => ⟨h.grown, h.waits⟩

theorem resolveAt_onward (files : FileTree) (nesting budget : Nat) (path : List String)
    (d : Descriptor) (c : Context) : Onward files c (resolveAt files nesting budget path d c).2 :=
  resolveAt_keeps (onward_keeps files c) nesting budget path d c trivial trivial (.refl files c)

theorem absorb_onward (files : FileTree) (c : Context) : Onward files c c.absorb :=
  ⟨Store.takeWarnings_grows files _, (queues_absorb c).waits⟩

theorem resolve_onward (files : FileTree) (c : Context) (d : Descriptor) :
    Onward files c (c.resolve files d).2 :=
  (resolveAt_onward files c.nestingBound (c.store.size + 1) [] d c).trans (absorb_onward files _)

/-- A resolver of parents that goes onward. -/
def ParentResolver.GoesOn (files : FileTree) (resolve : ParentResolver) : Prop :=
  ∀ path d c, Onward files c (resolve path d c).2

theorem ParentResolver.GoesOn.keeps {resolve : ParentResolver} (h : resolve.GoesOn files)
    (c : Context) : resolve.Keeps (fun _ => True) (fun _ => True) (Onward files c) :=
  fun path d c' _ _ onward => onward.trans (h path d c')

/-! ### Upshots that have read the same -/

/-- What has been read on one run has been read on another, and what was left unresolved there has
not. -/
structure Mirrors (o o' : Upshot) : Prop where
  faithful : o.store.Faithful o.files
  read : o.store.ReadIn o'.store
  unresolved : ∀ child reference failure, leftUnresolved child reference failure ∈ o.told →
    o'.store.finds reference = none

/-- **Two runs that have read the same.** -/
structure Alike (o o' : Upshot) : Prop where
  there : Mirrors o o'
  back : Mirrors o' o

theorem Alike.symm (h : Alike o o') : Alike o' o := ⟨h.back, h.there⟩

/-- What is loaded on the way is what the reference means in the end. -/
theorem Precedes.finds {s out : Store} (before : Precedes o c)
    (loaded : s.load files reference = (.ok d, out)) (index : out.index = c.store.index)
    (cache : out.cache = c.store.cache) : o.store.finds reference = some d := by
  obtain ⟨key, meant, read⟩ := Store.load_snd_get? loaded
  have grown := Store.load_grows files s reference
  rw [loaded] at grown
  have same : s.index = o.store.index := by rw [← before.index, ← index, grown.index]
  rw [Store.resolveKey_fst_congr same] at meant
  simp only [Store.finds, meant]
  exact before.read (cache ▸ read)

/-- **What both runs have found is the same.** -/
theorem Alike.found (alike : Alike o o') (h : o.store.finds reference = some d)
    (h' : o'.store.finds reference = some d') : ∃ place, d' = { d with path := place } := by
  unfold Store.finds at h h'
  cases meant : (o.store.resolveKey reference).1 with
  | error e =>
    rw [meant] at h
    cases h
  | ok key =>
    cases meant' : (o'.store.resolveKey reference).1 with
    | error e =>
      rw [meant'] at h'
      cases h'
    | ok key' =>
      simp only [meant] at h
      simp only [meant'] at h'
      obtain ⟨place, there⟩ := alike.there.read h
      obtain ⟨_, back⟩ := alike.back.read h'
      obtain rfl := Store.resolveKey_unique meant meant' (alike.back.faithful.mem_keys there)
        (alike.there.faithful.mem_keys back)
      exact ⟨place, Option.some.inj (h'.symm.trans there)⟩

theorem Alike.mem_keys (alike : Alike o o') (h : o.store.finds reference = some d) :
    d.key ∈ o.store.keys := by
  unfold Store.finds at h
  split at h
  · obtain ⟨rfl, held⟩ := alike.there.faithful _ _ h
    exact held.mem_keys
  · cases h

/-! ### Twins -/

/-- The same document on two runs, perhaps from different files. -/
def Resolved.Twin (r r' : Resolved) : Prop := ∃ place, r' = { r with path := place }

/-- **The same context on two runs**, as far as the resolver goes: the same is remembered, and the
same cut is open. -/
structure Context.Twin (c c' : Context) : Prop where
  memo : ∀ key, Option.Rel Resolved.Twin (c.resolver.memo.get? key) (c'.resolver.memo.get? key)
  cut : c'.resolver.cut = c.resolver.cut

theorem Context.Twin.congr {c₁ c₁' : Context} (h : c.Twin c') (same : SameMemory c c₁)
    (same' : SameMemory c' c₁') : c₁.Twin c₁' where
  memo := by
    rw [same.memo, same'.memo]
    exact h.memo
  cut := by rw [same'.cut, same.cut, h.cut]

theorem Context.Twin.warn (h : c.Twin c') (w w' : Diagnostic) :
    (c.warnResolver w).Twin (c'.warnResolver w') := ⟨h.memo, h.cut⟩

theorem Context.Twin.absorb (h : c.Twin c') : c.absorb.Twin c'.absorb := ⟨h.memo, h.cut⟩

theorem Context.Twin.noteCut (h : c.Twin c') (place : Nat) :
    (c.noteCut place).Twin (c'.noteCut place) where
  memo := h.memo
  cut := by simp only [Context.noteCut, h.cut]

theorem Context.Twin.remember (h : c.Twin c') (depth : Nat) {r r' : Resolved} (twin : r.Twin r') :
    (c.remember depth r).Twin (c'.remember depth r') := by
  obtain ⟨place, rfl⟩ := twin
  have inserted : ∀ key, Option.Rel Resolved.Twin ((c.resolver.memo.insert r.key r).get? key)
      ((c'.resolver.memo.insert r.key { r with path := place }).get? key) := by
    intro key
    rw [KeyMap.get?_insert, KeyMap.get?_insert]
    split
    · exact .some ⟨place, rfl⟩
    · exact h.memo key
  unfold Context.remember
  rw [h.cut]
  cases open_ : c.resolver.cut with
  | none => exact ⟨inserted, h.cut⟩
  | some cut =>
    dsimp only
    split
    · exact h
    · split
      · exact ⟨h.memo, rfl⟩
      · exact ⟨inserted, h.cut⟩

/-- **Two steps are in step**: from twins, and to contexts from which the runs end alike, they give
the same and leave twins. -/
def InStep {α : Type} (o o' : Upshot) (same : α → α → Prop) (f f' : Context → α × Context) :
    Prop :=
  ∀ {c c'}, c.Twin c' → Precedes o (f c).2 → Precedes o' (f' c').2 →
    same (f c).1 (f' c').1 ∧ (f c).2.Twin (f' c').2

/-! ### Sources -/

variable {resolve resolve' : ParentResolver} {path : List String}

/-- Resolvers of parents go in step for whatever has been read and is not on a path, which may go on
from the one given. -/
def Parents (o o' : Upshot) (above : List String) (resolve resolve' : ParentResolver) : Prop :=
  ∀ more d place, d.key ∈ o.store.keys → d.key ∈ o'.store.keys → d.key ∉ above ++ more →
    InStep o o' Resolved.Twin (resolve (above ++ more) d)
      (resolve' (above ++ more) { d with path := place })

theorem Parents.here (h : Parents o o' path resolve resolve') (mem : d.key ∈ o.store.keys)
    (mem' : d.key ∈ o'.store.keys) (offPath : d.key ∉ path) (place : String) :
    InStep o o' Resolved.Twin (resolve path d) (resolve' path { d with path := place }) := by
  intro c c'
  have step := @h [] d place mem mem' (by rwa [List.append_nil]) c c'
  rwa [List.append_nil] at step

theorem Parents.below (h : Parents o o' path resolve resolve') (more : List String) :
    Parents o o' (path ++ more) resolve resolve' := by
  intro further d place mem mem' offPath
  rw [List.append_assoc] at offPath ⊢
  exact h (more ++ further) d place mem mem' offPath

/-- What becomes of a source that has been loaded, or could not be. -/
def sourceOf (resolve : ParentResolver) (path : List String) (child reference : String) :
    Except Failure Descriptor → Context → Option Resolved × Context
  | .ok parent, c =>
    match path.idxOf? parent.key with
    | some place =>
      (none, (c.noteCut place).warnResolver (cycleSkipped path child parent.key))
    | none => (some (resolve path parent c).1, (resolve path parent c).2)
  | .error e, c => (none, c.warnResolver (leftUnresolved child reference e))

theorem resolveParent_eq (files : FileTree) (resolve : ParentResolver) (path : List String)
    (child reference : String) (c : Context) :
    resolveParent files resolve path child reference c =
      sourceOf resolve path child reference (c.loadForResolver files reference).1
        (c.loadForResolver files reference).2 := by
  unfold resolveParent sourceOf
  generalize c.loadForResolver files reference = out
  obtain ⟨found, c₁⟩ := out
  cases found with
  | error e => rfl
  | ok parent =>
    dsimp only
    cases path.idxOf? parent.key <;> rfl

theorem sourceOf_onward (on : resolve.GoesOn files) (path : List String)
    (child reference : String) (found : Except Failure Descriptor) (c : Context) :
    Onward files c (sourceOf resolve path child reference found c).2 := by
  have warns : ∀ {c' : Context} w, Onward files c c' → Onward files c (c'.warnResolver w) :=
    fun w h => h.trans ⟨Store.Grows.refl files _, (queues_warnResolver _ w).waits⟩
  unfold sourceOf
  cases found with
  | error e => exact warns _ (.refl files c)
  | ok parent =>
    dsimp only
    cases path.idxOf? parent.key with
    | some place => exact warns _ ⟨Store.Grows.refl files _, fun _ mem => mem⟩
    | none => exact on path parent c

/-- What the resolver loads is what the reference means in the end. -/
theorem Precedes.loadForResolver (before : Precedes o (c.loadForResolver o.files reference).2) :
    SameMemory c (c.loadForResolver o.files reference).2 ∧
      ∀ d, (c.loadForResolver o.files reference).1 = .ok d →
        o.store.finds reference = some d := by
  unfold Context.loadForResolver at before ⊢
  generalize read : c.store.load o.files reference = out at before ⊢
  obtain ⟨found, s⟩ := out
  refine ⟨⟨rfl, rfl⟩, ?_⟩
  intro d ok
  obtain rfl : found = .ok d := ok
  exact before.finds read rfl rfl

/-- What is left unresolved on one run is not found on the other. -/
theorem Alike.unresolved {child : String} {failure : Failure} (alike : Alike o o')
    (before : Precedes o (c.warnResolver (leftUnresolved child reference failure))) :
    o'.store.finds reference = none := by
  refine alike.there.unresolved child reference failure (before.told _ ?_)
  simp [Context.waiting, Context.warnResolver]

/-- **A source** is had on both runs or on neither. -/
theorem resolveParent_inStep (alike : Alike o o') (on : resolve.GoesOn o.files)
    (on' : resolve'.GoesOn o'.files) (parents : Parents o o' path resolve resolve')
    (child reference : String) :
    InStep o o' (Option.Rel Resolved.Twin) (resolveParent o.files resolve path child reference)
      (resolveParent o'.files resolve' path child reference) := by
  intro c c' twin before before'
  rw [resolveParent_eq] at before before' ⊢
  rw [resolveParent_eq o'.files]
  obtain ⟨memory, finds⟩ := (before.of_onward (sourceOf_onward on ..)).loadForResolver
  obtain ⟨memory', finds'⟩ := (before'.of_onward (sourceOf_onward on' ..)).loadForResolver
  generalize c.loadForResolver o.files reference = out at before memory finds ⊢
  generalize c'.loadForResolver o'.files reference = out' at before' memory' finds' ⊢
  obtain ⟨found, c₁⟩ := out
  obtain ⟨found', c₁'⟩ := out'
  have twin₁ : c₁.Twin c₁' := twin.congr memory memory'
  cases found with
  | error e =>
    cases found' with
    | error e' => exact ⟨.none, twin₁.warn _ _⟩
    | ok parent' =>
      have missing := alike.unresolved before
      rw [finds' parent' rfl] at missing
      cases missing
  | ok parent =>
    cases found' with
    | error e' =>
      have missing := alike.symm.unresolved before'
      rw [finds parent rfl] at missing
      cases missing
    | ok parent' =>
      have read := finds parent rfl
      have read' := finds' parent' rfl
      have mem' := alike.symm.mem_keys read'
      obtain ⟨place, rfl⟩ := alike.found read read'
      unfold sourceOf at before before' ⊢
      dsimp only at before before' ⊢
      cases at_ : path.idxOf? parent.key with
      | some place => exact ⟨.none, (twin₁.noteCut place).warn _ _⟩
      | none =>
        rw [at_] at before before'
        have offPath : parent.key ∉ path := List.idxOf?_eq_none_iff.mp at_
        obtain ⟨same, twin₂⟩ := parents.here (alike.mem_keys read) mem' offPath place twin₁ before
          before'
        exact ⟨.some same, twin₂⟩

/-! ### Layers -/

/-- The same layers on two runs. -/
structure Layers.Twin (layers layers' : Layers) : Prop where
  merged : layers'.merged = layers.merged
  log : layers'.log = layers.log
  context : layers.context.Twin layers'.context

theorem applySources_onward (on : resolve.GoesOn files) (path : List String) (child : String)
    (references : List String) (layers : Layers) :
    Onward files layers.context
      (applySources files resolve path child references layers).2.context :=
  applySources_keeps (onward_keeps files _) (on.keeps _) trivial child references layers
    (.refl files _)

theorem applySources_inStep (alike : Alike o o') (on : resolve.GoesOn o.files)
    (on' : resolve'.GoesOn o'.files) (parents : Parents o o' path resolve resolve')
    (child : String) (references : List String) {layers layers' : Layers}
    (twin : layers.Twin layers')
    (before : Precedes o (applySources o.files resolve path child references layers).2.context)
    (before' : Precedes o'
      (applySources o'.files resolve' path child references layers').2.context) :
    (applySources o.files resolve path child references layers).1 =
        (applySources o'.files resolve' path child references layers').1 ∧
      (applySources o.files resolve path child references layers).2.Twin
        (applySources o'.files resolve' path child references layers').2 := by
  induction references generalizing layers layers' with
  | nil => exact ⟨rfl, twin⟩
  | cons reference rest ih =>
    have step := resolveParent_inStep alike on on' parents child reference twin.context
    unfold applySources at before before' ⊢
    generalize resolveParent o.files resolve path child reference layers.context = out
      at step before ⊢
    generalize resolveParent o'.files resolve' path child reference layers'.context = out'
      at step before' ⊢
    obtain ⟨found, c₁⟩ := out
    obtain ⟨found', c₁'⟩ := out'
    have first : Precedes o c₁ := by
      cases found with
      | none =>
        exact before.of_onward
          (applySources_onward on path child rest { layers with context := c₁ })
      | some parent => exact before.of_onward (applySources_onward on path child rest ⟨_, _, c₁⟩)
    have first' : Precedes o' c₁' := by
      cases found' with
      | none =>
        exact before'.of_onward
          (applySources_onward on' path child rest { layers' with context := c₁' })
      | some parent => exact before'.of_onward (applySources_onward on' path child rest ⟨_, _, c₁'⟩)
    obtain ⟨same, twin₁⟩ := step first first'
    dsimp only at same twin₁
    cases same with
    | none =>
      have passed : Layers.Twin { layers with context := c₁ } { layers' with context := c₁' } :=
        ⟨twin.merged, twin.log, twin₁⟩
      obtain ⟨-, later⟩ := ih passed before before'
      exact ⟨rfl, later⟩
    | some copy =>
      obtain ⟨place, rfl⟩ := copy
      refine ih ⟨?_, ?_, twin₁⟩ before before'
      · rw [twin.merged]
      · rw [twin.log]

theorem applyKeys_onward (on : resolve.GoesOn files) (path : List String) (child : String)
    (keys : List String) (own : Members) (layers : Layers) :
    Onward files layers.context
      (applyKeys files resolve path child keys own layers).2.context :=
  applyKeys_keeps (onward_keeps files _) (on.keeps _) trivial child keys own layers (.refl files _)

theorem applyKeys_inStep (alike : Alike o o') (on : resolve.GoesOn o.files)
    (on' : resolve'.GoesOn o'.files) (parents : Parents o o' path resolve resolve')
    (child : String) (keys : List String) (own : Members) {layers layers' : Layers}
    (twin : layers.Twin layers')
    (before : Precedes o (applyKeys o.files resolve path child keys own layers).2.context)
    (before' : Precedes o' (applyKeys o'.files resolve' path child keys own layers').2.context) :
    (applyKeys o.files resolve path child keys own layers).1 =
        (applyKeys o'.files resolve' path child keys own layers').1 ∧
      (applyKeys o.files resolve path child keys own layers).2.Twin
        (applyKeys o'.files resolve' path child keys own layers').2 := by
  induction keys generalizing own layers layers' with
  | nil => exact ⟨rfl, twin⟩
  | cons key rest ih =>
    unfold applyKeys at before before' ⊢
    cases written : own.get? key with
    | none =>
      simp only [written] at before before' ⊢
      exact ih own twin before before'
    | some value =>
      cases named : references? value with
      | none =>
        simp only [written, named] at before before' ⊢
        exact ih own ⟨twin.merged, twin.log, twin.context.warn _ _⟩ before before'
      | some references =>
        simp only [written, named] at before before' ⊢
        have first := before.of_onward (applyKeys_onward on ..)
        have first' := before'.of_onward (applyKeys_onward on' ..)
        obtain ⟨complete, twin₁⟩ :=
          applySources_inStep alike on on' parents child references twin first first'
        rw [← complete] at before' ⊢
        exact ih _ twin₁ before before'

/-! ### Components in place -/

section InPlace

variable {one one' : String → Members → Context → Members × Context}

theorem resolveItems_onward (ones : ∀ key doc c, Onward files c (one key doc c).2)
    (parent : String) (index : Nat) (items : List Json) (c : Context) :
    Onward files c (resolveItems one parent index items c).2 :=
  resolveItems_keeps (fun key doc c' h => h.trans (ones key doc c')) parent items index
    (.refl files c)

theorem resolveItems_inStep (on : ∀ key doc c, Onward o.files c (one key doc c).2)
    (on' : ∀ key doc c, Onward o'.files c (one' key doc c).2)
    (ones : ∀ key doc, InStep o o' Eq (one key doc) (one' key doc)) (parent : String) (index : Nat)
    (items : List Json) :
    InStep o o' Eq (resolveItems one parent index items)
      (resolveItems one' parent index items) := by
  induction items generalizing index with
  | nil => exact fun twin _ _ => ⟨rfl, twin⟩
  | cons item rest ih =>
    intro c c' twin before before'
    cases item with
    | object doc =>
      unfold resolveItems at before before' ⊢
      by_cases building : inherits doc = true
      · simp only [if_pos building] at before before' ⊢
        have first := before.of_onward (resolveItems_onward on ..)
        have first' := before'.of_onward (resolveItems_onward on' ..)
        obtain ⟨same, twin₁⟩ := ones _ doc twin first first'
        obtain ⟨sameRest, twin₂⟩ := ih (index + 1) twin₁ before before'
        exact ⟨by rw [same, sameRest], twin₂⟩
      · simp only [if_neg building] at before before' ⊢
        obtain ⟨same, twin₁⟩ := ih (index + 1) twin before before'
        exact ⟨by rw [same], twin₁⟩
    | _ =>
      obtain ⟨same, twin₁⟩ := ih (index + 1) twin before before'
      exact ⟨congrArg (List.cons _) same, twin₁⟩

theorem resolveLists_onward (ones : ∀ key doc c, Onward files c (one key doc c).2)
    (parent : String) (keys : List String) (doc : Members) (c : Context) :
    Onward files c (resolveLists one parent keys doc c).2 :=
  resolveLists_keeps (fun key doc c' h => h.trans (ones key doc c')) parent keys doc
    (.refl files c)

theorem resolveLists_inStep (on : ∀ key doc c, Onward o.files c (one key doc c).2)
    (on' : ∀ key doc c, Onward o'.files c (one' key doc c).2)
    (ones : ∀ key doc, InStep o o' Eq (one key doc) (one' key doc)) (parent : String)
    (keys : List String) (doc : Members) :
    InStep o o' Eq (resolveLists one parent keys doc) (resolveLists one' parent keys doc) := by
  induction keys generalizing doc with
  | nil => exact fun twin _ _ => ⟨rfl, twin⟩
  | cons key rest ih =>
    intro c c' twin before before'
    unfold resolveLists at before before' ⊢
    cases listed : doc.get? key with
    | none =>
      simp only [listed] at before before' ⊢
      exact ih doc twin before before'
    | some value =>
      cases value with
      | array items =>
        simp only [listed] at before before' ⊢
        have first := before.of_onward (resolveLists_onward on ..)
        have first' := before'.of_onward (resolveLists_onward on' ..)
        obtain ⟨same, twin₁⟩ := resolveItems_inStep on on' ones parent 0 items twin first first'
        rw [← same] at before' ⊢
        exact ih _ twin₁ before before'
      | _ =>
        simp only [listed] at before before' ⊢
        exact ih doc twin before before'

end InPlace

/-! ### Documents -/

theorem resolveDocument_onward (on : resolve.GoesOn files) (nesting : Nat) (path : List String)
    (d : Descriptor) (c : Context) :
    Onward files c (resolveDocument files resolve nesting path d c).2 :=
  resolveDocument_keeps (onward_keeps files c) (on.keeps c) nesting d trivial (.refl files c)

/-- A document over what it builds on, by what its keys and its lists give. -/
theorem resolveDocument_eq (files : FileTree) (resolve : ParentResolver) (nesting : Nat)
    (path : List String) (d : Descriptor) (c : Context) :
    resolveDocument files resolve (nesting + 1) path d c =
      let keys := applyKeys files resolve (path ++ [d.key]) d.key inheritanceKeys d.doc
        { context := c }
      let lists := resolveLists (resolveObject files resolve nesting (path ++ [d.key]) d.path) d.key
        componentListKeys (merge keys.2.merged keys.1) keys.2.context
      (⟨d.key, d.path, d.kind, withLog lists.1 keys.2.log, keys.2.log⟩, lists.2) := rfl

/-- **A document** is laid over the same on both runs. -/
theorem resolveDocument_inStep (alike : Alike o o') (on : resolve.GoesOn o.files)
    (on' : resolve'.GoesOn o'.files) (nesting : Nat) (d : Descriptor) (place : String)
    (parents : Parents o o' (path ++ [d.key]) resolve resolve') :
    InStep o o' Resolved.Twin (resolveDocument o.files resolve nesting path d)
      (resolveDocument o'.files resolve' nesting path { d with path := place }) := by
  induction nesting generalizing path d with
  | zero =>
    intro c c' twin before before'
    unfold resolveDocument at before before' ⊢
    have layered : Layers.Twin { context := c } { context := c' } := ⟨rfl, rfl, twin⟩
    obtain ⟨own, twin₁⟩ := applyKeys_inStep alike on on' parents d.key inheritanceKeys d.doc
      layered before before'
    refine ⟨⟨place, ?_⟩, twin₁.context⟩
    simp only [twin₁.merged, twin₁.log, own]
  | succ nesting ih =>
    intro c c' twin before before'
    rw [resolveDocument_eq] at before before' ⊢
    rw [resolveDocument_eq o'.files]
    dsimp only at before before' ⊢
    have layered : Layers.Twin { context := c } { context := c' } := ⟨rfl, rfl, twin⟩
    have objects := fun key doc c => resolveDocument_onward on nesting (path ++ [d.key])
      ⟨key, d.path, Kind.detect "" doc, doc⟩ c
    have objects' := fun key doc c => resolveDocument_onward on' nesting (path ++ [d.key])
      ⟨key, place, Kind.detect "" doc, doc⟩ c
    have ones : ∀ key doc, InStep o o' Eq
        (resolveObject o.files resolve nesting (path ++ [d.key]) d.path key doc)
        (resolveObject o'.files resolve' nesting (path ++ [d.key]) place key doc) := by
      intro key doc c c' twin before before'
      obtain ⟨⟨_, same⟩, twin₁⟩ := ih ⟨key, d.path, Kind.detect "" doc, doc⟩ (parents.below [key])
        twin before before'
      exact ⟨(congrArg Resolved.doc same).symm, twin₁⟩
    have first := before.of_onward (resolveLists_onward objects ..)
    have first' := before'.of_onward (resolveLists_onward objects' ..)
    obtain ⟨own, twin₁⟩ := applyKeys_inStep alike on on' parents d.key inheritanceKeys d.doc
      layered first first'
    rw [← own, twin₁.merged] at before' ⊢
    obtain ⟨lists, twin₂⟩ := resolveLists_inStep objects objects' ones d.key componentListKeys _
      twin₁.context before before'
    refine ⟨⟨place, ?_⟩, twin₂⟩
    rw [← lists, twin₁.log]

/-! ### Descriptors -/

/-- What goes on a path leaves no more off it. -/
theorem keysLeft_append_le (s : Store) (path more : List String) :
    keysLeft s (path ++ more) ≤ keysLeft s path := by
  refine List.Sublist.length_le (List.monotone_filter_right s.keys ?_)
  intro key
  simp +contextual

theorem keysLeft_le_size (s : Store) (path : List String) : keysLeft s path ≤ s.size := by
  have counted : s.keys.length = s.size := List.length_map ..
  rw [← counted]
  exact List.length_filter_le ..

theorem remember_onward (files : FileTree) (c : Context) (depth : Nat) (r : Resolved) :
    Onward files c (c.remember depth r) :=
  (onward_keeps files c).remember depth (d := ⟨r.key, "", default, []⟩) trivial rfl (.refl files c)

theorem resolveAt_goesOn (files : FileTree) (nesting budget : Nat) :
    (resolveAt files nesting budget).GoesOn files := resolveAt_onward files nesting budget

/-- A descriptor is remembered on both runs, or its document is resolved on both. -/
theorem resolveAt_succ_inStep (alike : Alike o o') (nesting : Nat) {budget budget' : Nat}
    (d : Descriptor) (place : String)
    (parents : Parents o o' (path ++ [d.key]) (resolveAt o.files nesting budget)
      (resolveAt o'.files nesting budget')) :
    InStep o o' Resolved.Twin (resolveAt o.files nesting (budget + 1) path d)
      (resolveAt o'.files nesting (budget' + 1) path { d with path := place }) := by
  intro c c' twin before before'
  have known := twin.memo d.key
  unfold resolveAt at before before' ⊢
  dsimp only at before before' ⊢
  generalize c.resolver.memo.get? d.key = found at known before ⊢
  generalize c'.resolver.memo.get? d.key = found' at known before' ⊢
  cases known with
  | some same => exact ⟨same, twin⟩
  | none =>
    have first := before.of_onward (remember_onward o.files ..)
    have first' := before'.of_onward (remember_onward o'.files ..)
    obtain ⟨same, twin₁⟩ := resolveDocument_inStep alike
      (resolveAt_goesOn o.files nesting budget) (resolveAt_goesOn o'.files nesting budget') nesting
      d place parents twin first first'
    exact ⟨same, twin₁.remember path.length same⟩

/-- **A descriptor** is resolved to the same on both runs, with as much left on either as there are
keys off the path. -/
theorem resolveAt_inStep (alike : Alike o o') (nesting : Nat) {budget budget' : Nat}
    {path : List String} (d : Descriptor) (place : String)
    (enough : keysLeft o.store (path ++ [d.key]) ≤ budget)
    (enough' : keysLeft o'.store (path ++ [d.key]) ≤ budget') :
    InStep o o' Resolved.Twin (resolveAt o.files nesting (budget + 1) path d)
      (resolveAt o'.files nesting (budget' + 1) path { d with path := place }) := by
  induction budget generalizing budget' path d place with
  | zero =>
    refine resolveAt_succ_inStep alike nesting d place ?_
    intro more e _ mem _ offPath
    have fewer := keysLeft_lt mem offPath
    have shorter := keysLeft_append_le o.store (path ++ [d.key]) more
    omega
  | succ budget ih =>
    refine resolveAt_succ_inStep alike nesting d place ?_
    intro more e place' mem mem' offPath
    have fewer := keysLeft_lt mem offPath
    have fewer' := keysLeft_lt mem' offPath
    have shorter := keysLeft_append_le o.store (path ++ [d.key]) more
    have shorter' := keysLeft_append_le o'.store (path ++ [d.key]) more
    cases budget' with
    | zero => omega
    | succ budget' =>
      have left : keysLeft o.store (path ++ [d.key] ++ more ++ [e.key]) ≤ budget := by omega
      have left' : keysLeft o'.store (path ++ [d.key] ++ more ++ [e.key]) ≤ budget' := by omega
      exact fun {_ _} twin => ih e place' left left' twin

/-! ### What the rest of the compiler uses -/

/-- **Resolving a descriptor ends** by itself: it comes to the same with any greater bound on
nesting. -/
def Context.Ends (files : FileTree) (c : Context) (d : Descriptor) : Prop :=
  ∀ nesting, c.nestingBound ≤ nesting →
    resolveAt files nesting (c.store.size + 1) [] d c =
      resolveAt files c.nestingBound (c.store.size + 1) [] d c

theorem Precedes.size (h : Precedes o c) : c.store.size = o.store.size := by
  rw [Store.size, h.index]
  rfl

/-- **What is resolved for the rest of the compiler** is the same on both runs, if resolving
ends. -/
theorem resolve_inStep (alike : Alike o o') (twin : c.Twin c') (d : Descriptor) (place : String)
    (ends : c.Ends o.files d) (ends' : c'.Ends o'.files { d with path := place })
    (before : Precedes o (c.resolve o.files d).2)
    (before' : Precedes o' (c'.resolve o'.files { d with path := place }).2) :
    (c.resolve o.files d).1.Twin (c'.resolve o'.files { d with path := place }).1 ∧
      (c.resolve o.files d).2.Twin (c'.resolve o'.files { d with path := place }).2 := by
  have size := (before.of_onward (resolve_onward o.files c d)).size
  have size' := (before'.of_onward (resolve_onward o'.files c' _)).size
  -- the bounds differ with the number of files, so both are raised to the greater one
  have deep := ends (max c.nestingBound c'.nestingBound) (Nat.le_max_left ..)
  have deep' := ends' (max c.nestingBound c'.nestingBound) (Nat.le_max_right ..)
  unfold Context.resolve at before before' ⊢
  dsimp only at before before' ⊢
  rw [← deep] at before ⊢
  rw [← deep'] at before' ⊢
  rw [size] at before ⊢
  rw [size'] at before' ⊢
  have left : keysLeft o.store ([] ++ [d.key]) ≤ o.store.size := keysLeft_le_size ..
  have left' : keysLeft o'.store ([] ++ [d.key]) ≤ o'.store.size := keysLeft_le_size ..
  obtain ⟨same, twin₁⟩ := resolveAt_inStep alike _ d place left left' twin
    (before.of_onward (absorb_onward o.files _)) (before'.of_onward (absorb_onward o'.files _))
  exact ⟨same, twin₁.absorb⟩

/-- Resolving what a reference means ends by itself, if the reference means anything. -/
def Context.LoadEnds (files : FileTree) (c : Context) (reference : String) : Prop :=
  ∀ d s, c.store.load files reference = (.ok d, s) →
    (Context.absorb { c with store := s }).Ends files d

/-- What a reference means is loaded and then resolved. -/
theorem loadResolved_steps (files : FileTree) (c : Context) (reference : String) :
    c.loadResolved files reference = match c.store.load files reference with
      | (.error e, s) => (.error e, Context.absorb { c with store := s })
      | (.ok d, s) =>
        (.ok (Context.resolve files (Context.absorb { c with store := s }) d).1,
          (Context.resolve files (Context.absorb { c with store := s }) d).2) := by
  unfold Context.loadResolved
  generalize c.store.load files reference = out
  obtain ⟨found, s⟩ := out
  cases found <;> rfl

/-- Where nothing is loaded, nothing is resolved. -/
theorem loadResolved_memory {e : Failure} (h : c.loadResolved files reference = (.error e, c')) :
    SameMemory c c' := by
  rw [loadResolved_steps] at h
  split at h
  · cases h
    exact ⟨rfl, rfl⟩
  · cases h

theorem load_onward {s : Store} {found : Except Failure Descriptor}
    (h : c.store.load files reference = (found, s)) :
    Onward files c (Context.absorb { c with store := s }) := by
  have grown := Store.load_grows files c.store reference
  have queued := queues_load files c reference
  rw [h] at grown queued
  exact ⟨grown.trans (Store.takeWarnings_grows files s), (queued.trans (queues_absorb _)).waits⟩

theorem loadResolved_onward (files : FileTree) (c : Context) (reference : String) :
    Onward files c (c.loadResolved files reference).2 := by
  rw [loadResolved_steps]
  cases loaded : c.store.load files reference with
  | mk found s =>
    cases found with
    | error e => exact load_onward loaded
    | ok d => exact (load_onward loaded).trans (resolve_onward files _ d)

/-- What a reference means on both runs is resolved to the same. -/
theorem loadResolved_inStep {r r' : Resolved} {c₁ c₁' : Context} (alike : Alike o o')
    (twin : c.Twin c') (ends : c.LoadEnds o.files reference)
    (ends' : c'.LoadEnds o'.files reference)
    (h : c.loadResolved o.files reference = (.ok r, c₁))
    (h' : c'.loadResolved o'.files reference = (.ok r', c₁')) (before : Precedes o c₁)
    (before' : Precedes o' c₁') : r.Twin r' ∧ c₁.Twin c₁' := by
  rw [loadResolved_steps] at h h'
  cases loaded : c.store.load o.files reference with
  | mk found s =>
    cases loaded' : c'.store.load o'.files reference with
    | mk found' s' =>
      rw [loaded] at h
      rw [loaded'] at h'
      cases found with
      | error e => cases h
      | ok d =>
        cases found' with
        | error e => cases h'
        | ok d' =>
          obtain ⟨same, rfl⟩ := Prod.mk.inj h
          obtain ⟨same', rfl⟩ := Prod.mk.inj h'
          have first := before.of_onward (resolve_onward o.files _ d)
          have first' := before'.of_onward (resolve_onward o'.files _ d')
          obtain ⟨place, rfl⟩ :=
            alike.found (first.finds loaded rfl rfl) (first'.finds loaded' rfl rfl)
          have collected : (Context.absorb { c with store := s }).Twin
              (Context.absorb { c' with store := s' }) := ⟨twin.memo, twin.cut⟩
          rw [← Except.ok.inj same, ← Except.ok.inj same']
          exact resolve_inStep alike collected d place (ends d s loaded) (ends' _ s' loaded') before
            before'

/-- What is found on one run is not missing on the other. -/
theorem Alike.not_missing {e : Failure} (alike : Alike o o')
    (missing : (o.store.resolveKey reference).1 = .error e)
    (found : o'.store.finds reference = some d) : False := by
  unfold Store.finds at found
  cases meant : (o'.store.resolveKey reference).1 with
  | error e =>
    rw [meant] at found
    cases found
  | ok key =>
    simp only [meant] at found
    obtain ⟨_, there⟩ := alike.back.read found
    obtain ⟨other, known⟩ := Store.exists_resolveKey meant (alike.there.faithful.mem_keys there)
    rw [known] at missing
    cases missing

/-- A component that is found on one run is not missing on the other. -/
theorem loadResolved_not_missing {missing : String} {r : Resolved} {c₁ c₁' : Context}
    (alike : Alike o o') (h : c.loadResolved o.files reference = (.error (.notFound missing), c₁))
    (h' : c'.loadResolved o'.files reference = (.ok r, c₁')) (before : Precedes o c₁)
    (before' : Precedes o' c₁') : False := by
  rw [loadResolved_steps] at h h'
  cases loaded : c.store.load o.files reference with
  | mk found s =>
    cases loaded' : c'.store.load o'.files reference with
    | mk found' s' =>
      rw [loaded] at h
      rw [loaded'] at h'
      cases found with
      | ok d => cases h
      | error e =>
        cases found' with
        | error e => cases h'
        | ok d' =>
          obtain ⟨same, rfl⟩ := Prod.mk.inj h
          obtain ⟨-, rfl⟩ := Prod.mk.inj h'
          rw [Except.error.inj same] at loaded
          have first' := before'.of_onward (resolve_onward o'.files _ d')
          have index : o.store.index = c.store.index :=
            before.index.symm.trans (load_onward loaded).grown.index
          have unknown := Store.resolveKey_of_load_notFound (congrArg Prod.fst loaded)
          rw [← Store.resolveKey_fst_congr index] at unknown
          exact alike.not_missing unknown (first'.finds loaded' rfl rfl)

end DispatchTables
