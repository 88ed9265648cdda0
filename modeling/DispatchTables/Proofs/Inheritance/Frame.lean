import DispatchTables.Inheritance.Resolver
import DispatchTables.Proofs.Store.Growth

/-!
# What resolving leaves alone

Whatever is resolved, and however deep, the resolver does four things to a context: it loads, it
warns, it notes cuts and it remembers.  A property that these keep is kept by resolving; so nothing
about its recursion has to be said twice.  What is remembered has been loaded, and cuts go back to
something loaded that is on the path, so a property may rest on what is loaded and on where the path
begins.

## Main Definitions

* `ResolverKeeps`: a property that the four things keep, given what holds of the path and of what is
  loaded.
* `Resolving`: the index is the same, only files have been read, and only warnings of a few kinds
  wait to be reported.
* `Settled`: nothing waits to be reported; `Keyed`: what is remembered is under its own key.
* `Extends`: what a context is after something has been loaded and resolved.

## Main Statements

* `resolveAt_keeps`: the resolver keeps what the four things keep.
* `resolve_extends`: resolving extends a context.
* `InUse.keyed`: in every context in use, what is remembered is under its own key.
-/

namespace DispatchTables

variable {files : FileTree} {Q : List String → Prop} {L : Descriptor → Prop} {P : Context → Prop}
  {c c' : Context}

/-- The codes of what the resolver warns of. -/
def resolverCodes : List Code := [.unresolvedTemplate, .inheritanceCycle, .malformedInheritance]

/-- A property `P` of contexts that is kept by everything the resolver does to one, where `Q` holds
of the path, whatever is put on it, and `L` of all that is loaded. -/
structure ResolverKeeps (files : FileTree) (Q : List String → Prop) (L : Descriptor → Prop)
    (P : Context → Prop) : Prop where
  down : ∀ {path} key, Q path → Q (path ++ [key])
  load : ∀ {c} reference, P c → P (c.loadForResolver files reference).2
  found : ∀ {c} reference d, P c → (c.loadForResolver files reference).1 = .ok d → L d
  warn : ∀ {c} {w : Diagnostic} {code}, w.code = some code → code ∈ resolverCodes → P c →
    P (c.warnResolver w)
  cut : ∀ {c path d place}, Q path → L d → path.idxOf? d.key = some place → P c →
    P (c.noteCut place)
  uncut : ∀ {c}, P c → P { c with resolver := { c.resolver with cut := none } }
  memo : ∀ {c d} (r : Resolved), L d → r.key = d.key → P c →
    P { c with resolver := { c.resolver with memo := c.resolver.memo.insert r.key r } }

/-- A resolver of parents that keeps a property. -/
def ParentResolver.Keeps (Q : List String → Prop) (L : Descriptor → Prop) (P : Context → Prop)
    (resolve : ParentResolver) : Prop :=
  ∀ path d c, Q path → L d → P c → P (resolve path d c).2

variable {resolve : ParentResolver} {path : List String}

theorem resolveParent_keeps (keeps : ResolverKeeps files Q L P) (parents : resolve.Keeps Q L P)
    (onPath : Q path) (child reference : String) (h : P c) :
    P (resolveParent files resolve path child reference c).2 := by
  have loaded := keeps.load reference h
  have found := fun d => keeps.found reference d h
  unfold resolveParent
  generalize c.loadForResolver files reference = out at loaded found
  obtain ⟨found', c₁⟩ := out
  dsimp only at loaded found
  cases found' with
  | error e => exact keeps.warn rfl (by decide) loaded
  | ok parent =>
    dsimp only
    split
    · rename_i place at_
      exact keeps.warn rfl (by decide) (keeps.cut onPath (found parent rfl) at_ loaded)
    · exact parents path parent c₁ onPath (found parent rfl) loaded

theorem applySources_keeps (keeps : ResolverKeeps files Q L P) (parents : resolve.Keeps Q L P)
    (onPath : Q path) (child : String) (references : List String) (layers : Layers)
    (h : P layers.context) :
    P (applySources files resolve path child references layers).2.context := by
  induction references generalizing layers with
  | nil => exact h
  | cons reference rest ih =>
    have first := resolveParent_keeps keeps parents onPath child reference h
    unfold applySources
    generalize resolveParent files resolve path child reference layers.context = out at first
    obtain ⟨found, c₁⟩ := out
    cases found with
    | none => exact ih { layers with context := c₁ } first
    | some parent => exact ih _ first

theorem applyKeys_keeps (keeps : ResolverKeeps files Q L P) (parents : resolve.Keeps Q L P)
    (onPath : Q path) (child : String) (keys : List String) (own : Members) (layers : Layers)
    (h : P layers.context) :
    P (applyKeys files resolve path child keys own layers).2.context := by
  induction keys generalizing own layers with
  | nil => exact h
  | cons key rest ih =>
    unfold applyKeys
    cases own.get? key with
    | none => exact ih own layers h
    | some value =>
      dsimp only
      cases references? value with
      | none => exact ih own _ (keeps.warn rfl (by decide) h)
      | some references =>
        exact ih _ _ (applySources_keeps keeps parents onPath child references layers h)

theorem resolveItems_keeps {one : String → Members → Context → Members × Context}
    (ones : ∀ key doc c, P c → P (one key doc c).2) (parent : String) (items : List Json)
    (index : Nat) (h : P c) : P (resolveItems one parent index items c).2 := by
  induction items generalizing index c with
  | nil => exact h
  | cons item rest ih =>
    cases item with
    | object doc =>
      unfold resolveItems
      split
      · exact ih _ (ones _ doc c h)
      · exact ih _ h
    | _ => exact ih _ h

theorem resolveLists_keeps {one : String → Members → Context → Members × Context}
    (ones : ∀ key doc c, P c → P (one key doc c).2) (parent : String) (keys : List String)
    (doc : Members) (h : P c) : P (resolveLists one parent keys doc c).2 := by
  induction keys generalizing doc c with
  | nil => exact h
  | cons key rest ih =>
    unfold resolveLists
    split
    · exact ih _ (resolveItems_keeps ones parent _ 0 h)
    · exact ih _ h

theorem resolveDocument_keeps (keeps : ResolverKeeps files Q L P) (parents : resolve.Keeps Q L P)
    (nesting : Nat) (d : Descriptor) (onPath : Q (path ++ [d.key])) (h : P c) :
    P (resolveDocument files resolve nesting path d c).2 := by
  induction nesting generalizing path d c with
  | zero =>
    unfold resolveDocument
    exact applyKeys_keeps keeps parents onPath _ _ _ { context := c } h
  | succ nesting ih =>
    unfold resolveDocument
    dsimp only
    refine resolveLists_keeps ?_ _ _ _
      (applyKeys_keeps keeps parents onPath _ _ _ { context := c } h)
    intro key doc c h
    exact ih _ (keeps.down _ onPath) h

theorem ResolverKeeps.remember (keeps : ResolverKeeps files Q L P) (depth : Nat) {d : Descriptor}
    {r : Resolved} (loaded : L d) (same : r.key = d.key) (h : P c) : P (c.remember depth r) := by
  unfold Context.remember
  split
  · split
    · exact h
    · split
      · exact keeps.uncut h
      · exact keeps.memo r loaded same h
  · exact keeps.memo r loaded same h

theorem resolveDocument_key (nesting : Nat) (path : List String) (d : Descriptor) :
    (resolveDocument files resolve nesting path d c).1.key = d.key := by
  cases nesting <;> rfl

/-- **The resolver keeps** what loading, warning, cutting and remembering keep. -/
theorem resolveAt_keeps (keeps : ResolverKeeps files Q L P) (nesting budget : Nat) :
    (resolveAt files nesting budget).Keeps Q L P := by
  induction budget with
  | zero => exact fun _ _ _ _ _ h => h
  | succ budget ih =>
    intro path d c onPath loaded h
    unfold resolveAt
    split
    · exact h
    · exact keeps.remember _ loaded (resolveDocument_key nesting path d)
        (resolveDocument_keeps keeps ih nesting d (keeps.down _ onPath) h)

/-! ### Between steps -/

/-- The codes of what loading and resolving warn of. -/
def loadingCodes : List Code := .ambiguousReference :: resolverCodes

/-- A diagnostic is a warning that loading and resolving give. -/
def Diagnostic.IsLoading (w : Diagnostic) : Prop := ∃ code ∈ loadingCodes, w.code = some code

/-- What a context is while something is loaded or resolved: files have been read, and the warnings
that have come up wait. -/
structure Resolving (files : FileTree) (c c' : Context) : Prop where
  grown : Store.Grows files c.store c'.store
  unreported : c'.diagnostics = c.diagnostics
  waiting : ∀ w ∈ c'.store.warnings ++ c'.resolver.warnings, w.IsLoading

/-- Nothing waits to be reported. -/
structure Settled (c : Context) : Prop where
  store : c.store.warnings = []
  resolver : c.resolver.warnings = []

/-- **What a context is after loading and resolving**: files have been read, and warnings of
loading and resolving have been reported. -/
structure Extends (files : FileTree) (c c' : Context) : Prop where
  grown : Store.Grows files c.store c'.store
  settled : Settled c'
  reported : ∃ more, c'.diagnostics = c.diagnostics ++ more ∧ ∀ w ∈ more, w.IsLoading

theorem settled_absorb (c : Context) : Settled c.absorb := ⟨rfl, rfl⟩

theorem Settled.resolving (h : Settled c) : Resolving files c c where
  grown := Store.Grows.refl files _
  unreported := rfl
  waiting := by simp [h.store, h.resolver]

/-- What waits is reported in the end. -/
theorem Resolving.absorb (h : Resolving files c c') : Extends files c c'.absorb where
  grown := h.grown.trans (Store.takeWarnings_grows files _)
  settled := settled_absorb c'
  reported := by
    refine ⟨c'.store.warnings ++ c'.resolver.warnings, ?_, h.waiting⟩
    rw [← List.append_assoc, ← h.unreported]
    rfl

theorem Extends.trans {c'' : Context} (h₁ : Extends files c c') (h₂ : Extends files c' c'') :
    Extends files c c'' where
  grown := h₁.grown.trans h₂.grown
  settled := h₂.settled
  reported := by
    obtain ⟨more, eq, loading⟩ := h₁.reported
    obtain ⟨later, eq', loading'⟩ := h₂.reported
    refine ⟨more ++ later, by rw [eq', eq, List.append_assoc], ?_⟩
    intro w mem
    exact (List.mem_append.mp mem).elim (loading w) (loading' w)

theorem Settled.extends (h : Settled c) : Extends files c c :=
  ⟨Store.Grows.refl files _, h, [], by simp, by simp⟩

theorem resolveKey_warnings (s : Store) (reference : String) :
    ∀ w ∈ (s.resolveKey reference).2.warnings, w ∈ s.warnings ∨ w.IsLoading := by
  intro w mem
  unfold Store.resolveKey at mem
  split at mem
  · unfold Store.reportAmbiguity at mem
    dsimp only at mem
    split at mem
    · exact .inl mem
    · rcases List.mem_append.mp mem with old | new
      · exact .inl old
      · refine .inr ⟨.ambiguousReference, by decide, ?_⟩
        rw [List.mem_singleton.mp new]
        rfl
  · exact .inl mem

theorem loadKey_warnings (s : Store) (key : String) :
    (s.loadKey files key).2.warnings = s.warnings := by
  unfold Store.loadKey
  split
  · rfl
  · split
    · rfl
    · split <;> rfl

theorem load_warnings (files : FileTree) (s : Store) (reference : String) :
    ∀ w ∈ (s.load files reference).2.warnings, w ∈ s.warnings ∨ w.IsLoading := by
  have found := resolveKey_warnings s reference
  unfold Store.load
  split
  · rename_i failed
    rwa [failed] at found
  · rename_i resolved
    rw [resolved] at found
    rwa [loadKey_warnings]

/-- The resolver reads files and gives warnings of its own, and nothing else that shows. -/
theorem resolving_keeps (files : FileTree) (c : Context) :
    ResolverKeeps files (fun _ => True) (fun _ => True) (Resolving files c) where
  down := fun _ _ => trivial
  found := fun _ _ _ _ => trivial
  load := by
    intro c' reference h
    have grown := Store.load_grows files c'.store reference
    have warned := load_warnings files c'.store reference
    unfold Context.loadForResolver
    generalize c'.store.load files reference = out at grown warned
    refine ⟨h.grown.trans (grown.trans (Store.takeWarnings_grows files _)), h.unreported, ?_⟩
    intro w mem
    have waits : w ∈ c'.resolver.warnings ++ out.2.warnings := mem
    rcases List.mem_append.mp waits with old | new
    · exact h.waiting w (List.mem_append_right _ old)
    · rcases warned w new with old | loading
      · exact h.waiting w (List.mem_append_left _ old)
      · exact loading
  warn := by
    intro c' w code has mem h
    refine ⟨h.grown, h.unreported, ?_⟩
    intro other waits
    rcases List.mem_append.mp waits with store | resolver
    · exact h.waiting other (List.mem_append_left _ store)
    · rcases List.mem_append.mp resolver with old | new
      · exact h.waiting other (List.mem_append_right _ old)
      · rw [List.mem_singleton.mp new]
        exact ⟨code, List.mem_cons_of_mem _ mem, has⟩
  cut := fun _ _ _ h => ⟨h.grown, h.unreported, h.waiting⟩
  uncut := fun h => ⟨h.grown, h.unreported, h.waiting⟩
  memo := fun _ _ _ h => ⟨h.grown, h.unreported, h.waiting⟩

theorem resolve_settled (files : FileTree) (c : Context) (d : Descriptor) :
    Settled (c.resolve files d).2 := by
  unfold Context.resolve
  generalize resolveAt files c.nestingBound (c.store.size + 1) [] d c = out
  exact settled_absorb out.2

theorem resolve_extends (settled : Settled c) (d : Descriptor) :
    Extends files c (c.resolve files d).2 := by
  have resolving := resolveAt_keeps (resolving_keeps files c) c.nestingBound
    (c.store.size + 1) [] d c trivial trivial settled.resolving
  unfold Context.resolve
  generalize resolveAt files c.nestingBound (c.store.size + 1) [] d c = out at resolving
  exact resolving.absorb

/-- The resolver remembers the same, and the same cut is open. -/
structure SameMemory (c c' : Context) : Prop where
  memo : c'.resolver.memo = c.resolver.memo
  cut : c'.resolver.cut = c.resolver.cut

/-- A reference loaded for the resolver means what its file says. -/
theorem loadForResolver_reads {s : Store} (faithful : s.Faithful files)
    (grown : Store.Grows files s c.store) (reference : String) :
    (c.loadForResolver files reference).1 = s.readReference files reference ∧
      Store.Grows files c.store (c.loadForResolver files reference).2.store ∧
      SameMemory c (c.loadForResolver files reference).2 := by
  have read : (c.store.load files reference).1 = s.readReference files reference := by
    rw [(faithful.grows grown).load_eq, Store.readReference_congr grown.index]
  have loads := Store.load_grows files c.store reference
  unfold Context.loadForResolver
  generalize c.store.load files reference = loaded at read loads
  exact ⟨read, loads.trans (Store.takeWarnings_grows files _), rfl, rfl⟩

/-- What is loaded is resolved in a context that has loaded it. -/
theorem loadResolved_eq (files : FileTree) (c : Context) (reference : String) :
    ∃ c₁, (Settled c → Extends files c c₁) ∧ SameMemory c c₁ ∧
      c.loadResolved files reference = match (c.store.load files reference).1 with
        | .error e => (.error e, c₁)
        | .ok d => (.ok (c₁.resolve files d).1, (c₁.resolve files d).2) := by
  have grown := Store.load_grows files c.store reference
  have warned := load_warnings files c.store reference
  unfold Context.loadResolved
  generalize c.store.load files reference = out at grown warned
  obtain ⟨found, s⟩ := out
  refine ⟨Context.absorb { c with store := s }, ?_, ⟨rfl, rfl⟩, rfl⟩
  intro settled
  -- nothing was waiting, so all that waits now comes from loading
  have resolving : Resolving files c { c with store := s } := by
    refine ⟨grown, rfl, ?_⟩
    intro w mem
    have waits : w ∈ s.warnings ++ c.resolver.warnings := mem
    rw [settled.resolver, List.append_nil] at waits
    refine (warned w waits).resolve_left ?_
    intro old
    rw [settled.store] at old
    cases old
  exact resolving.absorb

/-! ### Keys -/

/-- What is remembered is remembered under its own key. -/
def Keyed (c : Context) : Prop := ∀ key r, c.resolver.memo.get? key = some r → r.key = key

theorem Keyed.congr (h : Keyed c) (same : c'.resolver.memo = c.resolver.memo) : Keyed c' := by
  intro key r found
  rw [same] at found
  exact h key r found

theorem keyed_keeps (files : FileTree) :
    ResolverKeeps files (fun _ => True) (fun _ => True) Keyed where
  down := fun _ _ => trivial
  found := fun _ _ _ _ => trivial
  load := by
    intro c reference h
    unfold Context.loadForResolver
    generalize c.store.load files reference = out
    exact h
  warn := fun _ _ h => h
  cut := fun _ _ _ h => h
  uncut := fun h => h
  memo := by
    intro c d r _ _ h key other found
    have found : (c.resolver.memo.insert r.key r).get? key = some other := found
    rw [KeyMap.get?_insert] at found
    split at found
    · rename_i same
      rw [← Option.some.inj found, same]
    · exact h key other found

theorem resolveAt_key (files : FileTree) (h : Keyed c) (nesting budget : Nat) (path : List String)
    (d : Descriptor) :
    (resolveAt files nesting budget path d c).1.key = d.key := by
  cases budget with
  | zero => rfl
  | succ budget =>
    unfold resolveAt
    split
    · rename_i r known
      exact h d.key r known
    · exact resolveDocument_key nesting path d

theorem resolve_key (h : Keyed c) (d : Descriptor) : (c.resolve files d).1.key = d.key := by
  have key := resolveAt_key files h c.nestingBound (c.store.size + 1) [] d
  unfold Context.resolve
  generalize resolveAt files c.nestingBound (c.store.size + 1) [] d c = out at key
  exact key

theorem resolve_keyed (h : Keyed c) (d : Descriptor) : Keyed (c.resolve files d).2 := by
  have keyed := resolveAt_keeps (keyed_keeps files) c.nestingBound (c.store.size + 1) []
    d c trivial trivial h
  unfold Context.resolve
  generalize resolveAt files c.nestingBound (c.store.size + 1) [] d c = out at keyed
  exact keyed

/-- **The contexts in use**: a store is opened, and then descriptors are resolved, and anything is
done that leaves alone what the resolver remembers. -/
inductive InUse (files : FileTree) : Context → Prop where
  | opened : ∀ {root s}, Store.ofDirectory files root = .ok s → InUse files (.ofStore s)
  | other : ∀ {c c'}, InUse files c → c'.resolver.memo = c.resolver.memo → InUse files c'
  | resolved : ∀ {c} d, InUse files c → InUse files (c.resolve files d).2

theorem InUse.keyed (h : InUse files c) : Keyed c := by
  induction h with
  | opened _ => exact fun key r found => nomatch found
  | other _ same ih => exact ih.congr same
  | resolved d _ ih => exact resolve_keyed ih d

end DispatchTables
