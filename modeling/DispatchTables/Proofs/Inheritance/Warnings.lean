import DispatchTables.Inheritance.Resolver

/-!
# What is queued while something is loaded and resolved

A warning is queued where it comes up: by the store, by the resolver or by a pass.  The queues are
emptied into one another at other places, and into the report at last.  Here it is said of each
function what it queues, by recursion along the function and without a look at any queue; and then,
that what waits in the three queues after it is what waited before it and that, whatever the
function does with the queues on its way.

## Main Definitions

* `Context.waiting`: what waits in the three queues.
* `Queues`: from one context to another some diagnostics have been queued, and nothing has been
  lost.
* `Store.loadWarnings`: what the store queues for a reference.
* `resolveWarnings`: what is queued while a descriptor is resolved.

## Main Statements

* `queues_resolveAt`: the resolver loses none of what it queues.
* `queues_loadResolved`, `queues_resolve`: nor do loading and resolving.
-/

namespace DispatchTables

variable {files : FileTree} {c c' c'' : Context} {ws ws' : List Diagnostic}

/-! ### Queues -/

/-- What waits in the queues of the report, the store and the resolver. -/
def Context.waiting (c : Context) : List Diagnostic :=
  c.diagnostics ++ c.store.warnings ++ c.resolver.warnings

/-- Some diagnostics have been queued: they wait now besides all that waited before, each as often
as it has been queued. -/
def Queues (c : Context) (ws : List Diagnostic) (c' : Context) : Prop :=
  c'.waiting.Perm (c.waiting ++ ws)

theorem Queues.of_eq (same : c'.waiting = c.waiting) : Queues c [] c' := by
  unfold Queues
  rw [same, List.append_nil]

theorem Queues.refl (c : Context) : Queues c [] c := .of_eq rfl

theorem Queues.trans (h : Queues c ws c') (h' : Queues c' ws' c'') : Queues c (ws ++ ws') c'' := by
  unfold Queues at h h' ⊢
  rw [← List.append_assoc]
  exact h'.trans (h.append_right ws')

/-- What is queued does not depend on where in the queues it is put. -/
theorem perm_append_between (before behind ws : List Diagnostic) :
    (before ++ ws ++ behind).Perm (before ++ behind ++ ws) := by
  rw [List.append_assoc, List.append_assoc]
  exact List.perm_append_comm.append_left before

theorem queues_reportAll (c : Context) (ds : List Diagnostic) : Queues c ds (c.reportAll ds) := by
  have moved := perm_append_between c.diagnostics (c.store.warnings ++ c.resolver.warnings) ds
  simpa [Queues, Context.waiting, Context.reportAll] using moved

theorem queues_report (c : Context) (d : Diagnostic) : Queues c [d] (c.report d) :=
  queues_reportAll c [d]

theorem queues_warnResolver (c : Context) (d : Diagnostic) : Queues c [d] (c.warnResolver d) := by
  simp [Queues, Context.waiting, Context.warnResolver]

/-- What a store puts into its queue waits with the rest. -/
theorem queues_store {s : Store} (queued : s.warnings = c.store.warnings ++ ws) :
    Queues c ws { c with store := s } := by
  have moved := perm_append_between (c.diagnostics ++ c.store.warnings) c.resolver.warnings ws
  simpa [Queues, Context.waiting, queued] using moved

/-- Moving the queues into the report loses nothing. -/
theorem queues_absorb (c : Context) : Queues c [] c.absorb := by
  apply Queues.of_eq
  simp [Context.waiting, Context.absorb, Store.takeWarnings]

/-- Nor does the resolver lose anything when it takes over the queue of the store. -/
theorem queues_takeOver (c : Context) :
    Queues c [] { c with
      store := c.store.takeWarnings.2
      resolver := { c.resolver with warnings := c.resolver.warnings ++ c.store.warnings } } := by
  have swapped : (c.resolver.warnings ++ c.store.warnings).Perm
      (c.store.warnings ++ c.resolver.warnings) := List.perm_append_comm
  simpa [Queues, Context.waiting, Store.takeWarnings] using swapped.append_left c.diagnostics

/-! ### Loading -/

/-- What the store queues for a reference: that it could have meant other keys, unless that has been
said of it. -/
def Store.loadWarnings (s : Store) (reference : String) : List Diagnostic :=
  match (tails (normalSegments reference)).findSome? s.matchTail with
  | some (chosen, others) =>
    if others.isEmpty || s.reported.contains (normalize reference) then []
    else [ambiguity reference chosen others]
  | none => []

theorem warnings_loadKey (files : FileTree) (s : Store) (key : String) :
    (s.loadKey files key).2.warnings = s.warnings := by
  unfold Store.loadKey
  cases s.cache.get? key with
  | some d => rfl
  | none =>
    cases s.index.get? key with
    | none => rfl
    | some path =>
      dsimp only
      cases readDescriptor files key path <;> rfl

theorem warnings_load (files : FileTree) (s : Store) (reference : String) :
    (s.load files reference).2.warnings = s.warnings ++ s.loadWarnings reference := by
  unfold Store.load Store.resolveKey Store.loadWarnings
  cases (tails (normalSegments reference)).findSome? s.matchTail with
  | none => simp
  | some found =>
    obtain ⟨chosen, others⟩ := found
    dsimp only
    rw [warnings_loadKey]
    unfold Store.reportAmbiguity
    dsimp only
    by_cases silent : (others.isEmpty || s.reported.contains (normalize reference)) = true
    · rw [if_pos silent, if_pos silent, List.append_nil]
    · rw [if_neg silent, if_neg silent]
      rfl

theorem queues_load (files : FileTree) (c : Context) (reference : String) :
    Queues c (c.store.loadWarnings reference)
      { c with store := (c.store.load files reference).2 } :=
  queues_store (warnings_load files c.store reference)

theorem queues_loadForResolver (files : FileTree) (c : Context) (reference : String) :
    Queues c (c.store.loadWarnings reference) (c.loadForResolver files reference).2 := by
  have loaded := queues_load files c reference
  unfold Context.loadForResolver
  generalize c.store.load files reference = out at loaded
  have taken := loaded.trans (queues_takeOver _)
  rw [List.append_nil] at taken
  exact taken

/-! ### Resolving -/

/-- That a source is on the path. -/
def cycleSkipped (path : List String) (child parent : String) : Diagnostic :=
  (Diagnostic.warn .inheritanceCycle child
    ("inheritance cycle through '" ++ parent ++ "' skipped")).because (" -> ".intercalate path)

/-- That a source is missing. -/
def leftUnresolved (child reference : String) (failure : Failure) : Diagnostic :=
  .warn .unresolvedTemplate child
    ("template '" ++ reference ++ "' left unresolved: " ++ failure.message)

/-- That an inheritance key has a value of another shape. -/
def sourcesMalformed (child key : String) : Diagnostic :=
  .warn .malformedInheritance child ("'" ++ key ++ "' must be a string or a list of strings")

/-- What is queued while a descriptor that is not on the path is resolved. -/
abbrev ParentWarnings := List String → Descriptor → Context → List Diagnostic

/-- What is queued for one source of a document. -/
def parentWarnings (files : FileTree) (inner : ParentWarnings) (path : List String)
    (child reference : String) (c : Context) : List Diagnostic :=
  c.store.loadWarnings reference ++
    match c.loadForResolver files reference with
    | (.ok parent, c) =>
      match path.idxOf? parent.key with
      | some _ => [cycleSkipped path child parent.key]
      | none => inner path parent c
    | (.error e, _) => [leftUnresolved child reference e]

/-- What is queued for the sources that an inheritance key names. -/
def sourceWarnings (files : FileTree) (resolve : ParentResolver) (inner : ParentWarnings)
    (path : List String) (child : String) : List String → Context → List Diagnostic
  | [], _ => []
  | reference :: rest, c =>
    parentWarnings files inner path child reference c ++
      sourceWarnings files resolve inner path child rest
        (resolveParent files resolve path child reference c).2

/-- What is queued for the inheritance keys of a document. -/
def keyWarnings (files : FileTree) (resolve : ParentResolver) (inner : ParentWarnings)
    (path : List String) (child : String) :
    List String → Members → Layers → List Diagnostic
  | [], _, _ => []
  | key :: rest, own, layers =>
    match own.get? key with
    | none => keyWarnings files resolve inner path child rest own layers
    | some value =>
      match references? value with
      | none =>
        sourcesMalformed child key ::
          keyWarnings files resolve inner path child rest own { layers with
            context := layers.context.warnResolver (sourcesMalformed child key) }
      | some references =>
        let (complete, after) := applySources files resolve path child references layers
        sourceWarnings files resolve inner path child references layers.context ++
          keyWarnings files resolve inner path child rest
            (if complete then own.erase key else own) after

/-- What is queued for the items of a component list; `inner` says it of an object that builds on
others. -/
def itemWarnings (one : String → Members → Context → Members × Context)
    (inner : String → Members → Context → List Diagnostic) (parent : String) :
    Nat → List Json → Context → List Diagnostic
  | _, [], _ => []
  | index, .object doc :: rest, c =>
    if inherits doc then
      let key := parent ++ "#" ++ (declaredName doc).getD (Nat.repr index)
      inner key doc c ++ itemWarnings one inner parent (index + 1) rest (one key doc c).2
    else itemWarnings one inner parent (index + 1) rest c
  | index, _ :: rest, c => itemWarnings one inner parent (index + 1) rest c

/-- What is queued for the component lists under some keys. -/
def listWarnings (one : String → Members → Context → Members × Context)
    (inner : String → Members → Context → List Diagnostic) (parent : String) :
    List String → Members → Context → List Diagnostic
  | [], _, _ => []
  | key :: rest, doc, c =>
    match doc.get? key with
    | some (.array items) =>
      let (resolved, after) := resolveItems one parent 0 items c
      itemWarnings one inner parent 0 items c ++
        listWarnings one inner parent rest (doc.insert key (.array resolved)) after
    | _ => listWarnings one inner parent rest doc c

/-- How a component object in place is resolved under the key it gets, `nesting` levels deep, below
the descriptor that ends the path. -/
def resolveObject (files : FileTree) (resolve : ParentResolver) (nesting : Nat)
    (path : List String) (place : String) (key : String) (doc : Members) (c : Context) :
    Members × Context :=
  let (r, c) := resolveDocument files resolve nesting path
    ⟨key, place, Kind.detect "" doc, doc⟩ c
  (r.doc, c)

theorem resolveDocument_succ (files : FileTree) (resolve : ParentResolver) (nesting : Nat)
    (path : List String) (d : Descriptor) (c : Context) :
    (resolveDocument files resolve (nesting + 1) path d c).2 =
      let (own, layers) := applyKeys files resolve (path ++ [d.key]) d.key inheritanceKeys d.doc
        { context := c }
      (resolveLists (resolveObject files resolve nesting (path ++ [d.key]) d.path) d.key
        componentListKeys (merge layers.merged own) layers.context).2 := rfl

/-- What is queued while one document is laid over what it builds on. -/
def documentWarnings (files : FileTree) (resolve : ParentResolver) (inner : ParentWarnings) :
    Nat → List String → Descriptor → Context → List Diagnostic
  | nesting, path, d, c =>
    let path := path ++ [d.key]
    let (own, layers) := applyKeys files resolve path d.key inheritanceKeys d.doc { context := c }
    keyWarnings files resolve inner path d.key inheritanceKeys d.doc { context := c } ++
      match nesting with
      | 0 => []
      | nesting + 1 =>
        listWarnings (resolveObject files resolve nesting path d.path)
          (fun key doc c => documentWarnings files resolve inner nesting path
            ⟨key, d.path, Kind.detect "" doc, doc⟩ c)
          d.key componentListKeys (merge layers.merged own) layers.context

/-- What is queued while a descriptor is resolved: nothing when it is remembered. -/
def resolveWarnings (files : FileTree) (nesting : Nat) : Nat → ParentWarnings
  | 0, _, _, _ => []
  | budget + 1, path, d, c =>
    match c.resolver.memo.get? d.key with
    | some _ => []
    | none =>
      documentWarnings files (resolveAt files nesting budget)
        (resolveWarnings files nesting budget) nesting path d c

variable {resolve : ParentResolver} {inner : ParentWarnings} {path : List String}

/-- A resolver of parents loses none of what it queues. -/
def ParentResolver.Tells (resolve : ParentResolver) (inner : ParentWarnings) : Prop :=
  ∀ path d c, Queues c (inner path d c) (resolve path d c).2

theorem queues_noteCut (c : Context) (place : Nat) : Queues c [] (c.noteCut place) := .of_eq rfl

theorem queues_remember (c : Context) (depth : Nat) (r : Resolved) :
    Queues c [] (c.remember depth r) := by
  apply Queues.of_eq
  unfold Context.remember
  split
  · split
    · rfl
    · split <;> rfl
  · rfl

theorem queues_resolveParent (files : FileTree) (tells : resolve.Tells inner) (path : List String)
    (child reference : String) (c : Context) :
    Queues c (parentWarnings files inner path child reference c)
      (resolveParent files resolve path child reference c).2 := by
  have loaded := queues_loadForResolver files c reference
  unfold parentWarnings resolveParent
  generalize c.loadForResolver files reference = out at loaded
  obtain ⟨found, c₁⟩ := out
  cases found with
  | error e => exact loaded.trans (queues_warnResolver c₁ _)
  | ok parent =>
    dsimp only at loaded ⊢
    cases path.idxOf? parent.key with
    | none => exact loaded.trans (tells path parent c₁)
    | some place =>
      exact loaded.trans ((queues_noteCut c₁ place).trans (queues_warnResolver _ _))

theorem queues_applySources (files : FileTree) (tells : resolve.Tells inner) (path : List String)
    (child : String) (references : List String) (layers : Layers) :
    Queues layers.context (sourceWarnings files resolve inner path child references layers.context)
      (applySources files resolve path child references layers).2.context := by
  induction references generalizing layers with
  | nil => exact .refl _
  | cons reference rest ih =>
    have first := queues_resolveParent files tells path child reference layers.context
    unfold sourceWarnings applySources
    generalize resolveParent files resolve path child reference layers.context = out at first
    obtain ⟨found, c₁⟩ := out
    cases found with
    | none => exact first.trans (ih { layers with context := c₁ })
    | some parent => exact first.trans (ih ⟨_, _, c₁⟩)

theorem queues_applyKeys (files : FileTree) (tells : resolve.Tells inner) (path : List String)
    (child : String) (keys : List String) (own : Members) (layers : Layers) :
    Queues layers.context (keyWarnings files resolve inner path child keys own layers)
      (applyKeys files resolve path child keys own layers).2.context := by
  induction keys generalizing own layers with
  | nil => exact .refl _
  | cons key rest ih =>
    unfold keyWarnings applyKeys
    cases own.get? key with
    | none => exact ih own layers
    | some value =>
      dsimp only
      cases references? value with
      | none =>
        exact (queues_warnResolver layers.context (sourcesMalformed child key)).trans
          (ih own { layers with context := layers.context.warnResolver _ })
      | some references =>
        exact (queues_applySources files tells path child references layers).trans (ih _ _)

section InPlace

variable {one : String → Members → Context → Members × Context}
  {inner : String → Members → Context → List Diagnostic}

theorem queues_resolveItems (tells : ∀ key doc c, Queues c (inner key doc c) (one key doc c).2)
    (parent : String) (index : Nat) (items : List Json) (c : Context) :
    Queues c (itemWarnings one inner parent index items c)
      (resolveItems one parent index items c).2 := by
  induction items generalizing index c with
  | nil => exact .refl _
  | cons item rest ih =>
    cases item with
    | object doc =>
      unfold itemWarnings resolveItems
      by_cases building : inherits doc = true
      · rw [if_pos building, if_pos building]
        exact (tells _ doc c).trans (ih _ _)
      · rw [if_neg building, if_neg building]
        exact ih _ c
    | _ => exact ih _ c

theorem queues_resolveLists (tells : ∀ key doc c, Queues c (inner key doc c) (one key doc c).2)
    (parent : String) (keys : List String) (doc : Members) (c : Context) :
    Queues c (listWarnings one inner parent keys doc c)
      (resolveLists one parent keys doc c).2 := by
  induction keys generalizing doc c with
  | nil => exact .refl _
  | cons key rest ih =>
    unfold listWarnings resolveLists
    cases doc.get? key with
    | none => exact ih doc c
    | some value =>
      cases value with
      | array items => exact (queues_resolveItems tells parent 0 items c).trans (ih _ _)
      | _ => exact ih doc c

end InPlace

theorem queues_resolveDocument (files : FileTree) (tells : resolve.Tells inner) (nesting : Nat)
    (path : List String) (d : Descriptor) (c : Context) :
    Queues c (documentWarnings files resolve inner nesting path d c)
      (resolveDocument files resolve nesting path d c).2 := by
  induction nesting generalizing path d c with
  | zero =>
    have keys := queues_applyKeys files tells (path ++ [d.key]) d.key inheritanceKeys
      d.doc { context := c }
    exact keys.trans (.refl _)
  | succ nesting ih =>
    have keys := queues_applyKeys files tells (path ++ [d.key]) d.key inheritanceKeys
      d.doc { context := c }
    have objects : ∀ key doc c, Queues c
        (documentWarnings files resolve inner nesting (path ++ [d.key])
          ⟨key, d.path, Kind.detect "" doc, doc⟩ c)
        (resolveObject files resolve nesting (path ++ [d.key]) d.path key doc c).2 :=
      fun key doc c => ih _ _ c
    rw [resolveDocument_succ]
    exact keys.trans (queues_resolveLists objects d.key componentListKeys _ _)

/-- **The resolver loses none of what it queues**, however documents build on one another. -/
theorem queues_resolveAt (files : FileTree) (nesting budget : Nat) :
    (resolveAt files nesting budget).Tells (resolveWarnings files nesting budget) := by
  induction budget with
  | zero => exact fun _ _ c => .refl c
  | succ budget ih =>
    intro path d c
    unfold resolveWarnings resolveAt
    cases c.resolver.memo.get? d.key with
    | some r => exact .refl c
    | none =>
      have resolved := queues_resolveDocument files ih nesting path d c
      have remembered := resolved.trans (queues_remember _ path.length
        (resolveDocument files (resolveAt files nesting budget) nesting path d c).1)
      rw [List.append_nil] at remembered
      exact remembered

/-! ### What the rest of the compiler uses -/

/-- What is queued while a descriptor is resolved for the rest of the compiler. -/
def Context.resolveWarnings (files : FileTree) (c : Context) (d : Descriptor) : List Diagnostic :=
  DispatchTables.resolveWarnings files c.nestingBound (c.store.size + 1) [] d c

/-- What is queued while a reference is loaded and what it means is resolved. -/
def Context.loadResolvedWarnings (files : FileTree) (c : Context) (reference : String) :
    List Diagnostic :=
  c.store.loadWarnings reference ++
    match c.store.load files reference with
    | (.error _, _) => []
    | (.ok d, s) => (absorb { c with store := s }).resolveWarnings files d

theorem queues_resolve (files : FileTree) (c : Context) (d : Descriptor) :
    Queues c (c.resolveWarnings files d) (c.resolve files d).2 := by
  have resolved := (queues_resolveAt files c.nestingBound (c.store.size + 1) [] d c).trans
    (queues_absorb _)
  rw [List.append_nil] at resolved
  exact resolved

theorem queues_loadResolved (files : FileTree) (c : Context) (reference : String) :
    Queues c (c.loadResolvedWarnings files reference) (c.loadResolved files reference).2 := by
  have loaded := (queues_load files c reference).trans (queues_absorb _)
  unfold Context.loadResolvedWarnings Context.loadResolved
  generalize c.store.load files reference = out at loaded
  obtain ⟨found, s⟩ := out
  rw [List.append_nil] at loaded
  cases found with
  | error e =>
    rw [List.append_nil]
    exact loaded
  | ok d =>
    have resolved := queues_resolve files (Context.absorb { c with store := s }) d
    exact loaded.trans resolved

end DispatchTables
