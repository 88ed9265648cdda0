import DispatchTables.Proofs.Inheritance.Memory
import DispatchTables.Proofs.Inheritance.Twins

/-!
# Nothing in place to resolve

How deep components in place may nest is bounded, for a component that is written in place may name
sources which have it in place again.  Where nothing in place names sources the bound is never used,
so it makes no difference.

## Main Definitions

* `quietLists`: nothing in place in a document names sources.
* `Context.Quiet`: so it is with what a context reads and remembers.
* `OneStep`: two steps are one and the same, and keep a context quiet.

## Main Statements

* `resolveAt_nesting`: from quiet documents the resolver yields the same with any bound.
* `Context.Quiet.ends`: so resolving a quiet document ends by itself.
-/

namespace DispatchTables

/-! ### Quiet documents -/

mutual

/-- Whether no object in a value names sources. -/
def Json.quiet : Json → Bool
  | .array items => Json.quietItems items
  | .object members => !inherits members && Json.quietMembers members
  | _ => true

/-- Whether no object in the items of an array names sources. -/
def Json.quietItems : List Json → Bool
  | [] => true
  | v :: rest => v.quiet && Json.quietItems rest

/-- Whether no object in the values of members names sources. -/
def Json.quietMembers : Members → Bool
  | [] => true
  | (_, v) :: rest => v.quiet && Json.quietMembers rest

end

/-- The members that list components, which may be written in place there. -/
def edgeKeys : List String :=
  componentListKeys ++ ["subsystem_assemblies", "subsystems", "family_components"]

/-- **Whether nothing in place in a document names sources**, however deep. -/
def quietLists (doc : Members) : Bool := listsAll edgeKeys Json.quiet doc

theorem Json.quietItems_iff {items : List Json} :
    Json.quietItems items = true ↔ ∀ item ∈ items, item.quiet = true := by
  induction items with
  | nil => simp [quietItems]
  | cons item rest ih => simp [quietItems, ih]

theorem Json.quietMembers_iff {doc : Members} :
    Json.quietMembers doc = true ↔ ∀ m ∈ doc, m.2.quiet = true := by
  induction doc with
  | nil => simp [quietMembers]
  | cons m rest ih =>
    obtain ⟨key, value⟩ := m
    simp [quietMembers, ih]

/-- In a component in place that is quiet nothing in place names sources either. -/
theorem quietLists_of_quiet {doc : Members} (quiet : (Json.object doc).quiet = true) :
    quietLists doc = true := by
  rw [Json.quiet, Bool.and_eq_true] at quiet
  refine listsAll_iff.mpr ?_
  intro m mem _
  have inner := Json.quietMembers_iff.mp quiet.2 m mem
  generalize m.2 = value at inner
  cases value with
  | array items =>
    rw [Json.quiet] at inner
    exact List.all_eq_true.mpr (Json.quietItems_iff.mp inner)
  | _ => rfl

theorem plainLists_of_quietLists {doc : Members} (quiet : quietLists doc = true) :
    plainLists doc = true := by
  have plain : ∀ item : Json, item.quiet = true → plainItem item = true := by
    intro item quiet
    cases item with
    | object inner =>
      rw [Json.quiet, Bool.and_eq_true] at quiet
      exact quiet.1
    | _ => rfl
  rw [plainLists_eq_listsAll, listsAll_iff]
  intro m mem listed
  have items := listsAll_iff.mp quiet m mem (List.mem_append_left _ listed)
  generalize m.2 = value at items
  cases value with
  | array items =>
    exact List.all_eq_true.mpr fun item mem => plain item (List.all_eq_true.mp ‹_› item mem)
  | _ => rfl

/-! ### Quiet contexts -/

variable {files : FileTree} {s : Store} {c c' : Context} {d : Descriptor} {path : List String}
  {reference : String}

/-- **What a context reads and remembers is quiet**: it goes back to a store of quiet documents. -/
structure Context.Quiet (files : FileTree) (s : Store) (c : Context) : Prop where
  held : ∀ e, s.Holds files e → quietLists e.doc = true
  faithful : s.Faithful files
  grown : Store.Grows files s c.store
  memo : ∀ {key r}, c.resolver.memo.get? key = some r → quietLists r.doc = true

/-- What only loads, warns and cuts leaves a context quiet. -/
theorem Context.Quiet.congr (h : c.Quiet files s) (grown : Store.Grows files c.store c'.store)
    (memo : c'.resolver.memo = c.resolver.memo) : c'.Quiet files s :=
  ⟨h.held, h.faithful, h.grown.trans grown, fun found => h.memo (memo ▸ found)⟩

theorem Context.Quiet.warn (h : c.Quiet files s) (w : Diagnostic) :
    (c.warnResolver w).Quiet files s := h.congr (Store.Grows.refl files _) rfl

theorem Context.Quiet.absorb (h : c.Quiet files s) : c.absorb.Quiet files s :=
  h.congr (Store.takeWarnings_grows files _) rfl

theorem Context.Quiet.remember (h : c.Quiet files s) (depth : Nat) {r : Resolved}
    (quiet : quietLists r.doc = true) : (c.remember depth r).Quiet files s := by
  have inserted : ∀ {key r'}, (c.resolver.memo.insert r.key r).get? key = some r' →
      quietLists r'.doc = true := by
    intro key r' found
    rw [KeyMap.get?_insert] at found
    split at found
    · cases found
      exact quiet
    · exact h.memo found
  unfold Context.remember
  cases c.resolver.cut with
  | none => exact ⟨h.held, h.faithful, h.grown, inserted⟩
  | some cut =>
    dsimp only
    split
    · exact h
    · split
      · exact ⟨h.held, h.faithful, h.grown, h.memo⟩
      · exact ⟨h.held, h.faithful, h.grown, inserted⟩

/-- What is loaded is quiet. -/
theorem Context.Quiet.load (h : c.Quiet files s) {t : Store}
    (loaded : c.store.load files reference = (.ok d, t)) :
    quietLists d.doc = true ∧ (Context.absorb { c with store := t }).Quiet files s := by
  have grown := Store.load_grows files c.store reference
  have read : (c.store.load files reference).1 = s.readReference files reference := by
    rw [h.grown.load_fst_eq, h.faithful.load_eq]
  rw [loaded] at grown read
  have stored : Context.Quiet files s { c with store := t } := h.congr grown rfl
  exact ⟨h.held d (Store.holds_of_readReference read.symm), stored.absorb⟩

/-- **Two steps are one and the same**: they lead from a context to one result, which is quiet, and
to one context, which is quiet too. -/
structure OneStep {α : Type} (files : FileTree) (s : Store) (quiet : α → Prop)
    (out out' : α × Context) : Prop where
  eq : out' = out
  quiet : quiet out.1
  context : out.2.Quiet files s

/-- Two resolvers of parents resolve quiet documents to the same. -/
def ParentResolver.Agrees (files : FileTree) (s : Store) (resolve resolve' : ParentResolver) :
    Prop :=
  ∀ path d c, quietLists d.doc = true → c.Quiet files s →
    OneStep files s (quietLists ·.doc = true) (resolve path d c) (resolve' path d c)

variable {resolve resolve' : ParentResolver}

theorem resolveParent_agrees (agrees : resolve.Agrees files s resolve') (path : List String)
    (child reference : String) (quiet : c.Quiet files s) :
    OneStep files s (fun found => ∀ r, found = some r → quietLists r.doc = true)
      (resolveParent files resolve path child reference c)
      (resolveParent files resolve' path child reference c) := by
  obtain ⟨read, grown, same⟩ := loadForResolver_reads quiet.faithful quiet.grown reference
  have loaded := quiet.congr grown same.memo
  rw [resolveParent_eq, resolveParent_eq]
  generalize c.loadForResolver files reference = out at read loaded ⊢
  obtain ⟨found, c₁⟩ := out
  dsimp only at read loaded ⊢
  unfold sourceOf
  cases found with
  | error e => exact ⟨rfl, nofun, loaded.warn _⟩
  | ok parent =>
    dsimp only
    cases path.idxOf? parent.key with
    | some place =>
      have noted : (c₁.noteCut place).Quiet files s :=
        loaded.congr (Store.Grows.refl files _) rfl
      exact ⟨rfl, nofun, noted.warn _⟩
    | none =>
      have own := quiet.held parent (Store.holds_of_readReference read.symm)
      obtain ⟨eq, inner, after⟩ := agrees path parent c₁ own loaded
      dsimp only
      rw [eq]
      refine ⟨rfl, ?_, after⟩
      rintro r ⟨⟩
      exact inner

/-- What a document is laid over is quiet, and so is the context. -/
structure Layers.Quiet (files : FileTree) (s : Store) (layers : Layers) : Prop where
  merged : quietLists layers.merged = true
  context : layers.context.Quiet files s

theorem applySources_agrees (agrees : resolve.Agrees files s resolve') (path : List String)
    (child : String) (references : List String) {layers : Layers} (quiet : layers.Quiet files s) :
    applySources files resolve' path child references layers =
        applySources files resolve path child references layers ∧
      (applySources files resolve path child references layers).2.Quiet files s := by
  induction references generalizing layers with
  | nil => exact ⟨rfl, quiet⟩
  | cons reference rest ih =>
    obtain ⟨eq, inner, after⟩ := resolveParent_agrees agrees path child reference quiet.context
    unfold applySources
    rw [eq]
    generalize resolveParent files resolve path child reference layers.context = out at inner after
    obtain ⟨found, c₁⟩ := out
    cases found with
    | none =>
      obtain ⟨same, later⟩ := @ih { layers with context := c₁ } ⟨quiet.merged, after⟩
      dsimp only
      rw [same]
      exact ⟨rfl, later⟩
    | some parent =>
      exact ih ⟨listsAll_merge quiet.merged (listsAll_filter _ (inner parent rfl)), after⟩

theorem applyKeys_agrees (agrees : resolve.Agrees files s resolve') (path : List String)
    (child : String) (keys : List String) {own : Members} {layers : Layers}
    (ownQuiet : quietLists own = true) (quiet : layers.Quiet files s) :
    applyKeys files resolve' path child keys own layers =
        applyKeys files resolve path child keys own layers ∧
      quietLists (applyKeys files resolve path child keys own layers).1 = true ∧
      (applyKeys files resolve path child keys own layers).2.Quiet files s := by
  induction keys generalizing own layers with
  | nil => exact ⟨rfl, ownQuiet, quiet⟩
  | cons key rest ih =>
    unfold applyKeys
    cases own.get? key with
    | none => exact ih ownQuiet quiet
    | some value =>
      dsimp only
      cases references? value with
      | none => exact ih ownQuiet ⟨quiet.merged, quiet.context.warn _⟩
      | some references =>
        obtain ⟨eq, after⟩ := applySources_agrees agrees path child references quiet
        dsimp only
        rw [eq]
        refine ih ?_ after
        split
        · exact listsAll_filter _ ownQuiet
        · exact ownQuiet

/-- Where nothing in place names sources the bound on nesting is not used. -/
theorem resolveDocument_eq_of_quiet {own : Members} {layers : Layers} (nesting : Nat)
    (applied : applyKeys files resolve (path ++ [d.key]) d.key inheritanceKeys d.doc
      { context := c } = (own, layers))
    (quiet : quietLists (merge layers.merged own) = true) :
    resolveDocument files resolve nesting path d c =
      (⟨d.key, d.path, d.kind, withLog (merge layers.merged own) layers.log, layers.log⟩,
        layers.context) := by
  have plain := plainLists_of_quietLists quiet
  unfold resolveDocument
  cases nesting with
  | zero => simp only [applied]
  | succ nesting => simp only [applied, resolveLists_plain plain fun key mem => mem]

/-- A quiet document is laid over its sources, and nothing in it is resolved in place. -/
theorem resolveDocument_agrees (agrees : resolve.Agrees files s resolve') (nesting nesting' : Nat)
    (path : List String) (own : quietLists d.doc = true) (quiet : c.Quiet files s) :
    OneStep files s (quietLists ·.doc = true) (resolveDocument files resolve nesting path d c)
      (resolveDocument files resolve' nesting' path d c) := by
  have start : Layers.Quiet files s { context := c } := ⟨rfl, quiet⟩
  obtain ⟨eq, left, after⟩ :=
    applyKeys_agrees agrees (path ++ [d.key]) d.key inheritanceKeys own start
  have inner := listsAll_merge after.merged left
  rw [resolveDocument_eq_of_quiet nesting rfl inner, resolveDocument_eq_of_quiet nesting' eq inner]
  exact ⟨rfl, listsAll_withLog _ (by decide) inner, after.context⟩

/-- **From quiet documents the resolver yields the same with any bound on nesting.** -/
theorem resolveAt_nesting (files : FileTree) (s : Store) (nesting nesting' budget : Nat) :
    (resolveAt files nesting budget).Agrees files s (resolveAt files nesting' budget) := by
  induction budget with
  | zero => exact fun path d c own quiet => ⟨rfl, own, quiet⟩
  | succ budget ih =>
    intro path d c own quiet
    unfold resolveAt
    cases known : c.resolver.memo.get? d.key with
    | some r => exact ⟨rfl, quiet.memo known, quiet⟩
    | none =>
      obtain ⟨eq, inner, after⟩ := resolveDocument_agrees ih nesting nesting' path own quiet
      dsimp only
      rw [eq]
      exact ⟨rfl, inner, after.remember path.length inner⟩

/-- **Resolving a quiet document ends** by itself, and leaves the context quiet. -/
theorem Context.Quiet.ends (h : c.Quiet files s) (own : quietLists d.doc = true) :
    c.Ends files d ∧ quietLists (c.resolve files d).1.doc = true ∧
      (c.resolve files d).2.Quiet files s := by
  have agrees := fun nesting =>
    resolveAt_nesting files s c.nestingBound nesting (c.store.size + 1) [] d c own h
  refine ⟨fun nesting _ => (agrees nesting).eq, (agrees 0).quiet, (agrees 0).context.absorb⟩

/-- So does resolving what a reference means. -/
theorem Context.Quiet.loadEnds (h : c.Quiet files s) (reference : String) :
    c.LoadEnds files reference := by
  intro d t loaded
  obtain ⟨own, after⟩ := h.load loaded
  exact (after.ends own).1

end DispatchTables
