import DispatchTables.Proofs.Inheritance.Alone
import DispatchTables.Proofs.Inheritance.Recall

/-!
# How resolved documents are built

A resolved document comes out of some sources, each a descriptor of the store that has been resolved
itself.  Which sources these are depends on references that mean nothing, on cycles that are cut and
on what is remembered; that the document is made of them, and that its log tells which they are,
does not.  So this is said as a relation, and whatever follows for a resolved document is proved by
induction over how it was built.

## Main Definitions

* `Strips`: a document has lost some of the keys that name its sources.
* `Built`: how a resolved document comes out of its sources.
* `Honest`: what is remembered for the descriptors of a store has been built from them.
* `FromStore`: the contexts that come from a store.

## Main Statements

* `resolve_built`: what is resolved is built.
-/

namespace DispatchTables

/-! ### Built from sources -/

/-- A document has lost nothing but some of the keys that name its sources. -/
structure Strips (doc own : Members) : Prop where
  sublist : own.Sublist doc
  get? : ∀ key, key ∉ inheritanceKeys → own.get? key = doc.get? key

/-- **How a resolved document comes out of its sources**, each of them a descriptor of the store
with what it has been resolved to: they are laid over one another, the document itself is laid over
them, and its components in place are resolved.  The log tells of each source what went into it and
then its key. -/
inductive Built (files : FileTree) (s : Store) : Descriptor → Resolved → Prop where
  | laid {d : Descriptor} {own doc : Members} {log : List String}
      (sources : List (Descriptor × Resolved)) :
      (∀ source ∈ sources, s.Holds files source.1) →
      (∀ source ∈ sources, Built files s source.1 source.2) →
      Strips d.doc own →
      InPlace (merge (layeredOn [] (sources.map (·.2))) own) doc →
      log = logOf (sources.map (·.2)) →
      Built files s d ⟨d.key, d.path, d.kind, withLog doc log, log⟩

variable {files : FileTree} {s : Store} {d e : Descriptor} {r : Resolved} {doc own : Members}
  {c c' : Context} {resolve : ParentResolver}

theorem Strips.refl (doc : Members) : Strips doc doc := ⟨List.Sublist.refl _, fun _ _ => rfl⟩

theorem Strips.erase {key : String} (h : Strips doc own) (names : key ∈ inheritanceKeys) :
    Strips doc (own.erase key) where
  sublist := List.filter_sublist.trans h.sublist
  get? other passed := by
    rw [Members.get?_erase, if_neg fun same : key = other => passed (same ▸ names),
      h.get? other passed]

theorem Strips.nodup (h : Strips doc own) (distinct : doc.keys.Nodup) : own.keys.Nodup :=
  distinct.sublist (h.sublist.map _)

theorem Built.key (h : Built files s d r) : r.key = d.key := by
  cases h
  rfl

theorem Built.kind (h : Built files s d r) : r.kind = d.kind := by
  cases h
  rfl

/-- A document that is laid over nothing is built of itself. -/
theorem built_alone (distinct : d.doc.keys.Nodup) :
    Built files s d ⟨d.key, d.path, d.kind, d.doc, []⟩ := by
  have alone : InPlace (merge (layeredOn [] []) d.doc) d.doc := by
    have laid : merge [] d.doc = d.doc := merge_of_disjoint distinct
    rw [layeredOn, List.foldl_nil, laid]
    exact .refl _
  exact .laid [] (List.forall_mem_nil _) (List.forall_mem_nil _) (.refl _) alone rfl

/-! ### Contexts -/

/-- **What is remembered tells the truth**: what is known of a descriptor of the store has been
built from it. -/
structure Honest (files : FileTree) (s : Store) (c : Context) : Prop where
  faithful : s.Faithful files
  grown : Store.Grows files s c.store
  memo : ∀ d r, s.Holds files d → c.resolver.memo.get? d.key = some r → Built files s d r

theorem Honest.grows (h : Honest files s c) (grown : Store.Grows files c.store c'.store)
    (same : c'.resolver.memo = c.resolver.memo) : Honest files s c' where
  faithful := h.faithful
  grown := h.grown.trans grown
  memo d r held found := h.memo d r held (same ▸ found)

theorem Honest.warn (h : Honest files s c) (w : Diagnostic) : Honest files s (c.warnResolver w) :=
  h.grows (Store.Grows.refl files _) rfl

theorem Honest.noteCut (h : Honest files s c) (place : Nat) : Honest files s (c.noteCut place) :=
  h.grows (Store.Grows.refl files _) rfl

theorem Honest.absorb (h : Honest files s c) : Honest files s c.absorb :=
  h.grows (Store.takeWarnings_grows files _) rfl

theorem Honest.load (h : Honest files s c) (reference : String) :
    (c.loadForResolver files reference).1 = s.readReference files reference ∧
      Honest files s (c.loadForResolver files reference).2 := by
  obtain ⟨read, grown, same⟩ := loadForResolver_reads h.faithful h.grown reference
  exact ⟨read, h.grows grown same.memo⟩

/-- What has been built from a descriptor may be remembered for it, and so may anything under a key
that no file has. -/
theorem Honest.remember (h : Honest files s c) (depth : Nat) (built : Built files s d r)
    (owns : s.Holds files d ∨ s.index.get? d.key = none) :
    Honest files s (c.remember depth r) := by
  have kept : Honest files s
      { c with resolver := { c.resolver with memo := c.resolver.memo.insert r.key r } } := by
    refine ⟨h.faithful, h.grown, ?_⟩
    intro e r' held found
    rw [KeyMap.get?_insert] at found
    split at found
    · rename_i own
      rw [built.key] at own
      cases found
      rcases owns with owner | nobody
      · obtain rfl := owner.unique held own
        exact built
      · obtain ⟨path, indexed, -⟩ := held
        rw [← own, nobody] at indexed
        cases indexed
    · exact h.memo e r' held found
  unfold Context.remember
  split
  · split
    · exact h
    · split
      · exact h.grows (Store.Grows.refl files _) rfl
      · exact kept
  · exact kept

/-! ### Laying sources -/

/-- What applying some references does to the layers: sources that have been built are laid over
them, in order. -/
inductive Lifts (files : FileTree) (s : Store) (layers layers' : Layers) : Prop where
  | adding (sources : List (Descriptor × Resolved))
      (held : ∀ source ∈ sources, s.Holds files source.1)
      (built : ∀ source ∈ sources, Built files s source.1 source.2)
      (merged : layers'.merged = layeredOn layers.merged (sources.map (·.2)))
      (log : layers'.log = layers.log ++ logOf (sources.map (·.2)))
      (honest : Honest files s layers'.context)

variable {layers layers' layers'' : Layers}

/-- Nothing is laid where only the context changes. -/
theorem Lifts.of_context (kept : Honest files s c) :
    Lifts files s layers { layers with context := c } :=
  .adding [] (List.forall_mem_nil _) (List.forall_mem_nil _) rfl (by simp [logOf]) kept

theorem Lifts.refl (honest : Honest files s layers.context) : Lifts files s layers layers :=
  .of_context honest

theorem Lifts.honest (h : Lifts files s layers layers') : Honest files s layers'.context := by
  cases h
  assumption

theorem Lifts.trans (h₁ : Lifts files s layers layers') (h₂ : Lifts files s layers' layers'') :
    Lifts files s layers layers'' := by
  obtain ⟨first, held, built, merged, log, -⟩ := h₁
  obtain ⟨second, held', built', merged', log', honest⟩ := h₂
  refine .adding (first ++ second) ?_ ?_ ?_ ?_ honest
  · intro source mem
    exact (List.mem_append.mp mem).elim (held source) (held' source)
  · intro source mem
    exact (List.mem_append.mp mem).elim (built source) (built' source)
  · rw [merged', merged, List.map_append, layeredOn, layeredOn, layeredOn, List.foldl_append]
  · rw [log', log, List.map_append, logOf, logOf, logOf, List.flatMap_append, List.append_assoc]

/-- A resolver of parents builds what it gives, and keeps contexts honest. -/
def ParentResolver.Builds (files : FileTree) (s : Store) (resolve : ParentResolver) : Prop :=
  ∀ path d c, s.Holds files d → Honest files s c →
    Built files s d (resolve path d c).1 ∧ Honest files s (resolve path d c).2

theorem resolveParent_lifts (builds : resolve.Builds files s) (path : List String)
    (child reference : String) (honest : Honest files s c) :
    Honest files s (resolveParent files resolve path child reference c).2 ∧
      ∀ r, (resolveParent files resolve path child reference c).1 = some r →
        ∃ parent, s.Holds files parent ∧ Built files s parent r := by
  obtain ⟨read, loaded⟩ := honest.load reference
  unfold resolveParent
  generalize c.loadForResolver files reference = out at read loaded
  obtain ⟨found, c₁⟩ := out
  dsimp only at read loaded
  cases found with
  | error e => exact ⟨loaded.warn _, nofun⟩
  | ok parent =>
    dsimp only
    have held : s.Holds files parent := Store.holds_of_readReference read.symm
    cases path.idxOf? parent.key with
    | some place => exact ⟨(loaded.noteCut place).warn _, nofun⟩
    | none =>
      obtain ⟨built, kept⟩ := builds path parent c₁ held loaded
      refine ⟨kept, ?_⟩
      rintro r ⟨⟩
      exact ⟨parent, held, built⟩

theorem applySources_lifts (builds : resolve.Builds files s) (path : List String)
    (child : String) (references : List String) (layers : Layers)
    (honest : Honest files s layers.context) :
    Lifts files s layers (applySources files resolve path child references layers).2 := by
  induction references generalizing layers with
  | nil => exact .refl honest
  | cons reference rest ih =>
    obtain ⟨kept, built⟩ := resolveParent_lifts builds path child reference honest
    unfold applySources
    generalize resolveParent files resolve path child reference layers.context = out at kept built
    obtain ⟨found, c₁⟩ := out
    dsimp only at kept built
    cases found with
    | none =>
      exact (Lifts.of_context kept).trans (ih _ kept)
    | some r =>
      obtain ⟨parent, held, built⟩ := built r rfl
      have here : Lifts files s layers {
          merged := merge layers.merged (inheritable r.doc)
          log := layers.log ++ r.log ++ [r.key]
          context := c₁ } :=
        .adding [(parent, r)] (by simpa using held) (by simpa using built) rfl
          (by simp [logOf]) kept
      exact here.trans (ih _ here.honest)

theorem applyKeys_lifts (builds : resolve.Builds files s) (path : List String) (child : String)
    {keys : List String} (names : ∀ key ∈ keys, key ∈ inheritanceKeys) {own : Members}
    (strips : Strips doc own) (layers : Layers) (honest : Honest files s layers.context) :
    Strips doc (applyKeys files resolve path child keys own layers).1 ∧
      Lifts files s layers (applyKeys files resolve path child keys own layers).2 := by
  induction keys generalizing own layers with
  | nil => exact ⟨strips, .refl honest⟩
  | cons key rest ih =>
    have later := fun other mem => names other (List.mem_cons_of_mem _ mem)
    unfold applyKeys
    cases own.get? key with
    | none => exact ih later strips layers honest
    | some value =>
      dsimp only
      cases references? value with
      | none =>
        obtain ⟨left, lifts⟩ := ih later strips
          { layers with context := layers.context.warnResolver _ } (honest.warn _)
        exact ⟨left, (Lifts.of_context (honest.warn _)).trans lifts⟩
      | some references =>
        have here := applySources_lifts builds path child references layers honest
        have stripped : Strips doc
            (if (applySources files resolve path child references layers).1 then own.erase key
              else own) := by
          split
          · exact strips.erase (names key List.mem_cons_self)
          · exact strips
        obtain ⟨left, lifts⟩ := ih later stripped _ here.honest
        exact ⟨left, here.trans lifts⟩

/-! ### Resolving -/

/-- A document is built, given that its parents are; so are the components in it, at any depth. -/
theorem resolveDocument_built (builds : resolve.Builds files s) (nesting : Nat)
    (path : List String) (d : Descriptor) (honest : Honest files s c) :
    Built files s d (resolveDocument files resolve nesting path d c).1 ∧
      Honest files s (resolveDocument files resolve nesting path d c).2 := by
  have start : Honest files s (Layers.context { context := c }) := honest
  constructor
  · obtain ⟨own, layers, doc, laid, inPlace, resolved⟩ :=
      resolveDocument_inPlace files resolve nesting path d c
    obtain ⟨strips, lifts⟩ := applyKeys_lifts builds (path ++ [d.key]) d.key
      (fun key names => names) (.refl d.doc) { context := c } start
    rw [laid] at strips lifts
    obtain ⟨sources, held, built, merged, log, -⟩ := lifts
    rw [merged] at inPlace
    rw [resolved]
    exact .laid sources held built strips inPlace log
  · induction nesting generalizing path d c with
    | zero =>
      unfold resolveDocument
      exact (applyKeys_lifts builds _ d.key (fun key names => names) (.refl d.doc) _ start).2.honest
    | succ nesting ih =>
      unfold resolveDocument
      dsimp only
      refine resolveLists_keeps (P := Honest files s) ?_ _ _ _
        (applyKeys_lifts builds _ d.key (fun key names => names) (.refl d.doc) _ start).2.honest
      intro key doc c honest
      exact ih _ _ honest honest

theorem resolveAt_builds (files : FileTree) (s : Store) (nesting budget : Nat) :
    (resolveAt files nesting budget).Builds files s := by
  induction budget with
  | zero => exact fun path d c held honest => ⟨built_alone held.distinct, honest⟩
  | succ budget ih =>
    intro path d c held honest
    unfold resolveAt
    split
    · rename_i r known
      exact ⟨honest.memo d r held known, honest⟩
    · obtain ⟨built, kept⟩ := resolveDocument_built ih nesting path d honest
      exact ⟨built, kept.remember path.length built (.inl held)⟩

/-- What is not remembered is built anew. -/
theorem resolveAnew_built (honest : Honest files s c) :
    Built files s d (c.resolveAnew files d).1 ∧ Honest files s (c.resolveAnew files d).2 :=
  resolveDocument_built (resolveAt_builds files s _ _) _ [] d honest

/-- **The contexts that come from a store**: nothing is remembered at first; then, in any order,
descriptors are loaded and reports are made, or something is resolved, be it a descriptor of the
store or a component in place under a key that no file has. -/
inductive FromStore (files : FileTree) (s : Store) : Context → Prop where
  | opened {c : Context} : s.Faithful files → Store.Grows files s c.store →
      c.resolver.memo = .empty → FromStore files s c
  | loaded {c c' : Context} : FromStore files s c → Store.Grows files c.store c'.store →
      c'.resolver.memo = c.resolver.memo → FromStore files s c'
  | resolved {c : Context} {d : Descriptor} : FromStore files s c →
      s.Holds files d ∨ s.index.get? d.key = none → FromStore files s (c.resolve files d).2

/-- What is not remembered, or is remembered for a descriptor of the store, is built. -/
theorem Honest.resolve_built (honest : Honest files s c)
    (known : s.Holds files d ∨ c.resolver.memo.get? d.key = none) :
    Built files s d (c.resolve files d).1 := by
  cases remembered : c.resolver.memo.get? d.key with
  | none =>
    rw [resolve_of_none remembered]
    exact (resolveAnew_built honest).1
  | some r =>
    rcases known with held | unknown
    · rw [resolve_again files remembered]
      exact honest.memo d r held remembered
    · rw [remembered] at unknown
      cases unknown

theorem Honest.resolved (honest : Honest files s c)
    (owns : s.Holds files d ∨ s.index.get? d.key = none) :
    Honest files s (c.resolve files d).2 := by
  cases remembered : c.resolver.memo.get? d.key with
  | none =>
    obtain ⟨built, kept⟩ := resolveAnew_built (d := d) honest
    rw [resolve_of_none remembered]
    exact (kept.remember 0 built owns).absorb
  | some r =>
    rw [resolve_again files remembered]
    exact honest.absorb

/-- A store just opened has resolved nothing. -/
theorem fromStore_ofStore {root : String} (opened : Store.ofDirectory files root = .ok s) :
    FromStore files s (.ofStore s) :=
  .opened (Store.ofDirectory_faithful opened) (Store.takeWarnings_grows files s) rfl

theorem FromStore.honest (h : FromStore files s c) : Honest files s c := by
  induction h with
  | opened faithful grown nothing =>
    refine ⟨faithful, grown, ?_⟩
    intro d r _ found
    rw [nothing] at found
    cases found
  | loaded _ grown same ih => exact ih.grows grown same
  | resolved _ owns ih => exact ih.resolved owns

/-- **What is resolved is built** from descriptors of the store. -/
theorem resolve_built (h : FromStore files s c)
    (known : s.Holds files d ∨ c.resolver.memo.get? d.key = none) :
    Built files s d (c.resolve files d).1 :=
  h.honest.resolve_built known

end DispatchTables
