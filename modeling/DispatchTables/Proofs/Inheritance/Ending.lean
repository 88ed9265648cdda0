import DispatchTables.Proofs.Inheritance.Placed
import DispatchTables.Proofs.Inheritance.Standing
import DispatchTables.Proofs.Inheritance.Twins
import DispatchTables.Proofs.Store.History

/-!
# The steps of the resolver come to an end

The resolver is a recursion within bounds, and its steps know of none.  Where no object in a
component list names sources, the steps do what the recursion does: this is proved for whatever
waits below, by induction on the bound of the recursion.  That the bound is enough is due to the
stack, which has each key once, so that with each document one more key of the store is used up.

## Main Definitions

* `Resolver.Follows`: the steps do for a source what the recursion does.
* `Context.Halts`: a call comes to an end, with what the resolver says.
* `Session`: the contexts that come from a store in use.

## Main Statements

* `Resolver.reaches_resolveAt`: the steps do what the recursion does.
* `Context.Ready.halts`: every call comes to an end.
* `resolver_halts`: so it does in every session, and nothing is left on the stack or cut.
-/

namespace DispatchTables

variable {files : FileTree} {s : Store} {c : Context} {d : Descriptor}
  {Own Below : Members → Prop} {among : List String}

namespace Resolver

/-! ### The steps do what the recursion does -/

/-- The innermost document, loaded from a file, is at a stage. -/
def Configuration.working (path : List String) (d : Descriptor) (rest : List Frame) (stage : Stage)
    (c : Context) : Configuration :=
  ⟨path, c, ⟨d, false, stage⟩ :: rest, .proceed⟩

/-- What was asked for is there. -/
def Configuration.answered (path : List String) (frames : List Frame) (out : Resolved × Context) :
    Configuration :=
  ⟨path, out.2, frames, .answer out.1⟩

open DispatchTables.Resolver.Configuration

variable {path left : List String} {rest : List Frame} {resolve : ParentResolver} {own : Members}
  {key : String}

/-- The steps do for what is asked for on a path what a resolver does, whatever waits for it. -/
def Follows (files : FileTree) (Own Below : Members → Prop) (s : Store) (among path : List String)
    (resolve : ParentResolver) : Prop :=
  ∀ {frames c d}, Stands files Own Below s among ⟨path, c, frames, .ask d⟩ →
    Reaches files ⟨path, c, frames, .ask d⟩ (answered path frames (resolve path d c))

/-- The innermost document is gone on with. -/
theorem next_working (files : FileTree) (path : List String) (d : Descriptor) (rest : List Frame)
    (stage : Stage) (c : Context) :
    Next files (working path d rest stage c)
      ((working path d rest stage c).proceed files ⟨d, false, stage⟩ rest) := by
  unfold Next step working
  rfl

/-- **The sources under a key are laid over one another.** -/
theorem reaches_applySources (laying : Layering Own Below) (within : s.keys ⊆ among)
    (follows : Follows files Own Below s among path resolve) (references : List String)
    (complete : Bool) (layers : Layers)
    (h : (working path d rest
      (.sources references complete key left ⟨own, layers.merged, layers.log⟩)
      layers.context).Stands files Own Below s among) :
    let out := applySources files resolve path d.key references layers
    Reaches files
      (working path d rest (.sources references complete key left ⟨own, layers.merged, layers.log⟩)
        layers.context)
      (working path d rest (.sources [] (complete && out.1) key left ⟨own, out.2.merged, out.2.log⟩)
        out.2.context) := by
  induction references generalizing complete layers with
  | nil =>
    dsimp only [applySources]
    rw [Bool.and_true]
    exact .refl
  | cons reference references ih =>
    -- the steps up to the next reference, then the others
    have onward {complete' : Bool} (layers' : Layers)
        (reached : Reaches files
          (working path d rest
            (.sources (reference :: references) complete key left ⟨own, layers.merged, layers.log⟩)
            layers.context)
          (working path d rest
            (.sources references complete' key left ⟨own, layers'.merged, layers'.log⟩)
            layers'.context)) :=
      reached.trans (ih complete' layers' (h.along laying within reached))
    have first := next_working files path d rest
      (.sources (reference :: references) complete key left ⟨own, layers.merged, layers.log⟩)
      layers.context
    have stands := h.step laying within first
    unfold applySources resolveParent
    dsimp only [working, proceed, seek] at first stands
    generalize layers.context.loadForResolver files reference = out at first stands ⊢
    obtain ⟨found, c⟩ := out
    cases found with
    | error e =>
      dsimp only
      rw [Bool.and_false]
      exact onward { layers with context := c.warnResolver (leftUnresolved d.key reference e) }
        (.single first)
    | ok parent =>
      dsimp only at first stands ⊢
      cases placed : path.idxOf? parent.key with
      | some place =>
        rw [placed] at first
        dsimp only
        rw [Bool.and_false]
        let noted := (c.noteCut place).warnResolver (cycleSkipped path d.key parent.key)
        exact onward { layers with context := noted } (.single first)
      | none =>
        rw [placed] at first stands
        have asked := Relation.ReflTransGen.head first (follows stands)
        exact onward ⟨_, _, _⟩ (asked.tail rfl)

/-- **The inheritance keys are applied in turn.** -/
theorem reaches_applyKeys (laying : Layering Own Below) (within : s.keys ⊆ among)
    (follows : Follows files Own Below s among path resolve) (keys : List String) (own : Members)
    (layers : Layers)
    (h : (working path d rest (.keys keys ⟨own, layers.merged, layers.log⟩)
      layers.context).Stands files Own Below s among) :
    let out := applyKeys files resolve path d.key keys own layers
    Reaches files
      (working path d rest (.keys keys ⟨own, layers.merged, layers.log⟩) layers.context)
      (working path d rest (.keys [] ⟨out.1, out.2.merged, out.2.log⟩) out.2.context) := by
  induction keys generalizing own layers with
  | nil =>
    dsimp only [applyKeys]
    exact .refl
  | cons key keys ih =>
    -- the steps up to the next key, then the others
    have onward {own' : Members} (layers' : Layers)
        (reached : Reaches files
          (working path d rest (.keys (key :: keys) ⟨own, layers.merged, layers.log⟩)
            layers.context)
          (working path d rest (.keys keys ⟨own', layers'.merged, layers'.log⟩) layers'.context)) :=
      reached.trans (ih own' layers' (h.along laying within reached))
    have first := next_working files path d rest
      (.keys (key :: keys) ⟨own, layers.merged, layers.log⟩) layers.context
    have stands := h.step laying within first
    unfold applyKeys
    dsimp only [working, proceed] at first stands
    cases written : own.get? key with
    | none =>
      rw [written] at first
      exact onward layers (.single first)
    | some value =>
      rw [written] at first stands
      dsimp only at first stands ⊢
      cases named : references? value with
      | none =>
        rw [named] at first
        let warned := layers.context.warnResolver (sourcesMalformed d.key key)
        exact onward { layers with context := warned } (.single first)
      | some references =>
        rw [named] at first stands
        have applied := reaches_applySources laying within follows references true layers stands
        dsimp only at applied ⊢
        rw [Bool.true_and] at applied
        generalize applySources files resolve path d.key references layers = out at applied ⊢
        obtain ⟨complete, layers'⟩ := out
        exact onward layers' ((applied.tail (next_working files path d rest _ _)).head first)

/-- Components in place that name no sources stay where they are. -/
theorem reaches_items {items : List Json} (done : List Json) {doc : Members} {log : List String}
    (plain : items.all plainItem = true) :
    Reaches files (working path d rest (.items done items key left doc log) c)
      (working path d rest (.items (done ++ items) [] key left doc log) c) := by
  induction items generalizing done with
  | nil =>
    rw [List.append_nil]
    exact .refl
  | cons item items ih =>
    rw [List.all_cons, Bool.and_eq_true] at plain
    have onward := ih (done ++ [item]) plain.2
    rw [List.append_assoc, List.singleton_append] at onward
    have first := next_working files path d rest (.items done (item :: items) key left doc log) c
    dsimp only [working, proceed] at first
    refine onward.head ?_
    cases item with
    | object inner =>
      have own : inherits inner = false := by simpa [plainItem] using plain.1
      simp only [own] at first
      exact first
    | _ => exact first

/-- So the lists of a plain document stay what they are. -/
theorem reaches_lists {keys : List String} {doc : Members} {log : List String}
    (plain : plainLists doc = true) (lists : ∀ key ∈ keys, key ∈ componentListKeys) :
    Reaches files (working path d rest (.lists keys doc log) c)
      (working path d rest (.lists [] doc log) c) := by
  induction keys with
  | nil => exact .refl
  | cons key keys ih =>
    have later := ih fun other mem => lists other (List.mem_cons_of_mem _ mem)
    have first := next_working files path d rest (.lists (key :: keys) doc log) c
    dsimp only [working, proceed] at first
    cases found : doc.get? key with
    | none =>
      rw [found] at first
      exact later.head first
    | some value =>
      rw [found] at first
      cases value with
      | array items =>
        have listed : plainValue (.array items) = true :=
          plainLists_iff.mp plain _ (Members.mem_of_get? found) (lists key List.mem_cons_self)
        have last := next_working files path d rest (.items items [] key keys doc log) c
        dsimp only [working, proceed] at last
        rw [Members.insert_of_get? found] at last
        exact (((reaches_items [] listed).tail last).trans later).head first
      | _ => exact later.head first

/-- **A document is begun with, laid over its sources, and left.** -/
theorem reaches_resolveDocument (laying : Layering Own Below) (within : s.keys ⊆ among)
    (follows : Follows files Own Below s among (path ++ [d.key]) resolve) (nesting : Nat)
    (h : (enter ⟨path, c, rest, .ask d⟩ d false).Stands files Own Below s among) :
    let out := resolveDocument files resolve nesting path d c
    Reaches files (enter ⟨path, c, rest, .ask d⟩ d false)
      (answered path rest (out.1, out.2.remember path.length out.1)) := by
  have applied := reaches_applyKeys laying within follows inheritanceKeys d.doc { context := c } h
  have laid := h.along laying within applied
  unfold resolveDocument
  dsimp only at applied laid ⊢
  generalize applyKeys files resolve (path ++ [d.key]) d.key inheritanceKeys d.doc { context := c }
    = out at applied laid ⊢
  obtain ⟨own, layers⟩ := out
  dsimp only at applied laid ⊢
  -- plain members over plain sources are plain, so nothing is resolved in place
  have plain : plainLists (merge layers.merged own) = true := by
    cases (laid.frames _ List.mem_cons_self).2 with
    | keys _ fits => exact laying.plain (laying.cover fits.merged fits.own)
  have toLists := next_working files (path ++ [d.key]) d rest
    (.keys [] ⟨own, layers.merged, layers.log⟩) layers.context
  have left := next_working files (path ++ [d.key]) d rest
    (.lists [] (merge layers.merged own) layers.log) layers.context
  dsimp only [working, proceed, Configuration.leave] at left
  rw [List.dropLast_concat] at left
  have last := ((applied.tail toLists).trans (reaches_lists plain fun key mem => mem)).tail left
  cases nesting with
  | zero => exact last
  | succ nesting =>
    dsimp only
    rw [resolveLists_plain plain fun key mem => mem]
    exact last

/-- **The steps do what the recursion does**, as long as its bound is larger than the number of keys
that are not used up. -/
theorem reaches_resolveAt (laying : Layering Own Below) (within : s.keys ⊆ among)
    (nesting budget : Nat) {frames : List Frame}
    (room : (among.filter fun key => !(path ++ [d.key]).contains key).length < budget)
    (h : Stands files Own Below s among ⟨path, c, frames, .ask d⟩) :
    Reaches files ⟨path, c, frames, .ask d⟩
      (answered path frames (resolveAt files nesting budget path d c)) := by
  induction budget generalizing path d c frames with
  | zero => exact absurd room (Nat.not_lt_zero _)
  | succ budget ih =>
    unfold resolveAt
    cases known : c.resolver.memo.get? d.key with
    | some r =>
      have first : Next files ⟨path, c, frames, .ask d⟩ ⟨path, c, frames, .answer r⟩ := by
        unfold Next step
        dsimp only
        rw [known]
        rfl
      exact .single first
    | none =>
      have first : Next files ⟨path, c, frames, .ask d⟩
          (enter ⟨path, c, frames, .ask d⟩ d false) := by
        unfold Next step
        dsimp only
        rw [known]
        rfl
      have follows : Follows files Own Below s among (path ++ [d.key])
          (resolveAt files nesting budget) := by
        intro frames' c' e asked
        refine ih ?_ asked
        cases asked.control with
        | ask _ mem offStack _ =>
          have := @length_filter_append_lt _ _ id (path ++ [d.key]) _ mem offStack
          dsimp only [id] at this
          omega
      exact (reaches_resolveDocument laying within follows nesting
        (h.step laying within first)).head first

end Resolver

open Resolver Resolver.Configuration

/-! ### Calls from outside -/

/-- What is resolved is what the recursion within its bounds comes to. -/
theorem resolve_eq (files : FileTree) (c : Context) (d : Descriptor) :
    c.resolve files d =
      ((resolveAt files c.nestingBound (c.store.size + 1) [] d c).1,
        (resolveAt files c.nestingBound (c.store.size + 1) [] d c).2.absorb) := rfl

/-- **A call comes to an end**, with what the resolver says. -/
structure Context.Halts (files : FileTree) (c : Context) (d : Descriptor) (last : Configuration) :
    Prop where
  ends : last ∈ StateTransition.eval (step files) (.call c d)
  answer : last.control = .answer (c.resolve files d).1
  leaves : last.context.absorb = (c.resolve files d).2

/-- The keys that may come onto the stack: those of the store, and the one that is asked for. -/
abbrev Context.keysWith (c : Context) (d : Descriptor) : List String := d.key :: c.store.keys

theorem Context.Ready.stands (ready : c.Ready files Own c.store) (uncut : c.resolver.cut = none)
    (own : Own d.doc) : (call c d).Stands files Own Below c.store (c.keysWith d) :=
  stands_call ready uncut own List.mem_cons_self

/-- **Every call comes to an end**: there are fewer documents in a store than the bound of the
recursion. -/
theorem Context.Ready.halts (laying : Layering Own Below) (ready : c.Ready files Own c.store)
    (uncut : c.resolver.cut = none) (own : Own d.doc) :
    c.Halts files d
      (answered [] [] (resolveAt files c.nestingBound (c.store.size + 1) [] d c)) where
  ends := by
    have room := @length_filter_append_lt _ (c.keysWith d) id [] _ List.mem_cons_self nofun
    have counted : c.store.keys.length = c.store.size := List.length_map ..
    refine StateTransition.mem_eval.mpr ⟨?_, rfl⟩
    refine reaches_resolveAt laying (List.subset_cons_self ..) _ _ ?_ (ready.stands uncut own)
    simp only [id, List.contains_nil, Bool.not_false, List.filter_true, List.length_cons,
      counted] at room
    exact room
  answer := by rw [resolve_eq]; rfl
  leaves := by rw [resolve_eq]; rfl

/-- **After a call** what is remembered is ready for the next one, no cut is open, and what has been
resolved has the property that documents have. -/
theorem Context.Ready.resolve (laying : Layering Own Below) (ready : c.Ready files Own c.store)
    (uncut : c.resolver.cut = none) (own : Own d.doc) :
    (c.resolve files d).2.Ready files Own c.store ∧ (c.resolve files d).2.resolver.cut = none ∧
      Own (c.resolve files d).1.doc := by
  have halts := ready.halts laying uncut own
  obtain ⟨reached, ended⟩ := StateTransition.mem_eval.mp halts.ends
  have stands := (ready.stands uncut own).along laying (List.subset_cons_self ..) reached
  rw [← halts.leaves]
  exact stands.ended halts.answer ended

/-! ### Sessions -/

/-- **No component in place in a document names sources**, at any depth. -/
def PlainWithin (doc : Members) : Prop :=
  plainLists doc = true ∧ ∀ x ∈ componentsIn doc, plainLists x = true

/-- **The contexts of a store in use**: it is opened, and then, in any order, it is asked for
anything, reports are made and taken, and descriptors that it holds or that stand in place in
documents are resolved. -/
inductive Session (files : FileTree) : Context → Prop where
  | opened {root : String} {s : Store} : Store.ofDirectory files root = .ok s →
      Session files (.ofStore s)
  | asked {c c' : Context} (request : Store.Request) : Session files c →
      c'.store = request.after files c.store → SameMemory c c' → Session files c'
  | reported {c c' : Context} : Session files c → c'.store = c.store → SameMemory c c' →
      Session files c'
  | resolved {c : Context} {d : Descriptor} : Session files c → c.store.Holds files d →
      Session files (c.resolve files d).2
  | placed {c : Context} {d : Descriptor} : Session files c →
      (Json.object d.doc).wellKeyed = true → PlainWithin d.doc →
      Session files (c.resolve files d).2

/-- What a store holds it holds after it has been asked something. -/
theorem Store.Advances.holds {t : Store} (h : Store.Advances files s t) (held : s.Holds files d) :
    t.Holds files d := by
  obtain ⟨path, found, read⟩ := held
  exact ⟨path, h.indexed found, read⟩

theorem Store.Advances.faithful {t : Store} (h : Store.Advances files s t)
    (faithful : s.Faithful files) : t.Faithful files := by
  intro key d cached
  rcases h.gained cached with old | ⟨path, found, read⟩
  · obtain ⟨same, held⟩ := faithful key d old
    exact ⟨same, h.holds held⟩
  · obtain rfl := readDescriptor_key read
    exact ⟨rfl, path, found, read⟩

/-- What a store has after reading files it had before. -/
theorem Store.Grows.holds_iff {t : Store} (h : Store.Grows files s t) :
    t.Holds files d ↔ s.Holds files d := by
  unfold Store.Holds
  rw [h.index]

/-- A store just opened holds what it holds in the context that is made of it. -/
theorem holds_ofStore : (Context.ofStore s).store.Holds files d ↔ s.Holds files d :=
  (Store.takeWarnings_grows files s).holds_iff

/-- What a context has read and remembers can be said of its own store. -/
theorem Context.Ready.rebase (h : c.Ready files Own s) : c.Ready files Own c.store where
  held e held := h.held e (h.grown.holds_iff.mp held)
  faithful := h.faithful.grows h.grown
  grown := Store.Grows.refl files _
  memo := h.memo

/-- **In a session all is ready for the next call, and no cut is open.** -/
theorem Session.ready (laying : Layering Own Below)
    (inPlace : ∀ {doc}, (Json.object doc).wellKeyed = true → PlainWithin doc → Own doc)
    (session : Session files c) (held : ∀ e, c.store.Holds files e → Own e.doc) :
    c.Ready files Own c.store ∧ c.resolver.cut = none := by
  induction session with
  | @opened root s opened =>
    exact ⟨⟨held, (Store.ofDirectory_faithful opened).grows (Store.takeWarnings_grows files s),
      Store.Grows.refl files _, nofun⟩, rfl⟩
  | @asked c c' request _ after same ih =>
    have advances := request.advances files c.store
    rw [← after] at advances
    obtain ⟨ready, uncut⟩ := ih fun e he => held e (advances.holds he)
    exact ⟨⟨held, advances.faithful ready.faithful, Store.Grows.refl files _,
      fun found => ready.memo (same.memo ▸ found)⟩, same.cut.trans uncut⟩
  | reported _ store same ih =>
    obtain ⟨ready, uncut⟩ := ih (store ▸ held)
    exact ⟨(ready.same store same.memo).rebase, same.cut.trans uncut⟩
  | @resolved c d _ there ih =>
    have grown := (resolve_onward files c d).grown
    obtain ⟨ready, uncut⟩ := ih fun e he => held e (grown.holds_iff.mpr he)
    have own : Own d.doc := held d (grown.holds_iff.mpr there)
    obtain ⟨after, uncut, -⟩ := ready.resolve laying uncut own
    exact ⟨after.rebase, uncut⟩
  | @placed c d _ keyed plain ih =>
    have grown := (resolve_onward files c d).grown
    obtain ⟨ready, uncut⟩ := ih fun e he => held e (grown.holds_iff.mpr he)
    obtain ⟨after, uncut, -⟩ := ready.resolve laying uncut (inPlace keyed plain)
    exact ⟨after.rebase, uncut⟩

/-- **What is true of the bookkeeping between two steps**: the stack holds keys of files, each of
them once, and an open cut goes back to a place on it. -/
structure Resolver.Configuration.WellPlaced (m : Configuration) : Prop where
  distinct : m.stack.Nodup
  indexed : m.stack ⊆ m.context.store.keys
  cut : ∀ place, m.context.resolver.cut = some place → place < m.stack.length

/-- **The resolver comes to an end.**  In a store where no component in place names sources, however
its files build on one another, a call for a descriptor of a file ends, with what the resolver says;
whatever the steps come to on the way, there are distinct keys of files on the stack and a cut goes
back to one of them; and in the end the stack is empty and no cut is open, as none was
before. -/
theorem resolver_halts (session : Session files c)
    (plain : ∀ e, c.store.Holds files e → plainLists e.doc = true)
    (held : c.store.Holds files d) :
    c.resolver.cut = none ∧
      ∃ last, c.Halts files d last ∧ last.stack = [] ∧ last.context.resolver.cut = none ∧
        ∀ m, Reaches files (.call c d) m → m.WellPlaced := by
  have laying := layering_plain
  obtain ⟨ready, uncut⟩ := session.ready laying (fun _ plain => plain.1) plain
  have own := plain d held
  have halts := ready.halts laying uncut own
  have within : c.store.keys ⊆ c.keysWith d := List.subset_cons_self ..
  refine ⟨uncut, _, halts, rfl, ?_, ?_⟩
  · exact (ready.resolve laying uncut own).2.1
  · intro m reached
    have stands := (ready.stands uncut own).along laying within reached
    have indexed : m.stack ⊆ m.context.store.keys := by
      rw [Store.keys, stands.context.grown.index]
      intro key mem
      rcases List.mem_cons.mp (stands.within mem) with rfl | filed
      · exact held.mem_keys
      · exact filed
    exact ⟨stands.distinct, indexed, stands.cut⟩

theorem resolver_halts_cyclicTemplates :
    let c := Context.ofStore cyclicStore
    let d := cyclicStore.descriptorAt cyclicTemplates "c"
    (c.resolver.cut = none ∧
      ∃ last, c.Halts cyclicTemplates d last ∧ last.stack = [] ∧
        last.context.resolver.cut = none ∧
        ∀ m, Reaches cyclicTemplates (.call c d) m → m.WellPlaced) ∧
      (c.resolve cyclicTemplates d).1.log = ["a", "b", "b", "a"] :=
  ⟨resolver_halts (.opened ofDirectory_cyclicTemplates)
    (fun e held => plain_cyclicTemplates e (holds_ofStore.mp held))
    (holds_ofStore.mpr (Store.holds_descriptorAt (by decide +kernel))), by decide +kernel⟩

end DispatchTables
