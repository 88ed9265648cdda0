import DispatchTables.Proofs.Inheritance.Machine
import DispatchTables.Proofs.Inheritance.Memory

/-!
# What is true between the steps of the resolver

Where no object in a component list names sources there is nothing to resolve in place, so each
document on the stack waits for a source, which is a file that is not on the stack.  From this all
else follows: the stack holds each key once, and a cut goes back to one of its places.

## Main Definitions

* `Layering`: properties of documents that are kept when documents are laid over one another.
* `Context.Ready`: what a context has read and remembers has such a property.
* `Resolver.Configuration.Stands`: what is true of a configuration.

## Main Statements

* `Resolver.Configuration.Stands.step`: a step keeps it.
* `Resolver.Configuration.Stands.along`: so do any number of steps.
* `Resolver.Configuration.Stands.ended`: what is true where they end.
-/

namespace DispatchTables

variable {files : FileTree} {s : Store} {c c' : Context} {d : Descriptor} {r : Resolved}
  {Own Below : Members → Prop} {among : List String} {doc : Members} {log : List String}

/-- A list of distinct items stays one when another item is put at its end. -/
theorem nodup_append_singleton {α : Type} {items : List α} {item : α} (distinct : items.Nodup)
    (other : item ∉ items) : (items ++ [item]).Nodup := by
  rw [← List.concat_eq_append]
  exact distinct.concat other

/-! ### Documents -/

/-- **Properties that are kept when documents are laid over one another**: `Own` is one of documents
as they are written and as they come out, `Below` is one of what lies below them. -/
structure Layering (Own Below : Members → Prop) : Prop where
  plain : ∀ {doc}, Own doc → plainLists doc = true
  nothing : Below []
  lay : ∀ {below doc}, Below below → Own doc → Below (merge below (inheritable doc))
  strip : ∀ {key doc}, key ∈ inheritanceKeys → Own doc → Own (doc.erase key)
  cover : ∀ {below own}, Below below → Own own → Own (merge below own)
  logged : ∀ {doc} (log : List String), Own doc → Own (withLog doc log)

/-- To be plain is such a property. -/
theorem layering_plain : Layering (plainLists · = true) (plainLists · = true) := by
  simp only [plainLists_eq_listsAll]
  exact {
    plain := fun own => (plainLists_eq_listsAll _).trans own
    nothing := rfl
    lay := fun below own => listsAll_merge below (listsAll_filter _ own)
    strip := fun _ own => listsAll_filter _ own
    cover := fun below own => listsAll_merge below own
    logged := fun log own => listsAll_withLog log (by decide) own }

/-- **What a context has read and remembers has a property**: it goes back to a store whose files
have it. -/
structure Context.Ready (files : FileTree) (Own : Members → Prop) (s : Store) (c : Context) :
    Prop where
  held : ∀ e, s.Holds files e → Own e.doc
  faithful : s.Faithful files
  grown : Store.Grows files s c.store
  memo : ∀ {key r}, c.resolver.memo.get? key = some r → Own r.doc

/-- What only loads, warns and cuts leaves a context ready. -/
theorem Context.Ready.congr (h : c.Ready files Own s) (grown : Store.Grows files c.store c'.store)
    (memo : c'.resolver.memo = c.resolver.memo) : c'.Ready files Own s :=
  ⟨h.held, h.faithful, h.grown.trans grown, fun found => h.memo (memo ▸ found)⟩

theorem Context.Ready.same (h : c.Ready files Own s) (store : c'.store = c.store)
    (memo : c'.resolver.memo = c.resolver.memo) : c'.Ready files Own s :=
  h.congr (store ▸ Store.Grows.refl files _) memo

theorem Context.Ready.absorb (h : c.Ready files Own s) : c.absorb.Ready files Own s :=
  h.congr (Store.takeWarnings_grows files _) rfl

theorem Context.Ready.remember (h : c.Ready files Own s) (depth : Nat) (own : Own r.doc) :
    (c.remember depth r).Ready files Own s := by
  have inserted : ∀ {key r'}, (c.resolver.memo.insert r.key r).get? key = some r' →
      Own r'.doc := by
    intro key r' found
    rw [KeyMap.get?_insert] at found
    split at found
    · cases found
      exact own
    · exact h.memo found
  unfold Context.remember
  cases c.resolver.cut with
  | none => exact ⟨h.held, h.faithful, h.grown, inserted⟩
  | some cut =>
    dsimp only
    split
    · exact h
    · split
      · exact h.same rfl rfl
      · exact ⟨h.held, h.faithful, h.grown, inserted⟩

/-- A cut that goes back to a place on the path goes back to one above the last, or is dropped, when
the last document is left. -/
theorem lt_of_cut_remember {depth : Nat}
    (bounded : ∀ place, c.resolver.cut = some place → place < depth + 1) :
    ∀ place, (c.remember depth r).resolver.cut = some place → place < depth := by
  intro place open_
  unfold Context.remember at open_
  cases cut : c.resolver.cut with
  | none =>
    rw [cut] at open_
    cases cut.symm.trans open_
  | some shallowest =>
    have := bounded shallowest cut
    simp only [cut] at open_
    split at open_
    · cases cut.symm.trans open_
      assumption
    · split at open_
      · cases open_
      · omega

namespace Resolver

/-! ### Frames -/

/-- What is true of a draft. -/
structure Draft.Fits (Own Below : Members → Prop) (draft : Draft) : Prop where
  own : Own draft.own
  merged : Below draft.merged

/-- What is true of what is left to do for a document. -/
inductive Stage.Fits (Own Below : Members → Prop) : Stage → Prop where
  | keys {left draft} : left ⊆ inheritanceKeys → draft.Fits Own Below →
      Stage.Fits Own Below (.keys left draft)
  | sources {references complete key left draft} : key :: left ⊆ inheritanceKeys →
      draft.Fits Own Below → Stage.Fits Own Below (.sources references complete key left draft)
  | lists {left doc log} : left ⊆ componentListKeys → Own doc →
      Stage.Fits Own Below (.lists left doc log)
  | items {done rest key left doc log} : key :: left ⊆ componentListKeys → Own doc →
      doc.get? key = some (.array (done ++ rest)) →
      Stage.Fits Own Below (.items done rest key left doc log)

/-- A document waits for one of its sources. -/
def Frame.Waits (frame : Frame) : Prop :=
  ∃ references complete key left draft,
    frame.stage = .sources references complete key left draft

variable {draft : Draft} {stage : Stage} {frame : Frame} {rest : List Frame}

theorem Draft.Fits.lay (laying : Layering Own Below) (h : draft.Fits Own Below) (own : Own r.doc) :
    (draft.lay r).Fits Own Below :=
  ⟨h.own, laying.lay h.merged own⟩

theorem Draft.Fits.drop (laying : Layering Own Below) (h : draft.Fits Own Below) {key : String}
    (names : key ∈ inheritanceKeys) (complete : Bool) :
    (draft.drop key complete).Fits Own Below where
  own := by
    unfold Draft.drop
    dsimp only
    split
    · exact laying.strip names h.own
    · exact h.own
  merged := h.merged

/-- A document that waits for a source takes it up. -/
theorem Frame.Waits.receive (laying : Layering Own Below) (waits : frame.Waits)
    (h : frame.stage.Fits Own Below) (own : Own r.doc) :
    (frame.stage.receive r).Fits Own Below := by
  obtain ⟨references, complete, key, left, draft, at_⟩ := waits
  rw [at_] at h ⊢
  cases h with
  | sources names fits => exact .sources names (fits.lay laying own)

/-! ### Configurations -/

namespace Configuration

/-- What is true of what comes next: what is asked for is not on the stack, and every document waits
for a source but the one that is gone on with. -/
inductive ControlFits (Own : Members → Prop) (among : List String) (m : Configuration) :
    Control → Prop where
  | ask {d : Descriptor} : Own d.doc → d.key ∈ among → d.key ∉ m.stack → (∀ f ∈ m.frames, f.Waits) →
      ControlFits Own among m (.ask d)
  | answer {r : Resolved} : Own r.doc → (∀ f ∈ m.frames, f.Waits) →
      ControlFits Own among m (.answer r)
  | proceed {frame : Frame} {rest : List Frame} : m.frames = frame :: rest → (∀ f ∈ rest, f.Waits) →
      ControlFits Own among m .proceed

/-- **What is true of a configuration**: the stack has the keys of the frames, each of them once and
all of them among some keys, and a cut goes back to a place on it. -/
structure Stands (files : FileTree) (Own Below : Members → Prop) (s : Store) (among : List String)
    (m : Configuration) : Prop where
  context : m.context.Ready files Own s
  keys : m.stack = (m.frames.map (·.document.key)).reverse
  distinct : m.stack.Nodup
  within : m.stack ⊆ among
  cut : ∀ place, m.context.resolver.cut = some place → place < m.stack.length
  frames : ∀ f ∈ m.frames, f.inPlace = false ∧ f.stage.Fits Own Below
  control : ControlFits Own among m m.control

variable {m m' : Configuration}

/-- What is asked for from outside is not on the stack, for nothing is. -/
theorem stands_call (ready : c.Ready files Own s) (uncut : c.resolver.cut = none) (own : Own d.doc)
    (mem : d.key ∈ among) : (call c d).Stands files Own Below s among where
  context := ready
  keys := rfl
  distinct := List.nodup_nil
  within := List.nil_subset _
  cut _ open_ := nomatch uncut.symm.trans open_
  frames := nofun
  control := .ask own mem nofun nofun

/-- The innermost document is gone on with at another stage, in another context. -/
theorem Stands.turn (h : m.Stands files Own Below s among) (here : m.frames = frame :: rest)
    (waits : ∀ f ∈ rest, f.Waits) (fits : stage.Fits Own Below) (ready : c.Ready files Own s)
    (cut : ∀ place, c.resolver.cut = some place → place < m.stack.length) :
    (m.turn frame rest stage c).Stands files Own Below s among := by
  have frames := h.frames
  have keys := h.keys
  rw [here] at frames keys
  obtain ⟨top, others⟩ := List.forall_mem_cons.mp frames
  exact {
    context := ready
    keys := keys
    distinct := h.distinct
    within := h.within
    cut := cut
    frames := List.forall_mem_cons.mpr ⟨⟨top.1, fits⟩, others⟩
    control := .proceed rfl waits }

/-- A document that is asked for and not remembered is begun with. -/
theorem Stands.enter (laying : Layering Own Below) (h : m.Stands files Own Below s among)
    (asked : m.control = .ask d) : (m.enter d false).Stands files Own Below s among := by
  have control := h.control
  rw [asked] at control
  cases control with
  | ask own mem offStack waits =>
    exact {
      context := h.context
      keys := by simp [Configuration.enter, h.keys]
      distinct := nodup_append_singleton h.distinct offStack
      within := List.append_subset.mpr ⟨h.within, List.cons_subset.mpr ⟨mem, List.nil_subset _⟩⟩
      cut := by
        intro place open_
        rw [Configuration.enter, List.length_append]
        exact Nat.lt_add_right _ (h.cut place open_)
      frames := List.forall_mem_cons.mpr
        ⟨⟨rfl, .keys (List.Subset.refl _) ⟨own, laying.nothing⟩⟩, h.frames⟩
      control := .proceed rfl waits }

/-- **A document is left**: its key was the last on the stack, and no cut goes back to it any
more. -/
theorem Stands.leave (laying : Layering Own Below) (h : m.Stands files Own Below s among)
    (here : m.frames = frame :: rest) (waits : ∀ f ∈ rest, f.Waits) (own : Own doc)
    (log : List String) : (m.leave frame rest doc log).Stands files Own Below s among := by
  have frames := h.frames
  have keys := h.keys
  rw [here] at frames keys
  rw [List.map_cons, List.reverse_cons] at keys
  obtain ⟨⟨held, -⟩, others⟩ := List.forall_mem_cons.mp frames
  have popped : m.stack.dropLast = (rest.map (·.document.key)).reverse := by
    rw [keys, List.dropLast_concat]
  have length : m.stack.length = m.stack.dropLast.length + 1 := by
    rw [popped, keys, List.length_append]
    rfl
  have sub : m.stack.dropLast ⊆ m.stack := (List.dropLast_sublist _).subset
  unfold Configuration.leave
  dsimp only
  rw [if_neg (held ▸ Bool.false_ne_true)]
  exact {
    context := h.context.remember _ (laying.logged log own)
    keys := popped
    distinct := h.distinct.sublist (List.dropLast_sublist _)
    within := List.Subset.trans sub h.within
    cut := lt_of_cut_remember (length ▸ h.cut)
    frames := others
    control := .answer (laying.logged log own) waits }

/-- **The next source is looked up**: it is asked for only if it is not on the stack. -/
theorem Stands.seek (within : s.keys ⊆ among) (h : m.Stands files Own Below s among)
    (here : m.frames = frame :: rest) (waits : ∀ f ∈ rest, f.Waits) {key : String}
    {references left : List String} (names : key :: left ⊆ inheritanceKeys)
    (fits : draft.Fits Own Below) (reference : String) (complete : Bool) :
    (m.seek files frame rest reference complete fun complete =>
      .sources references complete key left draft).Stands files Own Below s among := by
  obtain ⟨read, grown, same⟩ :=
    loadForResolver_reads h.context.faithful h.context.grown reference
  have ready := h.context.congr grown same.memo
  have cut := h.cut
  rw [← same.cut] at cut
  unfold Configuration.seek
  generalize m.context.loadForResolver files reference = out at read ready cut
  obtain ⟨found, c⟩ := out
  dsimp only at read ready cut ⊢
  cases found with
  | error e => exact h.turn here waits (.sources names fits) (ready.same rfl rfl) cut
  | ok parent =>
    dsimp only
    cases placed : m.stack.idxOf? parent.key with
    | some place =>
      obtain ⟨lt, -, -⟩ := List.idxOf?_eq_some_iff.mp placed
      refine h.turn here waits (.sources names fits) (ready.same rfl rfl) ?_
      -- the shallowest of two places on the stack
      intro shallowest open_
      have noted : (c.noteCut place).resolver.cut = some shallowest := open_
      unfold Context.noteCut at noted
      cases was : c.resolver.cut with
      | none =>
        simp only [was, Option.some.injEq] at noted
        omega
      | some before =>
        have := cut before was
        simp only [was, Option.some.injEq] at noted
        omega
    | none =>
      have offStack : parent.key ∉ m.stack := List.idxOf?_eq_none_iff.mp placed
      have held := Store.holds_of_readReference read.symm
      have frames := h.frames
      have keys := h.keys
      rw [here] at frames keys
      obtain ⟨top, others⟩ := List.forall_mem_cons.mp frames
      exact {
        context := ready
        keys := keys
        distinct := h.distinct
        within := h.within
        cut := cut
        frames := List.forall_mem_cons.mpr ⟨⟨top.1, .sources names fits⟩, others⟩
        control := .ask (h.context.held parent held) (within held.mem_keys) offStack
          (List.forall_mem_cons.mpr ⟨⟨_, _, _, _, _, rfl⟩, waits⟩) }

/-- The innermost document is gone on with, one stage after the other. -/
theorem Stands.proceed (laying : Layering Own Below) (within : s.keys ⊆ among)
    (h : m.Stands files Own Below s among) (here : m.frames = frame :: rest)
    (waits : ∀ f ∈ rest, f.Waits) :
    (m.proceed files frame rest).Stands files Own Below s among := by
  have fits := (h.frames frame (here ▸ List.mem_cons_self)).2
  have turns {stage : Stage} (fits : stage.Fits Own Below) :
      (m.turn frame rest stage m.context).Stands files Own Below s among :=
    h.turn here waits fits h.context h.cut
  unfold Configuration.proceed
  generalize frame.stage = stage at fits
  cases fits with
  | @keys left draft names fits =>
    cases left with
    | nil => exact turns (.lists (List.Subset.refl _) (laying.cover fits.merged fits.own))
    | cons key left =>
      have later := List.Subset.trans (List.subset_cons_self key left) names
      dsimp only
      split
      · exact turns (.keys later fits)
      · split
        · exact h.turn here waits (.keys later fits) (h.context.same rfl rfl) h.cut
        · exact turns (.sources names fits)
  | @sources references complete key left draft names fits =>
    cases references with
    | nil =>
      have later := List.Subset.trans (List.subset_cons_self key left) names
      exact turns (.keys later (fits.drop laying (names List.mem_cons_self) complete))
    | cons reference references => exact h.seek within here waits names fits reference complete
  | @lists left doc log lists own =>
    cases left with
    | nil => exact h.leave laying here waits own log
    | cons key left =>
      dsimp only
      split
      · rename_i items found
        exact turns (.items lists own found)
      · exact turns (.lists (List.Subset.trans (List.subset_cons_self key left) lists) own)
  | @items done items key left doc log lists own found =>
    cases items with
    | nil =>
      rw [List.append_nil] at found
      dsimp only
      rw [Members.insert_of_get? found]
      exact turns (.lists (List.Subset.trans (List.subset_cons_self key left) lists) own)
    | cons item items =>
      have moved : done ++ [item] ++ items = done ++ item :: items := by simp
      have passed : (m.turn frame rest (.items (done ++ [item]) items key left doc log)
          m.context).Stands files Own Below s among := turns (.items lists own (moved ▸ found))
      -- the list is that of a plain document, so the item names no sources
      have plain : plainItem item = true := by
        have listed := plainLists_iff.mp (laying.plain own) _ (Members.mem_of_get? found)
          (lists List.mem_cons_self)
        exact List.all_eq_true.mp listed item (List.mem_append_right _ List.mem_cons_self)
      cases item with
      | object inner =>
        have names : inherits inner = false := by simpa [plainItem] using plain
        simp only [names]
        exact passed
      | _ => exact passed

/-- **A step keeps what is true of a configuration.** -/
theorem Stands.step (laying : Layering Own Below) (within : s.keys ⊆ among)
    (h : m.Stands files Own Below s among) (next : Next files m m') :
    m'.Stands files Own Below s among := by
  have control := h.control
  unfold Next Configuration.step at next
  generalize control_ : m.control = control' at control next
  cases control with
  | @ask d own mem offStack waits =>
    dsimp only at next
    split at next
    · rename_i r known
      cases next
      exact { h with control := .answer (h.context.memo known) waits }
    · cases next
      exact h.enter laying control_
  | @answer r own waits =>
    cases here : m.frames with
    | nil =>
      rw [here] at next
      cases next
    | cons frame rest =>
      rw [here] at next waits
      cases next
      obtain ⟨top, others⟩ := List.forall_mem_cons.mp waits
      have fits := (h.frames frame (here ▸ List.mem_cons_self)).2
      exact h.turn here others (top.receive laying fits own) h.context h.cut
  | @proceed frame rest here waits =>
    rw [here] at next
    cases next
    exact h.proceed laying within here waits

/-- **So it is true of whatever is reached.** -/
theorem Stands.along (laying : Layering Own Below) (within : s.keys ⊆ among)
    (h : m.Stands files Own Below s among) (reached : Reaches files m m') :
    m'.Stands files Own Below s among := by
  induction reached with
  | refl => exact h
  | tail _ next ih => exact ih.step laying within next

/-- **Where the steps end** all is ready for the next call, no cut is open, and what has been
resolved has the property that documents have. -/
theorem Stands.ended (h : m.Stands files Own Below s among) (answer : m.control = .answer r)
    (ended : m.step files = none) :
    m.context.absorb.Ready files Own s ∧ m.context.absorb.resolver.cut = none ∧ Own r.doc := by
  refine ⟨h.context.absorb, ?_, ?_⟩
  · have alone : m.frames = [] := by
      unfold Configuration.step at ended
      rw [answer] at ended
      cases frames : m.frames with
      | nil => rfl
      | cons frame rest =>
        rw [frames] at ended
        cases ended
    have empty : m.stack = [] := by rw [h.keys, alone]; rfl
    refine Option.eq_none_iff_forall_ne_some.mpr fun place open_ => ?_
    have placed := h.cut place open_
    rw [empty] at placed
    exact absurd placed (Nat.not_lt_zero _)
  · have control := h.control
    rw [answer] at control
    cases control with
    | answer own _ => exact own

end Configuration

end Resolver

end DispatchTables
