import DispatchTables.Proofs.Inheritance.Audit
import DispatchTables.Proofs.Inheritance.Citing
import DispatchTables.Proofs.Inheritance.Ending
import DispatchTables.Proofs.Traversal.Meetable

/-!
# The names that a walk may come upon

Documents are laid over one another, and the components in place in the outcome stand in one of
them; its own name is that of the uppermost.  So however the files of a store build on one another,
what is resolved brings no names to a walk but those that stand in some file, in the root, or in
what has been resolved before.

## Main Definitions

* `Stocked`: nothing in place in a document names sources, and all names are of some kind.
* `Context.names`: the names that stand in files, in a root, and in what is remembered.

## Main Statements

* `layering_stocked`: to be stocked is kept when documents are laid over one another.
* `Context.length_names_le`: there are no more names than a walk is given steps.
* `Session.stocked`: in a session all is stocked with these names.
-/

namespace DispatchTables

variable {files : FileTree} {c : Context} {root : Resolved} {Called : String → Prop}
  {P : Members → Prop} {doc doc' below above x : Members} {key name : String}

/-! ### Components in place in what is laid -/

theorem forall_componentsIn_merge (lower : ∀ x ∈ componentsIn below, P x)
    (upper : ∀ x ∈ componentsIn above, P x) : ∀ x ∈ componentsIn (merge below above), P x :=
  forall_componentsIn_iff.mpr
    (listsAll_merge (forall_componentsIn_iff.mp lower) (forall_componentsIn_iff.mp upper))

theorem forall_componentsIn_filter (keep : String × Json → Bool)
    (all : ∀ x ∈ componentsIn doc, P x) : ∀ x ∈ componentsIn (doc.filter keep), P x :=
  forall_componentsIn_iff.mpr (listsAll_filter keep (forall_componentsIn_iff.mp all))

theorem forall_componentsIn_withLog (log : List String) (all : ∀ x ∈ componentsIn doc, P x) :
    ∀ x ∈ componentsIn (withLog doc log), P x :=
  forall_componentsIn_iff.mpr
    (listsAll_withLog log (by decide) (forall_componentsIn_iff.mp all))

theorem PlainWithin.merge (lower : PlainWithin below) (upper : PlainWithin above) :
    PlainWithin (merge below above) :=
  ⟨layering_plain.cover lower.1 upper.1, forall_componentsIn_merge lower.2 upper.2⟩

theorem PlainWithin.filter (h : PlainWithin doc) (keep : String × Json → Bool) :
    PlainWithin (doc.filter keep) := by
  refine ⟨?_, forall_componentsIn_filter keep h.2⟩
  rw [plainLists_eq_listsAll]
  exact listsAll_filter keep ((plainLists_eq_listsAll doc).symm.trans h.1)

theorem PlainWithin.withLog (h : PlainWithin doc) (log : List String) :
    PlainWithin (withLog doc log) :=
  ⟨layering_plain.logged log h.1, forall_componentsIn_withLog log h.2⟩

/-! ### Stocked documents -/

/-- **What stands in place in a document**: nothing that names sources, and what has a name is
called in some way. -/
structure Stocks (Called : String → Prop) (doc : Members) : Prop where
  keyed : (Json.object doc).wellKeyed = true
  plain : PlainWithin doc
  within : ∀ x ∈ componentsIn doc, ∀ name, declaredName x = some name → Called name

/-- **A document that is called so itself**, if it has a name. -/
structure Stocked (Called : String → Prop) (doc : Members) : Prop extends Stocks Called doc where
  own : ∀ name, declaredName doc = some name → Called name

/-- A document that others are laid over; it does not say who they are. -/
structure StockedBelow (Called : String → Prop) (doc : Members) : Prop extends
    Stocks Called doc where
  nameless : ∀ key ∈ identityKeys, doc.get? key = none

theorem Stocks.merge (lower : Stocks Called below) (upper : Stocks Called above) :
    Stocks Called (merge below above) :=
  ⟨wellKeyed_merge lower.keyed upper.keyed, lower.plain.merge upper.plain,
    forall_componentsIn_merge lower.within upper.within⟩

theorem Stocks.filter (h : Stocks Called doc) (keep : String × Json → Bool) :
    Stocks Called (doc.filter keep) :=
  ⟨Json.wellKeyed_sublist h.keyed List.filter_sublist, h.plain.filter keep,
    forall_componentsIn_filter keep h.within⟩

theorem Stocks.withLog (h : Stocks Called doc) (log : List String) :
    Stocks Called (withLog doc log) where
  keyed := by
    unfold DispatchTables.withLog
    split
    · exact h.keyed
    · refine Json.wellKeyed_insert h.keyed (Json.wellKeyed_array_iff.mpr fun item mem => ?_)
      obtain ⟨entry, -, rfl⟩ := List.mem_map.mp mem
      rfl
  plain := h.plain.withLog log
  within := forall_componentsIn_withLog log h.within

/-- Who a document is depends on its identity only. -/
theorem declaredName_congr (same : ∀ key ∈ identityKeys, doc'.get? key = doc.get? key) :
    declaredName doc' = declaredName doc := by
  rw [declaredName, declaredName, same "name" (by decide), same "component_name" (by decide)]

theorem Stocked.congr (h : Stocked Called doc) (stocks : Stocks Called doc')
    (same : ∀ key ∈ identityKeys, doc'.get? key = doc.get? key) : Stocked Called doc' :=
  ⟨stocks, fun name named => h.own name (declaredName_congr same ▸ named)⟩

/-- **To be stocked is kept when documents are laid over one another.** -/
theorem layering_stocked : Layering (Stocked Called) (StockedBelow Called) where
  plain own := own.plain.1
  nothing := ⟨⟨rfl, ⟨rfl, nofun⟩, nofun⟩, fun _ _ => rfl⟩
  lay {below doc} lower own := by
    have upper : Stocks Called (inheritable doc) := own.toStocks.filter _
    refine ⟨lower.toStocks.merge upper, fun key identity => ?_⟩
    have withheld : (inheritable doc).get? key = none := by
      rw [get?_inheritable, if_neg (by simp [passedOn, identity])]
    rw [get?_merge_of_none (Json.keys_nodup_of_wellKeyed upper.keyed) withheld]
    exact lower.nameless key identity
  strip {key doc} names own := by
    refine own.congr (own.toStocks.filter _) fun other identity => ?_
    have apart : key ≠ other := by
      rintro rfl
      exact absurd identity ((by decide : ∀ key ∈ inheritanceKeys, key ∉ identityKeys) key names)
    rw [Members.get?_erase, if_neg apart]
  cover {below own} lower upper := by
    refine upper.congr (lower.toStocks.merge upper.toStocks) fun key identity => ?_
    rw [get?_merge (Json.keys_nodup_of_wellKeyed upper.keyed), lower.nameless key identity]
    cases own.get? key <;> rfl
  logged {doc} log own := by
    refine own.congr (own.toStocks.withLog log) fun key identity => ?_
    have apart : logKey ≠ key := by
      rintro rfl
      exact absurd identity (by decide)
    exact get?_withLog_of_ne apart doc log

/-- What stands in place in a stocked document is stocked. -/
theorem Stocks.inner (h : Stocks Called doc) (mem : x ∈ componentsIn doc) : Stocked Called x where
  keyed := wellKeyed_of_mem_componentsIn h.keyed mem
  plain := ⟨h.plain.2 x mem, fun y inner => h.plain.2 y (componentsIn_trans mem inner)⟩
  within y inner := h.within y (componentsIn_trans mem inner)
  own := h.within x mem

/-- A document is stocked with the names within it. -/
theorem stocked_of_namesWithin (keyed : (Json.object doc).wellKeyed = true)
    (plain : PlainWithin doc) (named : ∀ name ∈ namesWithin doc, Called name) :
    Stocked Called doc where
  keyed := keyed
  plain := plain
  within x mem name declared :=
    named name (List.mem_filterMap.mpr ⟨x, List.mem_cons_of_mem _ mem, declared⟩)
  own name declared := named name (List.mem_filterMap.mpr ⟨doc, List.mem_cons_self, declared⟩)

/-! ### Names -/

/-- **The names that stand in files**, in a root, and in what is remembered. -/
def Context.names (files : FileTree) (c : Context) (root : Resolved) : List String :=
  namesWithin root.doc ++ c.store.names files ++
    c.resolver.memo.values.flatMap fun r => namesWithin r.doc

/-- **There are no more names than a walk is given steps.** -/
theorem Context.length_names_le (files : FileTree) (c : Context) (root : Resolved) :
    (c.names files root).length ≤ nameBound files c root := by
  have own := length_namesWithin_le root.doc
  have unread := DispatchTables.length_names_le files c.store
  have counted (rs : List Resolved) (n : Nat) :
      (rs.flatMap fun r => namesWithin r.doc).length + n ≤
        rs.foldl (fun n r => n + (Json.object r.doc).objectCount) n := by
    induction rs generalizing n with
    | nil => simp
    | cons r rest ih =>
      have later := ih (n + (Json.object r.doc).objectCount)
      have first := length_namesWithin_le r.doc
      rw [List.flatMap_cons, List.length_append, List.foldl_cons]
      omega
  have resolved := counted c.resolver.memo.values 0
  have bound : nameBound files c root = (Json.object root.doc).objectCount +
      c.store.index.values.foldl (fun n path => n + byteCountOf files path) 0 +
      c.store.cache.values.foldl (fun n d => n + (Json.object d.doc).objectCount) 0 +
      c.resolver.memo.values.foldl (fun n r => n + (Json.object r.doc).objectCount) 0 := rfl
  rw [Context.names, List.length_append, List.length_append, bound]
  omega

/-- **In a session all is stocked** with these names. -/
theorem Session.stocked (session : Session files c)
    (plain : ∀ e, c.store.Holds files e → PlainWithin e.doc) (root : Resolved) :
    c.Ready files (Stocked (· ∈ c.names files root)) c.store ∧ c.resolver.cut = none := by
  -- whatever the names are, documents are stocked with some
  have anyhow {doc : Members} (keyed : (Json.object doc).wellKeyed = true)
      (plain : PlainWithin doc) : Stocked (fun _ => True) doc :=
    stocked_of_namesWithin keyed plain fun _ _ => trivial
  obtain ⟨ready, uncut⟩ := session.ready layering_stocked anyhow
    fun e held => anyhow held.wellKeyed (plain e held)
  refine ⟨⟨fun e held => ?_, ready.faithful, ready.grown, fun {key r} found => ?_⟩, uncut⟩
  · refine stocked_of_namesWithin held.wellKeyed (plain e held) fun name named => ?_
    exact List.mem_append_left _ (List.mem_append_right _ (c.store.mem_names held named))
  · have stocked := ready.memo found
    refine stocked_of_namesWithin stocked.keyed stocked.plain fun name named => ?_
    refine List.mem_append_right _ (List.mem_flatMap.mpr ⟨r, ?_, named⟩)
    exact List.mem_map.mpr ⟨(key, r), KeyMap.mem_entries_of_get? found, rfl⟩

end DispatchTables
