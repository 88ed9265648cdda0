import DispatchTables.Proofs.Inheritance.Audit

/-!
# Joined lists of components

Where a document and what it builds on both list components, the lists are joined, and of equal
items the first alone is taken.  The comparing is done while the documents are merged.  Components
in place that build on others are resolved afterwards, one by one, so two that were written
differently may come out equal; those of a source have been resolved before they are compared.

Lists are joined only where one lies directly over another.  When a later source has something else
under the key, the list below it is gone, and the document's own list is taken as it is written.

## Main Statements

* `resolve_lists_joined`: no two items of a joined list were equal when they were joined.
* `equal_components_resolved`: equal items may be left, in either of the two ways.
-/

namespace DispatchTables

variable {files : FileTree} {s : Store} {d : Descriptor} {r : Resolved} {c : Context}
  {key : String} {own below xs ys : List Json} {layers : List Members}

theorem passedOn_of_mem_componentListKeys (listed : key ∈ componentListKeys) :
    passedOn key = true ∧ key ∉ inheritanceKeys ∧ logKey ≠ key := by
  revert key
  decide

/-- Items that name no sources are left as they are. -/
theorem eq_of_forall₂_itemInPlace (h : List.Forall₂ ItemInPlace xs ys)
    (plain : xs.all plainItem = true) : ys = xs := by
  induction h with
  | nil => rfl
  | @cons x y _ _ item _ ih =>
    rw [List.all_cons, Bool.and_eq_true] at plain
    cases item with
    | kept => rw [ih plain.2]
    | resolved _ builds => simp [plainItem, builds] at plain

/-- A list over which nothing but lists have been laid is a list. -/
theorem StandsAs.exists_array {value : Json} (h : StandsAs key (.array xs) value) :
    ∃ ys, value = .array ys := by
  cases h with
  | same => exact ⟨xs, rfl⟩
  | list _ ys _ => exact ⟨ys, rfl⟩

theorem Explains.exists_array {doc : Members} (h : Explains layers doc)
    (passed : passedOn key = true) (last : lastUnder layers key = some (.array xs)) :
    ∃ ys, doc.get? key = some (.array ys) := by
  have said := h key passed
  rw [last] at said
  generalize doc.get? key = there at said ⊢
  cases said with
  | some stands =>
    obtain ⟨ys, rfl⟩ := stands.exists_array
    exact ⟨ys, rfl⟩

/-- A document's own list is joined with the one below it, and then items are resolved in place. -/
theorem LaidOver.joins (h : LaidOver layers d r) (distinct : d.doc.keys.Nodup)
    (listed : key ∈ componentListKeys) (ownList : d.doc.get? key = some (.array own))
    (last : lastUnder layers key = some (.array below)) :
    ∃ under items, r.doc.get? key = some (.array items) ∧
      List.Forall₂ ItemInPlace (union under own) items := by
  obtain ⟨passed, unnamed, unlogged⟩ := passedOn_of_mem_componentListKeys listed
  cases h with
  | @laid below' own' doc log explained _ strips inPlace =>
    obtain ⟨under, lower⟩ := explained.exists_array passed last
    have upper : own'.get? key = some (.array own) := by rw [strips.get? key unnamed, ownList]
    have joined : (merge below' own').get? key = some (.array (union under own)) := by
      rw [get?_merge_of_some (strips.nodup distinct) upper, lower, valueOver,
        mergeValue_lists listed]
    have changed := inPlace.get? key
    rw [joined] at changed
    rw [get?_withLog_of_ne unlogged]
    generalize doc.get? key = after at changed
    cases changed with
    | some changed =>
      cases changed with
      | kept => exact ⟨under, _, rfl, List.forall₂_same.mpr fun _ _ => .kept _⟩
      | list _ items => exact ⟨under, _, rfl, items⟩

/-- **Lists of components are joined without repeats.**  When a document lists components, and so
does the last of the documents in its log that has the key at all, the resolved list comes from one
that has each of the document's own components, or one that it is equal to, and no two equal; only
components in place that build on others are rewritten after that.  If there are none, no two items
of the resolved list are equal. -/
theorem resolve_lists_joined (h : FromStore files s c)
    (known : s.Holds files d ∨ c.resolver.memo.get? d.key = none ∧ d.doc.keys.Nodup)
    (listed : key ∈ componentListKeys) (ownList : d.doc.get? key = some (.array own))
    (last : lastUnder (s.documents files (c.resolve files d).1.log) key = some (.array below)) :
    ∃ joined items, (c.resolve files d).1.doc.get? key = some (.array items) ∧
      joined.Pairwise (fun a b => a.same b = false) ∧
      (∀ item ∈ own, ∃ kept ∈ joined, kept = item ∨ kept.same item = true) ∧
      List.Forall₂ ItemInPlace joined items ∧
      (joined.all plainItem = true → items.Pairwise fun a b => a.same b = false) := by
  have built := resolve_built h (known.imp id And.left)
  obtain ⟨under, items, said, inPlace⟩ :=
    built.laidOver.joins (known.elim Store.Holds.distinct And.right) listed ownList last
  refine ⟨union under own, items, said, pairwise_union under own, ?_, inPlace, ?_⟩
  · exact fun item mem => exists_mem_union (.inr mem)
  · intro plain
    rw [eq_of_forall₂_itemInPlace inPlace plain]
    exact pairwise_union under own

/-- Documents that list components over others that do. -/
def listFiles : FileTree where
  workingDirectory := []
  directories := [["lib"]]
  files := [
    (["lib", "base.json"], ("\x7b\"name\": \"base\", \"components\": " ++
      "[\x7b\"name\": \"b\", \"inherits_from\": \"sensor\"\x7d]\x7d").toUTF8),
    (["lib", "heir.json"], ("\x7b\"name\": \"heir\", \"inherits_from\": \"base\", " ++
      "\"components\": [\x7b\"name\": \"b\", \"inherits_from\": \"sensor\"\x7d]\x7d").toUTF8),
    (["lib", "joins.json"], ("\x7b\"name\": \"joins\", \"inherits_from\": \"list\", " ++
      "\"components\": [\"a\", \"z\", \"a\"]\x7d").toUTF8),
    (["lib", "keeps.json"], ("\x7b\"name\": \"keeps\", " ++
      "\"inherits_from\": [\"list\", \"null\"], \"components\": [\"a\", \"a\"]\x7d").toUTF8),
    (["lib", "list.json"], "\x7b\"name\": \"list\", \"components\": [\"a\"]\x7d".toUTF8),
    (["lib", "null.json"], "\x7b\"name\": \"null\", \"components\": null\x7d".toUTF8),
    (["lib", "sensor.json"], "\x7b\"name\": \"sensor\", \"bus_type\": \"i2c\"\x7d".toUTF8)]

/-- The store of these documents. -/
def listStore : Store :=
  [["base.json"], ["heir.json"], ["joins.json"], ["keeps.json"], ["list.json"], ["null.json"],
    ["sensor.json"]].foldl Store.addFile (.empty "/lib")

theorem ofDirectory_listFiles : Store.ofDirectory listFiles "/lib" = .ok listStore :=
  Store.ofDirectory_of_ordered ["lib"] _ (by decide +kernel) (by decide +kernel)
    (by decide +kernel) (by decide +kernel) (by decide +kernel)

/-- The list of components of a document, if it has one. -/
def componentsOf (doc : Members) : Option (List Json) := (doc.get? "components").bind Json.asArray?

theorem eq_some_array {found : Option Json} (h : found.bind Json.asArray? = some xs) :
    found = some (.array xs) := by
  obtain ⟨value, rfl, items⟩ := Option.bind_eq_some_iff.mp h
  cases value with
  | array ys => rw [Json.asArray?, Option.some.injEq] at items; rw [items]
  | _ => cases items

/-- The document under a key. -/
def listDocument (key : String) : Descriptor := listStore.descriptorAt listFiles key

/-- What it is resolved to in a context of the store just opened. -/
def listResolved (key : String) : Resolved :=
  ((Context.ofStore listStore).resolve listFiles (listDocument key)).1

/-- The documents that have been applied to it. -/
def listSources (key : String) : List Members :=
  listStore.documents listFiles (listResolved key).log

/-- Of three components, and one that is inherited, two are left. -/
theorem resolve_lists_joined_repeated : ∃ own below items,
    listStore.Holds listFiles (listDocument "joins") ∧
      (listDocument "joins").doc.get? "components" = some (.array own) ∧
      lastUnder (listSources "joins") "components" = some (.array below) ∧
      (listResolved "joins").doc.get? "components" = some (.array items) ∧
      own.length = 3 ∧ items.length = 2 ∧
      ∃ joined : List Json, joined.Pairwise (fun a b => a.same b = false) ∧
        (∀ item ∈ own, ∃ kept ∈ joined, kept = item ∨ kept.same item = true) ∧
        List.Forall₂ ItemInPlace joined items := by
  have held : listStore.Holds listFiles (listDocument "joins") :=
    Store.holds_descriptorAt (by decide +kernel)
  have lists : (do
      let own ← componentsOf (listDocument "joins").doc
      let below ← (lastUnder (listSources "joins") "components").bind Json.asArray?
      let items ← componentsOf (listResolved "joins").doc
      some (own.length, below.length, items.length)) = some (3, 1, 2) := by decide +kernel
  obtain ⟨own, ownList, lists⟩ := Option.bind_eq_some_iff.mp lists
  obtain ⟨below, last, lists⟩ := Option.bind_eq_some_iff.mp lists
  obtain ⟨items, resolvedList, lengths⟩ := Option.bind_eq_some_iff.mp lists
  simp only [Option.some.injEq, Prod.mk.injEq] at lengths
  have ownList := eq_some_array ownList
  have last := eq_some_array last
  have resolvedList := eq_some_array resolvedList
  unfold listSources listResolved at *
  obtain ⟨joined, items', said, distinct, kept, inPlace, -⟩ :=
    resolve_lists_joined (fromStore_ofStore ofDirectory_listFiles) (.inl held) (by decide)
      ownList last
  rw [resolvedList] at said
  cases said
  exact ⟨own, below, items, held, ownList, last, resolvedList, lengths.1, lengths.2.2, joined,
    distinct, kept, inPlace⟩

/-- A document and one applied to it list components, and the resolved list has two that are
equal. -/
def Repeats (key : String) : Prop :=
  ∃ own items, (listDocument key).doc.get? "components" = some (.array own) ∧
    (∃ layer ∈ listSources key, ∃ below, layer.get? "components" = some (.array below)) ∧
    (listResolved key).doc.get? "components" = some (.array items) ∧
    ¬ items.Pairwise fun a b => a.same b = false

theorem repeats_of_check {key : String}
    (check : (do
      let _ ← componentsOf (listDocument key).doc
      let _ ← (listSources key).findSome? componentsOf
      let items ← componentsOf (listResolved key).doc
      some (decide (items.Pairwise fun a b => a.same b = false))) = some false) :
    Repeats key := by
  obtain ⟨own, ownList, check⟩ := Option.bind_eq_some_iff.mp check
  obtain ⟨below, list, check⟩ := Option.bind_eq_some_iff.mp check
  obtain ⟨items, said, equal⟩ := Option.bind_eq_some_iff.mp check
  obtain ⟨layer, mem, list⟩ := List.exists_of_findSome?_eq_some list
  exact ⟨own, items, eq_some_array ownList, ⟨layer, mem, below, eq_some_array list⟩,
    eq_some_array said, of_decide_eq_false (Option.some.inj equal)⟩

/-- **Equal components may be left.**  A component in place that is written in two documents in the
same way is resolved in each, and only in the lower one before the two are compared.  And a list
below a value of another shape is gone, so nothing is joined. -/
theorem equal_components_resolved : Repeats "heir" ∧ Repeats "keeps" :=
  ⟨repeats_of_check (by decide +kernel), repeats_of_check (by decide +kernel)⟩

end DispatchTables
