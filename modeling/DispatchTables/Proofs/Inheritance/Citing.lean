import DispatchTables.Proofs.Inheritance.Audit
import DispatchTables.Proofs.Inheritance.Paths
import DispatchTables.Proofs.Inheritance.Reordering
import DispatchTables.Proofs.Lists.Places

/-!
# The references that a document cites

A document names sources under its inheritance keys, and so do the components that are written in
place in it, and the components in place in those.  All these references are cited by the document,
and resolving it comes past each of them.  What a document gains by being laid over others is cited
by the others, and of what it cites itself nothing is lost: an item that is left out of a joined
list is equal to one that stays, and equal items cite the same.

## Main Definitions

* `InPlaceOf`: a component is written in place in a document and names sources.
* `Cites`: a document cites a reference, itself or through components in place.

## Main Statements

* `wellKeyed_merge`: documents with each key once are merged to one with each key once.
* `Cites.merge`: what a merged document cites is cited by one of the two.
* `InPlaceOf.exists_merge`: of what the upper document has in place nothing is lost.
-/

namespace DispatchTables

variable {key reference : String} {doc doc' inner below above : Members} {value old : Json}
  {references : List String} {xs ys items : List Json} {item : Json} {n m : Nat}

/-! ### Keys of merged documents -/

theorem wellKeyed_union (lower : ∀ item ∈ xs, item.wellKeyed = true)
    (upper : ∀ item ∈ ys, item.wellKeyed = true) : ∀ item ∈ union xs ys, item.wellKeyed = true := by
  intro item mem
  rcases mem_of_mem_distinctAfter mem with nowhere | joined
  · cases nowhere
  · exact (List.mem_append.mp joined).elim (lower item) (upper item)

/-- Values with each key once are merged to one with each key once. -/
theorem wellKeyed_mergeValue (lower : old.wellKeyed = true) (upper : value.wellKeyed = true) :
    (mergeValue key old value).wellKeyed = true := by
  induction value using Json.inductionOn generalizing key old with
  | array items _ =>
    cases old with
    | array xs =>
      rw [mergeValue]
      rw [Json.wellKeyed_array_iff] at lower upper
      cases listPolicy key with
      | union => exact Json.wellKeyed_array_iff.mpr (wellKeyed_union lower upper)
      | replace => exact Json.wellKeyed_array_iff.mpr upper
    | _ => exact upper
  | object members ih =>
    cases old with
    | object below =>
      rw [mergeValue]
      have values := (Json.wellKeyed_object_iff.mp upper).2
      clear upper
      induction members generalizing below with
      | nil => rwa [merge]
      | cons m rest ihRest =>
        obtain ⟨k, v⟩ := m
        obtain ⟨first, later⟩ := List.forall_mem_cons.mp values
        rw [merge_cons]
        refine ihRest (fun m mem => ih m (List.mem_cons_of_mem _ mem)) _
          (Json.wellKeyed_insert lower ?_) later
        cases found : Members.get? below k with
        | none => exact first
        | some w => exact ih _ List.mem_cons_self (Json.wellKeyed_of_get? lower found) first
    | _ => exact upper
  | _ => rwa [mergeValue_of_plain rfl]

/-- **Documents with each key once are merged to one with each key once.** -/
theorem wellKeyed_merge (lower : (Json.object below).wellKeyed = true)
    (upper : (Json.object above).wellKeyed = true) :
    (Json.object (merge below above)).wellKeyed = true := by
  have merged : mergeValue logKey (.object below) (.object above) =
      .object (merge below above) := by
    rw [mergeValue]
  rw [← merged]
  exact wellKeyed_mergeValue lower upper

/-! ### References -/

/-- A component is written in place in a document, in one of its lists of components, and names
sources of its own. -/
def InPlaceOf (doc inner : Members) : Prop :=
  ∃ key ∈ componentListKeys, ∃ items, doc.get? key = some (.array items) ∧
    .object inner ∈ items ∧ inherits inner = true

/-- **A document cites a reference**: it names it as a source, or a component does that is in place
in it, or in place in one of those, as deep as the bound says. -/
inductive Cites : Nat → Members → String → Prop where
  | own {n : Nat} {doc : Members} {reference : String} :
      reference ∈ allReferences doc → Cites n doc reference
  | inPlace {n : Nat} {doc inner : Members} {reference : String} :
      InPlaceOf doc inner → Cites n inner reference → Cites (n + 1) doc reference

theorem mem_allReferences : reference ∈ allReferences doc ↔ ∃ key ∈ inheritanceKeys,
    ∃ value references, doc.get? key = some value ∧ references? value = some references ∧
      reference ∈ references := by
  unfold allReferences referencesUnder
  rw [List.mem_flatMap]
  refine exists_congr fun key => and_congr_right fun _ => ?_
  cases doc.get? key with
  | none => simp
  | some value => cases h : references? value <;> simp [h]

theorem Cites.mono (h : Cites n doc reference) (le : n ≤ m) : Cites m doc reference := by
  induction h generalizing m with
  | own mem => exact .own mem
  | inPlace inside _ ih =>
    obtain ⟨m, rfl⟩ : ∃ k, m = k + 1 := ⟨m - 1, by omega⟩
    exact .inPlace inside (ih (by omega))

theorem allReferences_subset (within : ∀ key ∈ inheritanceKeys, ∀ value,
    doc.get? key = some value → doc'.get? key = some value) :
    reference ∈ allReferences doc → reference ∈ allReferences doc' := by
  simp only [mem_allReferences]
  rintro ⟨key, named, value, references, written, lists, mem⟩
  exact ⟨key, named, value, references, within key named value written, lists, mem⟩

/-- Of a document only the lists of components and the names of sources matter. -/
theorem Cites.of_get? (within : ∀ key ∈ inheritanceKeys ++ componentListKeys, ∀ value,
    doc.get? key = some value → doc'.get? key = some value) (h : Cites n doc reference) :
    Cites n doc' reference := by
  cases h with
  | own mem =>
    exact .own (allReferences_subset (fun key named =>
      within key (List.mem_append_left _ named)) mem)
  | inPlace inside cites =>
    obtain ⟨key, listed, items, written, mem, names⟩ := inside
    exact .inPlace ⟨key, listed, items, within key (List.mem_append_right _ listed) _ written,
      mem, names⟩ cites

/-! ### Merging -/

/-- Sources are named by the upper value alone. -/
theorem references?_valueOver {below? : Option Json} (named : key ∈ inheritanceKeys)
    (h : references? (valueOver key below? value) = some references) :
    references? value = some references := by
  have stands := standsAs_valueOver key below? value
  generalize valueOver key below? value = laid at h stands
  cases stands with
  | same => exact h
  | object => cases h
  | list _ _ listed =>
    have apart : ∀ key ∈ inheritanceKeys, key ∉ componentListKeys := by decide
    exact absurd listed (apart key named)

/-- A list over another value: its items come from the two, and those of the upper one are there or
equal to one that is. -/
theorem items_valueOver {below? : Option Json} (h : valueOver key below? value = .array items) :
    ∃ ys, value = .array ys ∧
      (∀ item ∈ items, item ∈ ys ∨ ∃ xs, below? = some (.array xs) ∧ item ∈ xs) ∧
      ∀ item ∈ ys, ∃ at_ ∈ items, at_ = item ∨ at_.same item = true := by
  have whole : ∀ ys : List Json, (∀ item ∈ ys, ∃ at_ ∈ ys, at_ = item ∨ at_.same item = true) :=
    fun ys item mem => ⟨item, mem, .inl rfl⟩
  cases below? with
  | none =>
    cases h
    exact ⟨items, rfl, fun item mem => .inl mem, whole items⟩
  | some old =>
    rw [valueOver, mergeValue.eq_def] at h
    split at h
    · cases h
    · rename_i xs ys
      refine ⟨ys, rfl, ?_⟩
      split at h
      · cases h
        refine ⟨fun item mem => ?_, fun item mem => exists_mem_union (.inr mem)⟩
        rcases mem_of_mem_distinctAfter mem with nowhere | joined
        · cases nowhere
        · exact (List.mem_append.mp joined).symm.imp_right fun low => ⟨xs, rfl, low⟩
      · cases h
        exact ⟨fun item mem => .inl mem, whole _⟩
    · cases h
      exact ⟨items, rfl, fun item mem => .inl mem, whole items⟩

theorem mem_allReferences_merge (distinct : above.keys.Nodup)
    (h : reference ∈ allReferences (merge below above)) :
    reference ∈ allReferences below ∨ reference ∈ allReferences above := by
  obtain ⟨key, named, value, references, written, lists, mem⟩ := mem_allReferences.mp h
  rw [get?_merge distinct] at written
  cases said : above.get? key with
  | none =>
    rw [said] at written
    exact .inl (mem_allReferences.mpr ⟨key, named, value, references, written, lists, mem⟩)
  | some upper =>
    rw [said] at written
    cases written
    exact .inr (mem_allReferences.mpr
      ⟨key, named, upper, references, said, references?_valueOver named lists, mem⟩)

/-- What is in place in a merged document is in place in one of the two. -/
theorem InPlaceOf.of_merge (distinct : above.keys.Nodup)
    (h : InPlaceOf (merge below above) inner) : InPlaceOf below inner ∨ InPlaceOf above inner := by
  obtain ⟨key, listed, items, written, mem, names⟩ := h
  rw [get?_merge distinct] at written
  cases said : above.get? key with
  | none =>
    rw [said] at written
    exact .inl ⟨key, listed, items, written, mem, names⟩
  | some upper =>
    rw [said] at written
    obtain ⟨ys, rfl, origin, -⟩ := items_valueOver (Option.some.inj written)
    rcases origin _ mem with high | ⟨xs, found, low⟩
    · exact .inr ⟨key, listed, ys, said, high, names⟩
    · exact .inl ⟨key, listed, xs, found, low, names⟩

/-- **What a merged document cites** is cited by one of the two. -/
theorem Cites.merge (distinct : above.keys.Nodup) (h : Cites n (merge below above) reference) :
    Cites n below reference ∨ Cites n above reference := by
  cases h with
  | own mem => exact (mem_allReferences_merge distinct mem).imp .own .own
  | inPlace inside cites =>
    exact (inside.of_merge distinct).imp (.inPlace · cites) (.inPlace · cites)

/-! ### Equal components -/

/-- Equal values name the same sources. -/
theorem references?_same (h : value.same old = true) : references? value = references? old := by
  cases value with
  | string s =>
    cases old with
    | string t =>
      have equal : s = t := by simpa [Json.same] using h
      rw [equal]
    | _ => cases h
  | array xs =>
    cases old with
    | array ys =>
      rw [Json.same, Json.sameItems_iff] at h
      simp only [references?]
      induction h with
      | nil => rfl
      | @cons x y xs ys first _ ih =>
        have texts : x.asString? = y.asString? := by
          cases x <;> cases y <;> first | rfl | cases first | skip
          have equal := first
          simp only [Json.same, beq_iff_eq] at equal
          rw [equal]
        rw [List.mapM_cons, List.mapM_cons, texts, ih]
    | _ => cases h
  | _ => cases old <;> first | rfl | cases h

/-- What names sources does so in equal objects too. -/
theorem inherits_same (equal : Members.SameAs doc doc') : inherits doc = inherits doc' := by
  have each : ∀ key, doc.has key = doc'.has key := by
    intro key
    unfold Members.has
    cases said : doc.get? key with
    | none => rw [equal.get?_none said]
    | some value =>
      obtain ⟨value', said', -⟩ := equal.get?_some said
      rw [said']
      rfl
  unfold inherits
  rw [funext each]

/-- **Equal documents cite the same.** -/
theorem Cites.same (keyed : (Json.object doc).wellKeyed = true)
    (keyed' : (Json.object doc').wellKeyed = true)
    (equal : (Json.object doc).same (.object doc') = true) (h : Cites n doc reference) :
    Cites n doc' reference := by
  induction h generalizing doc' with
  | own mem =>
    rw [Json.same_object_iff (Json.keys_nodup_of_wellKeyed keyed)
      (Json.keys_nodup_of_wellKeyed keyed')] at equal
    obtain ⟨key, named, value, references, written, lists, mem⟩ := mem_allReferences.mp mem
    obtain ⟨value', written', same⟩ := equal.get?_some written
    exact .own (mem_allReferences.mpr
      ⟨key, named, value', references, written', references?_same same ▸ lists, mem⟩)
  | inPlace inside cites ih =>
    obtain ⟨key, listed, items, written, mem, names⟩ := inside
    rw [Json.same_object_iff (Json.keys_nodup_of_wellKeyed keyed)
      (Json.keys_nodup_of_wellKeyed keyed')] at equal
    obtain ⟨value', written', same⟩ := equal.get?_some written
    have within := Json.wellKeyed_array_iff.mp (Json.wellKeyed_of_get? keyed written) _ mem
    cases value' with
    | array items' =>
      have within' := Json.wellKeyed_array_iff.mp (Json.wellKeyed_of_get? keyed' written')
      rw [Json.same, Json.sameItems_iff] at same
      obtain ⟨partner, mem', alike⟩ := exists_of_forall₂ same mem
      cases partner with
      | object inner' =>
        have keyedInner' := within' _ mem'
        have names' := names
        rw [inherits_same ((Json.same_object_iff (Json.keys_nodup_of_wellKeyed within)
          (Json.keys_nodup_of_wellKeyed keyedInner')).mp alike)] at names'
        exact .inPlace ⟨key, listed, items', written', mem', names'⟩ (ih within keyedInner' alike)
      | _ => cases alike
    | _ => cases same

/-- **Of what the upper document has in place nothing is lost**: it is in place in the merged one,
or something is that cites all that it does. -/
theorem InPlaceOf.exists_merge (lower : (Json.object below).wellKeyed = true)
    (upper : (Json.object above).wellKeyed = true) (h : InPlaceOf above inner) :
    ∃ inner', InPlaceOf (merge below above) inner' ∧
      ∀ n reference, Cites n inner reference → Cites n inner' reference := by
  obtain ⟨key, listed, ys, said, mem, names⟩ := h
  have written := @get?_merge_of_some _ below _ _ (Json.keys_nodup_of_wellKeyed upper) said
  have merged := Json.wellKeyed_of_get? (wellKeyed_merge lower upper) written
  have own := Json.wellKeyed_array_iff.mp (Json.wellKeyed_of_get? upper said) _ mem
  obtain ⟨items, laid⟩ : ∃ items, valueOver key (below.get? key) (.array ys) = .array items := by
    have stands := standsAs_valueOver key (below.get? key) (.array ys)
    generalize valueOver key (below.get? key) (.array ys) = value at stands
    cases stands with
    | same => exact ⟨ys, rfl⟩
    | list _ items => exact ⟨items, rfl⟩
  obtain ⟨_, same, -, kept⟩ := items_valueOver laid
  cases same
  rw [laid] at written merged
  obtain ⟨at_, inItems, rfl | equal⟩ := kept _ mem
  · exact ⟨inner, ⟨key, listed, items, written, inItems, names⟩, fun _ _ cites => cites⟩
  · have keyed := Json.wellKeyed_array_iff.mp merged _ inItems
    have back := Json.same_symm keyed own equal
    cases at_ with
    | object inner' =>
      have names' := names
      rw [inherits_same ((Json.same_object_iff (Json.keys_nodup_of_wellKeyed own)
        (Json.keys_nodup_of_wellKeyed keyed)).mp back)] at names'
      exact ⟨inner', ⟨key, listed, items, written, inItems, names'⟩,
        fun _ _ cites => cites.same own keyed back⟩
    | _ => cases equal

end DispatchTables
