import DispatchTables.Inheritance.Resolver
import DispatchTables.Proofs.Json.Members
import Mathlib.Data.List.Forall2

/-!
# What merging leaves

A document laid over another is told key by key: what stands there afterwards is what the upper one
says, over what the lower one says.  Of a value that is said, little can change: an object may gain
members and a list of components may gain items, and everything else is as it is said.  Resolving
components in place changes less still, namely single items of the lists of components.

## Main Definitions

* `valueOver`: a value over what the lower document says under its key.
* `StandsAs`: what a value may come to stand as.
* `InPlace`: what a document may become when its components in place are resolved.

## Main Statements

* `get?_merge`: a merged document, key by key.
* `standsAs_valueOver`: a value over another stands as it is said.
* `pairwise_union`: no two items of a joined list are equal.
* `resolveLists_inPlace`: resolving in place changes single items only.
* `resolveDocument_inPlace`: so a document is resolved by merging, but for such items.
-/

namespace DispatchTables

variable {key other : String} {doc doc' doc'' below above : Members} {value value' value'' : Json}

/-! ### Documents over one another -/

/-- A value over what the document below says under its key. -/
def valueOver (key : String) : Option Json → Json → Json
  | none, value => value
  | some old, value => mergeValue key old value

theorem merge_cons (below rest : Members) (key : String) (value : Json) :
    merge below ((key, value) :: rest) =
      merge (below.insert key (valueOver key (below.get? key) value)) rest := by
  rw [merge]
  cases below.get? key <;> rfl

/-- **A merged document, key by key.** -/
theorem get?_merge (distinct : above.keys.Nodup) (key : String) :
    (merge below above).get? key = match above.get? key with
      | none => below.get? key
      | some value => some (valueOver key (below.get? key) value) := by
  induction above generalizing below with
  | nil => simp [merge]
  | cons m rest ih =>
    obtain ⟨k, v⟩ := m
    obtain ⟨fresh, distinct⟩ := List.nodup_cons.mp distinct
    rw [merge_cons, ih distinct, Members.get?_insert, Members.get?]
    by_cases same : k = key
    · subst same
      simp [Members.get?_eq_none fresh]
    · simp [same]

/-- A key of the lower document alone keeps its value. -/
theorem get?_merge_of_none (distinct : above.keys.Nodup) (missing : above.get? key = none) :
    (merge below above).get? key = below.get? key := by
  rw [get?_merge distinct, missing]

theorem get?_merge_of_some (distinct : above.keys.Nodup) (said : above.get? key = some value) :
    (merge below above).get? key = some (valueOver key (below.get? key) value) := by
  rw [get?_merge distinct, said]

theorem nodup_keys_merge (distinct : below.keys.Nodup) : (merge below above).keys.Nodup := by
  induction above generalizing below with
  | nil =>
    rw [merge]
    exact distinct
  | cons m rest ih =>
    rw [merge]
    exact ih (Members.nodup_keys_insert distinct _ _)

/-- Documents without a key in common are laid one after the other. -/
theorem merge_of_disjoint (distinct : (below ++ above).keys.Nodup) :
    merge below above = below ++ above := by
  induction above generalizing below with
  | nil => rw [merge, List.append_nil]
  | cons m rest ih =>
    obtain ⟨k, v⟩ := m
    have fresh : k ∉ below.keys := by
      rw [Members.keys_append] at distinct
      exact fun mem => (List.nodup_append.mp distinct).2.2 k mem k List.mem_cons_self rfl
    have moved : below ++ [(k, v)] ++ rest = below ++ (k, v) :: rest := by simp
    rw [merge, Members.get?_eq_none fresh, Members.insert_of_not_mem fresh,
      ih (by rw [moved]; exact distinct), moved]

/-! ### What values come to stand as -/

/-- What a value may come to stand as under its key, when something lies below it: an object as
another object, a list of components as another list, and anything else as it is. -/
inductive StandsAs (key : String) : Json → Json → Prop where
  | same (value : Json) : StandsAs key value value
  | object (members members' : Members) : StandsAs key (.object members) (.object members')
  | list (items items' : List Json) : key ∈ componentListKeys →
      StandsAs key (.array items) (.array items')

/-- Whether a value takes up some of what lies below it. -/
def mixes (key : String) : Json → Bool
  | .object _ => true
  | .array _ => componentListKeys.contains key
  | _ => false

theorem StandsAs.trans (h₁ : StandsAs key value value') (h₂ : StandsAs key value' value'') :
    StandsAs key value value'' := by
  cases h₁ with
  | same => exact h₂
  | object members =>
    cases h₂ with
    | same => exact .object ..
    | object => exact .object ..
  | list items _ listed =>
    cases h₂ with
    | same => exact .list _ _ listed
    | list _ _ _ => exact .list _ _ listed

/-- What takes up nothing from below stands as it is. -/
theorem StandsAs.eq (h : StandsAs key value value') (plain : mixes key value = false) :
    value' = value := by
  cases h with
  | same => rfl
  | object => cases plain
  | list _ _ listed => simp [mixes, listed] at plain

/-- What stands there and takes up nothing from below is as it was said. -/
theorem StandsAs.eq_of_after (h : StandsAs key value value') (plain : mixes key value' = false) :
    value' = value := by
  cases h with
  | same => rfl
  | object => cases plain
  | list _ _ listed => simp [mixes, listed] at plain

theorem mem_componentListKeys_iff : key ∈ componentListKeys ↔ listPolicy key = .union := by
  simp [listPolicy]

/-- Lists of components are joined. -/
theorem mergeValue_lists (listed : key ∈ componentListKeys) (xs ys : List Json) :
    mergeValue key (.array xs) (.array ys) = .array (union xs ys) := by
  rw [mergeValue, mem_componentListKeys_iff.mp listed]

/-- **A value over another stands as it is said.** -/
theorem standsAs_valueOver (key : String) (old : Option Json) (value : Json) :
    StandsAs key value (valueOver key old value) := by
  cases old with
  | none => exact .same value
  | some old =>
    show StandsAs key value (mergeValue key old value)
    unfold mergeValue
    split
    · exact .object ..
    · split
      · rename_i union
        exact .list _ _ (mem_componentListKeys_iff.mpr union)
      · exact .same _
    · exact .same value

/-! ### Joined lists -/

section Joined

variable {kept items xs ys : List Json} {item : Json}

theorem mem_distinctAfter_of_mem_kept (h : item ∈ kept) : item ∈ distinctAfter kept items := by
  induction items generalizing kept with
  | nil => exact h
  | cons next rest ih =>
    rw [distinctAfter]
    split
    · exact ih h
    · exact ih (List.mem_append_left _ h)

theorem pairwise_distinctAfter (distinct : kept.Pairwise fun a b => a.same b = false) :
    (distinctAfter kept items).Pairwise fun a b => a.same b = false := by
  induction items generalizing kept with
  | nil => exact distinct
  | cons next rest ih =>
    rw [distinctAfter]
    split
    · exact ih distinct
    · rename_i new
      refine ih (List.pairwise_append.mpr ⟨distinct, List.pairwise_singleton .., ?_⟩)
      intro a mem b last
      rw [List.mem_singleton.mp last]
      simpa using fun equal => new (List.any_eq_true.mpr ⟨a, mem, equal⟩)

/-- An item that is left out is equal to one that is kept. -/
theorem exists_mem_distinctAfter (h : item ∈ items) :
    ∃ at_ ∈ distinctAfter kept items, at_ = item ∨ at_.same item = true := by
  induction items generalizing kept with
  | nil => cases h
  | cons next rest ih =>
    rw [distinctAfter]
    rcases List.mem_cons.mp h with rfl | later
    · split
      · rename_i known
        obtain ⟨first, mem, equal⟩ := List.any_eq_true.mp known
        exact ⟨first, mem_distinctAfter_of_mem_kept mem, .inr equal⟩
      · exact ⟨item, mem_distinctAfter_of_mem_kept (by simp), .inl rfl⟩
    · split
      · exact ih later
      · exact ih later

/-- **No two items of a joined list are equal.** -/
theorem pairwise_union (xs ys : List Json) :
    (union xs ys).Pairwise fun a b => a.same b = false :=
  pairwise_distinctAfter .nil

/-- Each item of two lists is in the joined one, or one that it is equal to. -/
theorem exists_mem_union (h : item ∈ xs ∨ item ∈ ys) :
    ∃ at_ ∈ union xs ys, at_ = item ∨ at_.same item = true :=
  exists_mem_distinctAfter (List.mem_append.mpr h)

end Joined

/-! ### Components in place -/

/-- What may become of an item of a component list: an object that builds on others becomes another
object. -/
inductive ItemInPlace : Json → Json → Prop where
  | kept (item : Json) : ItemInPlace item item
  | resolved {doc : Members} (doc' : Members) : inherits doc = true →
      ItemInPlace (.object doc) (.object doc')

/-- What may become of a value: single items of a list of components are resolved in place. -/
inductive ValueInPlace (key : String) : Json → Json → Prop where
  | kept (value : Json) : ValueInPlace key value value
  | list {items items' : List Json} : key ∈ componentListKeys →
      List.Forall₂ ItemInPlace items items' → ValueInPlace key (.array items) (.array items')

/-- **What may become of a document** when its components in place are resolved. -/
structure InPlace (doc doc' : Members) : Prop where
  keys : doc'.keys = doc.keys
  get? : ∀ key, Option.Rel (ValueInPlace key) (doc.get? key) (doc'.get? key)

theorem ItemInPlace.trans {a b c : Json} (h₁ : ItemInPlace a b) (h₂ : ItemInPlace b c) :
    ItemInPlace a c := by
  cases h₁ with
  | kept => exact h₂
  | resolved _ builds =>
    cases h₂ with
    | kept => exact .resolved _ builds
    | resolved doc' _ => exact .resolved doc' builds

theorem forall₂_itemInPlace_trans {xs ys zs : List Json} (h₁ : List.Forall₂ ItemInPlace xs ys)
    (h₂ : List.Forall₂ ItemInPlace ys zs) : List.Forall₂ ItemInPlace xs zs := by
  induction h₁ generalizing zs with
  | nil =>
    cases h₂
    exact .nil
  | cons first _ ih =>
    cases h₂ with
    | cons second rest => exact .cons (first.trans second) (ih rest)

theorem ValueInPlace.trans (h₁ : ValueInPlace key value value')
    (h₂ : ValueInPlace key value' value'') : ValueInPlace key value value'' := by
  cases h₁ with
  | kept => exact h₂
  | list listed items =>
    cases h₂ with
    | kept => exact .list listed items
    | list _ items' => exact .list listed (forall₂_itemInPlace_trans items items')

theorem ValueInPlace.standsAs (h : ValueInPlace key value value') : StandsAs key value value' := by
  cases h with
  | kept => exact .same _
  | list listed _ => exact .list _ _ listed

theorem InPlace.refl (doc : Members) : InPlace doc doc where
  keys := rfl
  get? key := by
    cases doc.get? key with
    | none => exact .none
    | some value => exact .some (.kept value)

theorem InPlace.trans (h₁ : InPlace doc doc') (h₂ : InPlace doc' doc'') : InPlace doc doc'' where
  keys := h₂.keys.trans h₁.keys
  get? key := by
    have first := h₁.get? key
    have second := h₂.get? key
    generalize doc.get? key = a at first
    generalize doc'.get? key = b at first second
    cases first with
    | none => exact second
    | some first =>
      generalize doc''.get? key = c at second
      cases second with
      | some second => exact .some (first.trans second)

/-- Only lists of components change. -/
theorem InPlace.get?_eq (h : InPlace doc doc') (other : key ∉ componentListKeys) :
    doc'.get? key = doc.get? key := by
  have changed := h.get? key
  generalize doc.get? key = before at changed
  generalize doc'.get? key = after at changed
  cases changed with
  | none => rfl
  | some changed =>
    cases changed with
    | kept => rfl
    | list listed _ => exact absurd listed other

theorem inPlace_insert {items items' : List Json} (found : doc.get? key = some (.array items))
    (listed : key ∈ componentListKeys) (inPlace : List.Forall₂ ItemInPlace items items') :
    InPlace doc (doc.insert key (.array items')) where
  keys := by
    have present : key ∈ doc.keys := by
      refine Classical.byContradiction fun missing => ?_
      rw [Members.get?_eq_none missing] at found
      cases found
    rw [Members.keys_insert, if_pos present]
  get? other := by
    rw [Members.get?_insert]
    split
    · rename_i same
      subst same
      rw [found]
      exact .some (.list listed inPlace)
    · exact (InPlace.refl doc).get? other

variable {one : String → Members → Context → Members × Context}

theorem resolveItems_inPlace (parent : String) (items : List Json) (index : Nat) (c : Context) :
    List.Forall₂ ItemInPlace items (resolveItems one parent index items c).1 := by
  induction items generalizing index c with
  | nil => exact .nil
  | cons item rest ih =>
    cases item with
    | object doc =>
      unfold resolveItems
      split
      · rename_i builds
        exact .cons (.resolved _ builds) (ih _ _)
      · exact .cons (.kept _) (ih _ _)
    | _ => exact .cons (.kept _) (ih _ _)

/-- **Resolving in place changes single items only**, whatever becomes of these. -/
theorem resolveLists_inPlace (parent : String) {keys : List String}
    (lists : ∀ key ∈ keys, key ∈ componentListKeys) (doc : Members) (c : Context) :
    InPlace doc (resolveLists one parent keys doc c).1 := by
  induction keys generalizing doc c with
  | nil => exact .refl doc
  | cons key rest ih =>
    have later := ih fun other mem => lists other (List.mem_cons_of_mem _ mem)
    unfold resolveLists
    split
    · rename_i items found
      exact (inPlace_insert found (lists key List.mem_cons_self)
        (resolveItems_inPlace parent items 0 c)).trans (later _ _)
    · exact later doc c

/-- **What is resolved is what is laid over its sources**, but for components in place. -/
theorem resolveDocument_inPlace (files : FileTree) (resolve : ParentResolver) (nesting : Nat)
    (path : List String) (d : Descriptor) (c : Context) :
    ∃ own layers doc,
      applyKeys files resolve (path ++ [d.key]) d.key inheritanceKeys d.doc { context := c } =
        (own, layers) ∧
      InPlace (merge layers.merged own) doc ∧
      (resolveDocument files resolve nesting path d c).1 =
        ⟨d.key, d.path, d.kind, withLog doc layers.log, layers.log⟩ := by
  unfold resolveDocument
  dsimp only
  generalize applyKeys files resolve (path ++ [d.key]) d.key inheritanceKeys d.doc
    { context := c } = out
  obtain ⟨own, layers⟩ := out
  cases nesting with
  | zero => exact ⟨own, layers, _, rfl, .refl _, rfl⟩
  | succ nesting =>
    refine ⟨own, layers, _, rfl, ?_, rfl⟩
    exact resolveLists_inPlace d.key (fun key listed => listed) _ _

end DispatchTables
