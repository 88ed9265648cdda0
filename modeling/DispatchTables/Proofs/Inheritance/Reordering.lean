import DispatchTables.Proofs.Inheritance.Merging
import DispatchTables.Proofs.Json.Equality

/-!
# Merging does not see the order of members

Documents that are equal but for the order of members, at any depth, are merged to equal documents.
What is put under a key depends on what the two documents say there, not on where they say it; and
joining lists of components asks only whether items are equal, which is the same of items equal to
them.

## Main Statements

* `union_same`: equal lists are joined to equal lists.
* `mergeValue_same`: equal values are merged to equal values.
* `merge_same`: so are equal documents.
-/

namespace DispatchTables

variable {key : String} {below below' above above' : Members} {old old' value value' : Json}
  {xs xs' ys ys' kept kept' items items' : List Json} {item item' : Json}

/-! ### Joined lists -/

/-- Whether an item is equal to one of some items is the same of equal ones. -/
theorem any_same_congr (keyed : ∀ other ∈ kept, other.wellKeyed = true)
    (keyed' : ∀ other ∈ kept', other.wellKeyed = true) (own : item.wellKeyed = true)
    (own' : item'.wellKeyed = true)
    (equals : List.Forall₂ (fun v w => v.same w = true) kept kept')
    (equal : item.same item' = true) :
    kept.any (·.same item) = kept'.any (·.same item') := by
  induction equals with
  | nil => rfl
  | @cons x x' rest rest' first _ ih =>
    obtain ⟨here, later⟩ := List.forall_mem_cons.mp keyed
    obtain ⟨here', later'⟩ := List.forall_mem_cons.mp keyed'
    have same : x.same item = x'.same item' := by
      rw [Bool.eq_iff_iff]
      constructor
      · intro met
        exact Json.same_trans here' here own' (Json.same_symm here here' first)
          (Json.same_trans here own own' met equal)
      · intro met
        exact Json.same_trans here here' own first
          (Json.same_trans here' own' own met (Json.same_symm own own' equal))
    rw [List.any_cons, List.any_cons, same, ih later later']

theorem distinctAfter_same (keyed : ∀ item ∈ kept ++ items, item.wellKeyed = true)
    (keyed' : ∀ item ∈ kept' ++ items', item.wellKeyed = true)
    (keptEquals : List.Forall₂ (fun v w => v.same w = true) kept kept')
    (equals : List.Forall₂ (fun v w => v.same w = true) items items') :
    List.Forall₂ (fun v w => v.same w = true) (distinctAfter kept items)
      (distinctAfter kept' items') := by
  induction equals generalizing kept kept' with
  | nil => exact keptEquals
  | @cons x x' rest rest' first _ ih =>
    obtain ⟨before, here⟩ := List.forall_mem_append.mp keyed
    obtain ⟨before', here'⟩ := List.forall_mem_append.mp keyed'
    obtain ⟨own, later⟩ := List.forall_mem_cons.mp here
    obtain ⟨own', later'⟩ := List.forall_mem_cons.mp here'
    rw [distinctAfter, distinctAfter, any_same_congr before before' own own' keptEquals first]
    split
    · exact ih (List.forall_mem_append.mpr ⟨before, later⟩)
        (List.forall_mem_append.mpr ⟨before', later'⟩) keptEquals
    · refine ih ?_ ?_ (List.rel_append keptEquals (.cons first .nil))
      · simpa using keyed
      · simpa using keyed'

/-- **Equal lists are joined to equal lists**: of each, the items at the same places are kept. -/
theorem union_same (keyed : ∀ item ∈ xs ++ ys, item.wellKeyed = true)
    (keyed' : ∀ item ∈ xs' ++ ys', item.wellKeyed = true)
    (lower : List.Forall₂ (fun v w => v.same w = true) xs xs')
    (upper : List.Forall₂ (fun v w => v.same w = true) ys ys') :
    List.Forall₂ (fun v w => v.same w = true) (union xs ys) (union xs' ys') :=
  distinctAfter_same keyed keyed' .nil (List.rel_append lower upper)

/-! ### Documents -/

/-- Merging documents keeps equality, if it does so for what they say under each key. -/
theorem sameAs_merge (distinct : above.keys.Nodup) (distinct' : above'.keys.Nodup)
    (lower : Members.SameAs below below') (upper : Members.SameAs above above')
    (values : ∀ key value value' old old', above.get? key = some value →
      above'.get? key = some value' → below.get? key = some old → below'.get? key = some old' →
      value.same value' = true → old.same old' = true →
      (mergeValue key old value).same (mergeValue key old' value') = true) :
    Members.SameAs (merge below above) (merge below' above') := by
  intro key
  rw [get?_merge distinct, get?_merge distinct']
  cases said : above.get? key with
  | none =>
    rw [upper.get?_none said]
    exact lower key
  | some value =>
    obtain ⟨value', said', equal⟩ := upper.get?_some said
    rw [said']
    cases found : below.get? key with
    | none =>
      rw [lower.get?_none found]
      exact .some equal
    | some old =>
      obtain ⟨old', found', equal'⟩ := lower.get?_some found
      rw [found']
      exact .some (values key value value' old old' said said' found found' equal equal')

/-- What takes up nothing from below is merged to itself. -/
theorem mergeValue_of_plain (plain : mixes key value = false) : mergeValue key old value = value :=
  (standsAs_valueOver key (some old) value).eq plain

/-- Equal values take up the same from below. -/
theorem mixes_same (h : value.same value' = true) : mixes key value = mixes key value' := by
  cases value <;> cases value' <;> first | rfl | cases h

/-- **Equal values are merged to equal values.** -/
theorem mergeValue_same (keyedOld : old.wellKeyed = true) (keyedOld' : old'.wellKeyed = true)
    (keyed : value.wellKeyed = true) (keyed' : value'.wellKeyed = true)
    (lower : old.same old' = true) (upper : value.same value' = true) :
    (mergeValue key old value).same (mergeValue key old' value') = true := by
  induction value using Json.inductionOn generalizing key old old' value' with
  | array items _ =>
    cases value' with
    | array items' =>
      cases old with
      | array xs =>
        cases old' with
        | array xs' =>
          rw [mergeValue, mergeValue]
          cases listPolicy key with
          | union =>
            rw [Json.wellKeyed_array_iff] at keyedOld keyedOld' keyed keyed'
            rw [Json.same, Json.sameItems_iff] at lower upper ⊢
            exact union_same (List.forall_mem_append.mpr ⟨keyedOld, keyed⟩)
              (List.forall_mem_append.mpr ⟨keyedOld', keyed'⟩) lower upper
          | replace => exact upper
        | _ => cases lower
      | _ =>
        cases old' with
        | array xs' => cases lower
        | _ => exact upper
    | _ => cases upper
  | object members ih =>
    cases value' with
    | object members' =>
      cases old with
      | object below =>
        cases old' with
        | object below' =>
          have distinct := Json.keys_nodup_of_wellKeyed keyed
          have distinct' := Json.keys_nodup_of_wellKeyed keyed'
          have distinctOld := Json.keys_nodup_of_wellKeyed keyedOld
          have distinctOld' := Json.keys_nodup_of_wellKeyed keyedOld'
          rw [Json.same_object_iff distinctOld distinctOld'] at lower
          rw [Json.same_object_iff distinct distinct'] at upper
          rw [mergeValue, mergeValue, Json.same_object_iff (nodup_keys_merge distinctOld)
            (nodup_keys_merge distinctOld')]
          refine sameAs_merge distinct distinct' lower upper ?_
          intro key value value' old old' said said' found found' equal equal'
          exact ih _ (Members.mem_of_get? said) (Json.wellKeyed_of_get? keyedOld found)
            (Json.wellKeyed_of_get? keyedOld' found') (Json.wellKeyed_of_get? keyed said)
            (Json.wellKeyed_of_get? keyed' said') equal' equal
        | _ => cases lower
      | _ =>
        cases old' with
        | object below' => cases lower
        | _ => exact upper
    | _ => cases upper
  | _ => rwa [mergeValue_of_plain rfl, mergeValue_of_plain (mixes_same upper).symm]

/-- **Equal documents are merged to equal documents**, in whatever order members stand in them, at
any depth. -/
theorem merge_same (keyedBelow : (Json.object below).wellKeyed = true)
    (keyedBelow' : (Json.object below').wellKeyed = true)
    (keyedAbove : (Json.object above).wellKeyed = true)
    (keyedAbove' : (Json.object above').wellKeyed = true)
    (lower : (Json.object below).same (.object below') = true)
    (upper : (Json.object above).same (.object above') = true) :
    (Json.object (merge below above)).same (.object (merge below' above')) = true := by
  have merged : ∀ low high : Members,
      mergeValue logKey (.object low) (.object high) = .object (merge low high) := by
    intro low high
    rw [mergeValue]
  rw [← merged, ← merged]
  exact mergeValue_same keyedBelow keyedBelow' keyedAbove keyedAbove' lower upper

/-- A list that is written in two ways. -/
def writtenLists (first second : String) : Members :=
  [("components", .array [.object [(first, .nat 1), (second, .nat 1)], .string "ear",
    .object [("offset", .number (.double .zero))]])]

/-- A list that repeats two of its items, the other way round and with the other zero. -/
def repeatedLists (first second : String) : Members :=
  [("components", .array [.object [(second, .nat 1), (first, .nat 1)],
    .object [("offset", .number (.double ⟨true, 0, Double.zero.isFinite⟩))], .string "nose"])]

/-- Items are left out in whatever order their members stand. -/
theorem merge_same_writtenLists :
    (Json.object (writtenLists "bus" "price")).same (.object (writtenLists "price" "bus")) = true ∧
      (Json.object (repeatedLists "bus" "price")).same
        (.object (repeatedLists "price" "bus")) = true ∧
      (Json.object (merge (writtenLists "bus" "price") (repeatedLists "bus" "price"))).same
        (.object (merge (writtenLists "price" "bus") (repeatedLists "price" "bus"))) = true ∧
      (((merge (writtenLists "bus" "price") (repeatedLists "bus" "price")).get? "components").bind
        Json.asArray?).map List.length = some 4 := by
  have lower : (Json.object (writtenLists "bus" "price")).same
      (.object (writtenLists "price" "bus")) = true := by decide
  have upper : (Json.object (repeatedLists "bus" "price")).same
      (.object (repeatedLists "price" "bus")) = true := by decide
  exact ⟨lower, upper, merge_same (by decide) (by decide) (by decide) (by decide) lower upper,
    by decide⟩

end DispatchTables
