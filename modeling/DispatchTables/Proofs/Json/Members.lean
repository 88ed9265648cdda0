import DispatchTables.Json.Basic
import Mathlib.Data.List.Basic

/-!
# Members of an object

An object is a list of members, each key once.  What stands under a key, which keys there are and
what has been put in are three views of the list, and these are the laws between them.

## Main Definitions

* `Json.wellKeyed`: every object in a value, at any depth, has each key once.

## Main Statements

* `Members.get?_eq_some_iff`: where each key is there once, a member is what stands under its key.
* `Members.get?_filter`: leaving out keys changes nothing under the others.
* `Members.nodup_keys_insert`: putting in a member keeps each key once.
-/

namespace DispatchTables.Members

variable {ms : Members} {key : String} {value : Json}

/-! ### What stands under a key -/

theorem get?_eq_none (h : key ∉ ms.keys) : ms.get? key = none := by
  induction ms with
  | nil => rfl
  | cons m rest ih =>
    obtain ⟨k, v⟩ := m
    rw [Members.get?, if_neg (Ne.symm (List.ne_of_not_mem_cons h)),
      ih (List.not_mem_of_not_mem_cons h)]

theorem mem_of_get? (h : ms.get? key = some value) : (key, value) ∈ ms := by
  induction ms with
  | nil => cases h
  | cons m rest ih =>
    obtain ⟨k, v⟩ := m
    rw [Members.get?] at h
    split at h
    · rename_i same
      subst same
      cases h
      exact List.mem_cons_self
    · exact List.mem_cons_of_mem _ (ih h)

theorem get?_eq_some_iff (distinct : ms.keys.Nodup) :
    ms.get? key = some value ↔ (key, value) ∈ ms := by
  refine ⟨mem_of_get?, fun mem => ?_⟩
  induction ms with
  | nil => cases mem
  | cons m rest ih =>
    obtain ⟨k, v⟩ := m
    obtain ⟨fresh, distinct⟩ := List.nodup_cons.mp distinct
    rcases List.mem_cons.mp mem with first | later
    · cases first
      exact if_pos rfl
    · have differs : k ≠ key := fun same => fresh (List.mem_map.mpr ⟨_, later, same.symm⟩)
      rw [Members.get?, if_neg differs]
      exact ih distinct later

/-- Of the members under the keys kept, each says what it said. -/
theorem get?_filter (ms : Members) (keep : String → Bool) (key : String) :
    Members.get? (ms.filter fun m => keep m.1) key = if keep key then ms.get? key else none := by
  induction ms with
  | nil => simp
  | cons m rest ih =>
    obtain ⟨k, v⟩ := m
    rw [List.filter_cons, Members.get?]
    by_cases same : k = key
    · subst same
      cases kept : keep k <;> simp [ih, kept, Members.get?]
    · cases kept : keep k <;> simp [ih, same, Members.get?]

/-! ### Keys -/

theorem keys_append (ms ns : Members) : (ms ++ ns).keys = ms.keys ++ ns.keys :=
  List.map_append

theorem nodup_keys_insert (distinct : ms.keys.Nodup) (key : String) (value : Json) :
    (ms.insert key value).keys.Nodup := by
  rw [Members.keys_insert]
  split
  · exact distinct
  · rename_i fresh
    simp only [List.nodup_append, distinct, List.nodup_cons, List.not_mem_nil, not_false_eq_true,
      List.nodup_nil, and_self, List.mem_singleton, ne_eq, forall_eq, true_and]
    rintro other mem rfl
    exact fresh mem

/-! ### Putting in -/

theorem mem_insert {m : String × Json} (h : m ∈ ms.insert key value) :
    m = (key, value) ∨ m ∈ ms := by
  induction ms with
  | nil => exact .inl (by simpa [Members.insert] using h)
  | cons first rest ih =>
    obtain ⟨k, v⟩ := first
    rw [Members.insert] at h
    split at h
    · rcases List.mem_cons.mp h with new | old
      · exact .inl new
      · exact .inr (List.mem_cons_of_mem _ old)
    · rcases List.mem_cons.mp h with first | later
      · exact .inr (by rw [first]; exact List.mem_cons_self)
      · rcases ih later with new | old
        · exact .inl new
        · exact .inr (List.mem_cons_of_mem _ old)

/-- A key without a member gets one at the end. -/
theorem insert_of_not_mem (h : key ∉ ms.keys) : ms.insert key value = ms ++ [(key, value)] := by
  induction ms with
  | nil => rfl
  | cons m rest ih =>
    obtain ⟨k, v⟩ := m
    rw [Members.insert, if_neg (Ne.symm (List.ne_of_not_mem_cons h)),
      ih (List.not_mem_of_not_mem_cons h)]
    rfl

/-- Putting in what is there changes nothing. -/
theorem insert_of_get? (h : ms.get? key = some value) : ms.insert key value = ms := by
  induction ms with
  | nil => cases h
  | cons m rest ih =>
    obtain ⟨k, v⟩ := m
    rw [Members.get?] at h
    rw [Members.insert]
    split at h
    · rename_i same
      rw [if_pos same, ← same, Option.some.inj h]
    · rename_i differs
      rw [if_neg differs, ih h]

end DispatchTables.Members

namespace DispatchTables

/-! ### Keys at any depth -/

mutual

/-- Whether every object in a value, at any depth, has each key once. -/
def Json.wellKeyed : Json → Bool
  | .array items => Json.wellKeyedItems items
  | .object members => decide (Members.keys members).Nodup && Json.wellKeyedMembers members
  | _ => true

/-- Whether every object in some values has each key once. -/
def Json.wellKeyedItems : List Json → Bool
  | [] => true
  | v :: rest => v.wellKeyed && Json.wellKeyedItems rest

/-- Whether every object in the values of some members has each key once. -/
def Json.wellKeyedMembers : Members → Bool
  | [] => true
  | (_, v) :: rest => v.wellKeyed && Json.wellKeyedMembers rest

end

variable {items : List Json} {ms : Members} {key : String} {v : Json}

namespace Json

theorem wellKeyed_array_iff :
    (Json.array items).wellKeyed = true ↔ ∀ item ∈ items, item.wellKeyed = true := by
  rw [wellKeyed]
  induction items with
  | nil => simp [wellKeyedItems]
  | cons item rest ih => simp [wellKeyedItems, ih]

theorem wellKeyedMembers_iff :
    wellKeyedMembers ms = true ↔ ∀ m ∈ ms, m.2.wellKeyed = true := by
  induction ms with
  | nil => simp [wellKeyedMembers]
  | cons m rest ih =>
    obtain ⟨k, v⟩ := m
    simp [wellKeyedMembers, ih]

theorem wellKeyed_object_iff :
    (Json.object ms).wellKeyed = true ↔
      (Members.keys ms).Nodup ∧ ∀ m ∈ ms, m.2.wellKeyed = true := by
  rw [wellKeyed, Bool.and_eq_true, decide_eq_true_iff, wellKeyedMembers_iff]

theorem keys_nodup_of_wellKeyed (h : (Json.object ms).wellKeyed = true) :
    (Members.keys ms).Nodup :=
  (wellKeyed_object_iff.mp h).1

/-- What stands under a key is as well-keyed as the object. -/
theorem wellKeyed_of_get? (h : (Json.object ms).wellKeyed = true)
    (found : Members.get? ms key = some v) : v.wellKeyed = true :=
  (wellKeyed_object_iff.mp h).2 _ (Members.mem_of_get? found)

theorem wellKeyed_insert (h : (Json.object ms).wellKeyed = true) (value : v.wellKeyed = true) :
    (Json.object (Members.insert ms key v)).wellKeyed = true := by
  obtain ⟨distinct, values⟩ := wellKeyed_object_iff.mp h
  refine wellKeyed_object_iff.mpr ⟨Members.nodup_keys_insert distinct key v, fun m mem => ?_⟩
  rcases Members.mem_insert mem with rfl | old
  · exact value
  · exact values m old

/-- Leaving members out keeps an object well-keyed. -/
theorem wellKeyed_sublist {ns : Members} (h : (Json.object ms).wellKeyed = true)
    (within : ns.Sublist ms) : (Json.object ns).wellKeyed = true := by
  obtain ⟨distinct, values⟩ := wellKeyed_object_iff.mp h
  exact wellKeyed_object_iff.mpr
    ⟨distinct.sublist (within.map _), fun m mem => values m (within.subset mem)⟩

end Json

end DispatchTables
