import DispatchTables.Proofs.Inheritance.Nesting
import DispatchTables.Proofs.Json.Equality
import DispatchTables.Traversal.Walk

/-!
# Components in place

A list of components may hold documents in place, and these have lists of their own.  All of them
stand in the document that the first list is in, at some depth.

## Main Definitions

* `Json.placed`: the documents in place in an item of a list.
* `componentsIn`: the components in place in a document.

## Main Statements

* `componentsIn_trans`: what is in place in a component in place is in place in the document.
* `of_mem_componentsIn`: what holds of the items of the lists, and passes on to all that is in a
  value, holds of the components in place.
* `length_componentsIn_lt`: a document has more objects than components in place.
-/

namespace DispatchTables

mutual

/-- The documents in place in an item of a list: its own, and those in the lists of that. -/
def Json.placed : Json → List Members
  | .object doc => doc :: Json.placedMembers doc
  | _ => []

/-- The documents in place in a list. -/
def Json.placedList : Json → List Members
  | .array items => Json.placedItems items
  | _ => []

/-- The documents in place in some items. -/
def Json.placedItems : List Json → List Members
  | [] => []
  | item :: rest => item.placed ++ Json.placedItems rest

/-- The documents in place in the lists of a document. -/
def Json.placedMembers : Members → List Members
  | [] => []
  | (key, value) :: rest =>
    (if edgeKeys.contains key then value.placedList else []) ++ Json.placedMembers rest

end

/-- **The components in place in a document**, at any depth. -/
def componentsIn (doc : Members) : List Members := Json.placedMembers doc

variable {doc x y : Members} {item : Json} {items : List Json} {key : String}

theorem Json.mem_placedItems : x ∈ Json.placedItems items ↔ ∃ item ∈ items, x ∈ item.placed := by
  induction items with
  | nil => simp [placedItems]
  | cons item rest ih => simp [placedItems, ih]

/-- A list of components with all that is in place in it. -/
theorem mem_componentsIn_iff : x ∈ componentsIn doc ↔
    ∃ m ∈ doc, m.1 ∈ edgeKeys ∧ x ∈ m.2.placedList := by
  unfold componentsIn
  induction doc with
  | nil => simp [Json.placedMembers]
  | cons m rest ih =>
    obtain ⟨key, value⟩ := m
    by_cases lists : key ∈ edgeKeys <;> simp [Json.placedMembers, ih, lists]

theorem Json.mem_placedList_iff :
    x ∈ item.placedList ↔ ∃ items, item = .array items ∧ ∃ i ∈ items, x ∈ i.placed := by
  cases item with
  | array items => simp [placedList, mem_placedItems]
  | _ => simp [placedList]

/-- What is in place somewhere in an item or a list has all that is in place in it in place
there. -/
theorem Json.placed_trans (v : Json) (inner : y ∈ componentsIn x) :
    (x ∈ v.placed → y ∈ v.placed) ∧ (x ∈ v.placedList → y ∈ v.placedList) := by
  induction v using Json.inductionOn with
  | array items ih =>
    refine ⟨nofun, fun mem => ?_⟩
    obtain ⟨item, inItems, stands⟩ := mem_placedItems.mp mem
    exact mem_placedItems.mpr ⟨item, inItems, (ih item inItems).1 stands⟩
  | object doc ih =>
    refine ⟨fun mem => ?_, nofun⟩
    rcases List.mem_cons.mp mem with rfl | deeper
    · exact List.mem_cons_of_mem _ inner
    · obtain ⟨m, inDoc, lists, stands⟩ := mem_componentsIn_iff.mp deeper
      exact List.mem_cons_of_mem _
        (mem_componentsIn_iff.mpr ⟨m, inDoc, lists, (ih m inDoc).2 stands⟩)
  | _ => exact ⟨nofun, nofun⟩

/-- **What is in place in a component in place** is in place in the document. -/
theorem componentsIn_trans (outer : x ∈ componentsIn doc) (inner : y ∈ componentsIn x) :
    y ∈ componentsIn doc := by
  obtain ⟨m, mem, lists, stands⟩ := mem_componentsIn_iff.mp outer
  exact mem_componentsIn_iff.mpr ⟨m, mem, lists, (m.2.placed_trans inner).2 stands⟩

/-! ### What passes on -/

/-- **What holds of the items of all lists holds of the components in place**, if it passes on to
the items of arrays and to the members of objects. -/
theorem of_mem_componentsIn {P : Json → Prop}
    (array : ∀ items, P (.array items) → ∀ item ∈ items, P item)
    (object : ∀ doc, P (.object doc) → ∀ m ∈ doc, P m.2)
    (lists : ∀ m ∈ doc, m.1 ∈ edgeKeys → ∀ items, m.2 = .array items → ∀ item ∈ items, P item)
    (mem : x ∈ componentsIn doc) : P (.object x) := by
  have within (v : Json) : (P v → x ∈ v.placed → P (.object x)) ∧
      (P v → x ∈ v.placedList → P (.object x)) := by
    induction v using Json.inductionOn with
    | array items ih =>
      refine ⟨nofun, fun holds mem => ?_⟩
      obtain ⟨item, inItems, stands⟩ := Json.mem_placedItems.mp mem
      exact (ih item inItems).1 (array items holds item inItems) stands
    | object doc ih =>
      refine ⟨fun holds mem => ?_, nofun⟩
      rcases List.mem_cons.mp mem with rfl | deeper
      · exact holds
      · obtain ⟨m, inDoc, -, stands⟩ := mem_componentsIn_iff.mp deeper
        exact (ih m inDoc).2 (object doc holds m inDoc) stands
    | _ => exact ⟨nofun, nofun⟩
  obtain ⟨m, inDoc, listed, stands⟩ := mem_componentsIn_iff.mp mem
  obtain ⟨items, same, item, inItems, stands⟩ := Json.mem_placedList_iff.mp stands
  exact (within item).1 (lists m inDoc listed items same item inItems) stands

/-- In place in a quiet document nothing names sources. -/
theorem quiet_of_mem_componentsIn (quiet : quietLists doc = true) (mem : x ∈ componentsIn doc) :
    (Json.object x).quiet = true := by
  refine of_mem_componentsIn (P := fun v => v.quiet = true) ?_ ?_ ?_ mem
  · intro items quiet
    exact Json.quietItems_iff.mp quiet
  · intro doc quiet
    rw [Json.quiet, Bool.and_eq_true] at quiet
    exact Json.quietMembers_iff.mp quiet.2
  · intro m inDoc lists items same
    have all := listsAll_iff.mp quiet m inDoc lists
    rw [same] at all
    exact List.all_eq_true.mp all

/-- In place in a well-keyed document each object has each key once. -/
theorem wellKeyed_of_mem_componentsIn (keyed : (Json.object doc).wellKeyed = true)
    (mem : x ∈ componentsIn doc) : (Json.object x).wellKeyed = true := by
  refine of_mem_componentsIn (P := fun v => v.wellKeyed = true) ?_ ?_ ?_ mem
  · intro items keyed
    exact Json.wellKeyed_array_iff.mp keyed
  · intro doc keyed
    exact (Json.wellKeyed_object_iff.mp keyed).2
  · intro m inDoc _ items same
    have value := (Json.wellKeyed_object_iff.mp keyed).2 m inDoc
    rw [same] at value
    exact Json.wellKeyed_array_iff.mp value

open Classical in
/-- Whether all that is in place in an item is of some kind. -/
noncomputable def placesOnly (P : Members → Prop) (item : Json) : Bool :=
  decide (∀ x ∈ item.placed, P x)

theorem placesOnly_iff {P : Members → Prop} :
    placesOnly P item = true ↔ ∀ x ∈ item.placed, P x := by
  simp only [placesOnly, decide_eq_true_eq]

/-- All components in place are of some kind if all items of the lists place only such. -/
theorem forall_componentsIn_iff {P : Members → Prop} :
    (∀ x ∈ componentsIn doc, P x) ↔ listsAll edgeKeys (placesOnly P) doc = true := by
  rw [listsAll_iff]
  constructor
  · intro all m inDoc lists
    cases value : m.2 with
    | array items =>
      refine List.all_eq_true.mpr fun item inItems => placesOnly_iff.mpr fun x stands => ?_
      refine all x (mem_componentsIn_iff.mpr ⟨m, inDoc, lists, ?_⟩)
      exact Json.mem_placedList_iff.mpr ⟨items, value, item, inItems, stands⟩
    | _ => rfl
  · intro all x mem
    obtain ⟨m, inDoc, lists, stands⟩ := mem_componentsIn_iff.mp mem
    obtain ⟨items, value, item, inItems, stands⟩ := Json.mem_placedList_iff.mp stands
    have fits := all m inDoc lists
    rw [value] at fits
    exact placesOnly_iff.mp (List.all_eq_true.mp fits item inItems) x stands

/-! ### Counting -/

theorem Json.length_placed_le (v : Json) :
    v.placed.length ≤ v.objectCount ∧ v.placedList.length ≤ v.objectCount := by
  induction v using Json.inductionOn with
  | array items ih =>
    refine ⟨Nat.zero_le _, ?_⟩
    rw [placedList, objectCount]
    induction items with
    | nil => exact Nat.le_refl _
    | cons item rest more =>
      obtain ⟨first, later⟩ := List.forall_mem_cons.mp ih
      rw [placedItems, objectCountItems, List.length_append]
      exact Nat.add_le_add first.1 (more later)
  | object doc ih =>
    refine ⟨?_, Nat.zero_le _⟩
    rw [placed, objectCount, List.length_cons]
    refine Nat.succ_le_succ ?_
    induction doc with
    | nil => exact Nat.le_refl _
    | cons m rest more =>
      obtain ⟨first, later⟩ := List.forall_mem_cons.mp ih
      rw [placedMembers, objectCountMembers, List.length_append]
      refine Nat.add_le_add ?_ (more later)
      split
      · exact first.2
      · exact Nat.zero_le _
  | _ => exact ⟨Nat.zero_le _, Nat.zero_le _⟩

/-- **A document has more objects than components in place**, for it is one itself. -/
theorem length_componentsIn_lt (doc : Members) :
    (componentsIn doc).length < (Json.object doc).objectCount := by
  have counted := ((Json.object doc).length_placed_le).1
  rwa [Json.placed, List.length_cons] at counted

end DispatchTables
