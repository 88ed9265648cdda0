import Mathlib.Data.List.Forall2
import Mathlib.Data.List.Induction

/-!
# Places in a list

Many passes treat an item by what stands before it.  What they do is told by the places of the list:
by the ways to split it at an item, or by the number of items before one.

## Main Statements

* `append_singleton_eq_append_cons`: the places of a list with one item more.
* `exists_of_forall₂`: each item of a list has its partner in a list that is related to it.
* `exists_place_of_lt_count`, `count_take_lt`: equal items are numbered by those before them.
* `findSome?_range_eq_some_iff`: the first number under which something is found.
* `not_mem_of_mem_splitOn`, `mem_of_mem_splitOn`: what the pieces of a list hold that is split.
-/

namespace DispatchTables

/-- A place in a list that one item extends is the last one, or a place before it. -/
theorem append_singleton_eq_append_cons {α : Type} {es before after : List α} {e x : α}
    (h : es ++ [e] = before ++ x :: after) :
    (es = before ∧ e = x ∧ after = []) ∨ ∃ after', es = before ++ x :: after' := by
  rcases after.eq_nil_or_concat with rfl | ⟨rest, last, rfl⟩
  · obtain ⟨same, item⟩ := List.append_inj' h rfl
    exact .inl ⟨same, List.head_eq_of_cons_eq item, rfl⟩
  · rw [List.concat_eq_append, ← List.cons_append, ← List.append_assoc] at h
    exact .inr ⟨rest, (List.append_inj' h rfl).1⟩

/-- What is related item by item has something related to each item. -/
theorem exists_of_forall₂ {α β : Type} {r : α → β → Prop} {xs : List α} {ys : List β}
    (all : List.Forall₂ r xs ys) {x : α} (mem : x ∈ xs) : ∃ y ∈ ys, r x y := by
  induction all with
  | nil => cases mem
  | cons first _ ih =>
    rcases List.mem_cons.mp mem with rfl | later
    · exact ⟨_, List.mem_cons_self, first⟩
    · obtain ⟨y, mem, related⟩ := ih later
      exact ⟨y, List.mem_cons_of_mem _ mem, related⟩

section Count

variable {α : Type} [BEq α] [LawfulBEq α] {x : α} {xs : List α}

/-- An item that is there more than `n` times is there after `n` equal ones. -/
theorem exists_place_of_lt_count {n : Nat} (lt : n < xs.count x) :
    ∃ i, xs[i]? = some x ∧ (xs.take i).count x = n := by
  induction xs generalizing n with
  | nil => simp at lt
  | cons y rest ih =>
    by_cases same : y = x
    · subst same
      cases n with
      | zero => exact ⟨0, rfl, rfl⟩
      | succ n =>
        rw [List.count_cons_self] at lt
        obtain ⟨i, here, before⟩ := ih (Nat.lt_of_succ_lt_succ lt)
        exact ⟨i + 1, here, by rw [List.take_succ_cons, List.count_cons_self, before]⟩
    · rw [List.count_cons_of_ne same] at lt
      obtain ⟨i, here, before⟩ := ih lt
      exact ⟨i + 1, here, by rw [List.take_succ_cons, List.count_cons_of_ne same, before]⟩

/-- Before a place there are fewer equal items than before a later place. -/
theorem count_take_lt {i j : Nat} (here : xs[i]? = some x) (lt : i < j) :
    (xs.take i).count x < (xs.take j).count x := by
  have next : (xs.take (i + 1)).count x = (xs.take i).count x + 1 := by
    rw [List.take_add_one, here, Option.toList_some, List.count_append, List.count_singleton_self]
  have more : (xs.take (i + 1)).count x ≤ (xs.take j).count x :=
    (List.take_sublist_take_left lt).count_le x
  omega

/-- Before a place there are fewer equal items than in the list. -/
theorem count_take_lt_count {i : Nat} (here : xs[i]? = some x) :
    (xs.take i).count x < xs.count x := by
  have within := (List.getElem?_eq_some_iff.mp here).1
  simpa using count_take_lt here within

end Count

/-- The first number of a range under which something is found. -/
theorem findSome?_range_eq_some_iff {β : Type} {f : Nat → Option β} {n : Nat} {b : β} :
    (List.range n).findSome? f = some b ↔ ∃ i < n, f i = some b ∧ ∀ j < i, f j = none := by
  induction n with
  | zero => simp
  | succ n ih =>
    rw [List.range_succ, List.findSome?_append, Option.or_eq_some_iff, ih,
      List.findSome?_eq_none_iff]
    simp only [List.findSome?_singleton, List.mem_range]
    constructor
    · rintro (⟨i, lt, here, none⟩ | ⟨none, here⟩)
      · exact ⟨i, Nat.lt_succ_of_lt lt, here, none⟩
      · exact ⟨n, Nat.lt_succ_self n, here, none⟩
    · rintro ⟨i, lt, here, none⟩
      rcases Nat.lt_succ_iff_lt_or_eq.mp lt with lt | rfl
      · exact .inl ⟨i, lt, here, none⟩
      · exact .inr ⟨none, here⟩

/-! ### The pieces between places -/

/-- No piece of a list that has been split holds what it has been split at. -/
theorem not_mem_of_mem_splitOn {α : Type} [BEq α] [LawfulBEq α] {x : α} {xs piece : List α}
    (mem : piece ∈ xs.splitOn x) : x ∉ piece := by
  induction xs generalizing piece with
  | nil =>
    rw [List.splitOn_nil, List.mem_singleton] at mem
    rw [mem]
    exact List.not_mem_nil
  | cons y rest ih =>
    rw [List.splitOn_cons_eq_if_modifyHead] at mem
    split at mem
    · rcases List.mem_cons.mp mem with rfl | later
      · exact List.not_mem_nil
      · exact ih later
    · rename_i other
      cases pieces : rest.splitOn x with
      | nil => exact absurd pieces (List.splitOn_ne_nil _ _)
      | cons first more =>
        rw [pieces] at mem ih
        rcases List.mem_cons.mp mem with rfl | later
        · have fresh := ih List.mem_cons_self
          have differs : x ≠ y := fun same => other (by simp [same])
          simp [fresh, differs]
        · exact ih (List.mem_cons_of_mem first later)

/-- What is joined holds its pieces. -/
theorem subset_intercalate {α : Type} {sep piece : List α} {pieces : List (List α)}
    (mem : piece ∈ pieces) : piece ⊆ sep.intercalate pieces := by
  induction pieces with
  | nil => cases mem
  | cons first rest ih =>
    by_cases last : rest = []
    · subst last
      rw [List.mem_singleton] at mem
      simp [mem]
    · rw [List.intercalate_cons_of_ne_nil last]
      rcases List.mem_cons.mp mem with rfl | later
      · exact fun x inFirst => by simp [inFirst]
      · exact fun x inLater => by simp [ih later inLater]

/-- What a piece of a list holds the list holds. -/
theorem mem_of_mem_splitOn {α : Type} [BEq α] [LawfulBEq α] {x y : α} {xs piece : List α}
    (inside : piece ∈ xs.splitOn x) (mem : y ∈ piece) : y ∈ xs := by
  have within : y ∈ [x].intercalate (xs.splitOn x) := subset_intercalate inside mem
  rwa [List.intercalate_splitOn] at within

end DispatchTables
