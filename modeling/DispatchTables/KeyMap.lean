/-!
# Maps by key

A finite map from texts, kept in strictly ascending order of its keys.  Every listing of the map is
in that order, whatever order the entries came in.

## Main Definitions

* `KeyMap`: the entries, and that their keys ascend.
* `KeyMap.get?`, `KeyMap.insert`, `KeyMap.keys`.

## Main Statements

* `KeyMap.get?_insert`: a look-up sees the last value put under its key.
* `KeyMap.mem_keys_insert`: an insertion adds its own key and no other.
-/

namespace DispatchTables

/-- A map from texts, in ascending order of keys. -/
structure KeyMap (α : Type) where
  entries : List (String × α)
  ascending : entries.Pairwise (fun a b => a.1 < b.1)

namespace KeyMap

variable {α : Type}

/-- The map without entries. -/
def empty : KeyMap α := ⟨[], List.Pairwise.nil⟩

instance : Inhabited (KeyMap α) := ⟨empty⟩

/-- The value of the first entry with the given key. -/
def findEntry (key : String) : List (String × α) → Option α
  | [] => none
  | (k, v) :: rest => if k = key then some v else findEntry key rest

/-- The value under a key. -/
def get? (m : KeyMap α) (key : String) : Option α := findEntry key m.entries

/-- Whether a key has a value. -/
def has (m : KeyMap α) (key : String) : Bool := (m.get? key).isSome

/-- The keys, ascending. -/
def keys (m : KeyMap α) : List String := m.entries.map (·.1)

/-- The values, in order of their keys. -/
def values (m : KeyMap α) : List α := m.entries.map (·.2)

/-- The number of entries. -/
def size (m : KeyMap α) : Nat := m.entries.length

/-- Puts a value under a key, among ascending entries. -/
def insertEntry (key : String) (value : α) : List (String × α) → List (String × α)
  | [] => [(key, value)]
  | (k, v) :: rest =>
    if key < k then (key, value) :: (k, v) :: rest
    else if key = k then (key, value) :: rest
    else (k, v) :: insertEntry key value rest

theorem mem_insertEntry {key : String} {value : α} {entries : List (String × α)}
    {e : String × α} (h : e ∈ insertEntry key value entries) :
    e = (key, value) ∨ e ∈ entries := by
  induction entries with
  | nil => simpa [insertEntry] using h
  | cons head rest ih =>
    obtain ⟨k, v⟩ := head
    simp only [insertEntry] at h
    split at h
    · simpa using h
    · split at h
      · rcases List.mem_cons.1 h with eq | mem
        · exact .inl eq
        · exact .inr (by simp [mem])
      · rcases List.mem_cons.1 h with eq | mem
        · exact .inr (by simp [eq])
        · rcases ih mem with eq | mem
          · exact .inl eq
          · exact .inr (by simp [mem])

theorem lt_of_not_lt_of_ne {a b : String} (notLt : ¬ a < b) (ne : a ≠ b) : b < a := by
  rcases String.le_total b a with le | le
  · exact Decidable.byContradiction fun h => ne (String.le_antisymm (String.not_lt.1 h) le)
  · exact absurd (String.le_antisymm le (String.not_lt.1 notLt)) ne

theorem pairwise_insertEntry {key : String} {value : α} {entries : List (String × α)}
    (h : entries.Pairwise (fun a b => a.1 < b.1)) :
    (insertEntry key value entries).Pairwise (fun a b => a.1 < b.1) := by
  induction entries with
  | nil => simp [insertEntry]
  | cons head rest ih =>
    obtain ⟨k, v⟩ := head
    obtain ⟨below, ascending⟩ := List.pairwise_cons.1 h
    simp only [insertEntry]
    split
    · rename_i lt
      refine List.pairwise_cons.2 ⟨fun e mem => ?_, h⟩
      rcases List.mem_cons.1 mem with rfl | mem
      · exact lt
      · exact String.lt_trans lt (below e mem)
    · split
      · rename_i eq
        subst eq
        exact List.pairwise_cons.2 ⟨fun e mem => below e mem, ascending⟩
      · rename_i notLt ne
        refine List.pairwise_cons.2 ⟨fun e mem => ?_, ih ascending⟩
        rcases mem_insertEntry mem with rfl | mem
        · exact lt_of_not_lt_of_ne notLt ne
        · exact below e mem

/-- Puts a value under a key, in place of any value there. -/
def insert (m : KeyMap α) (key : String) (value : α) : KeyMap α :=
  ⟨insertEntry key value m.entries, pairwise_insertEntry m.ascending⟩

/-- Puts a value under a key that has none. -/
def insertNew (m : KeyMap α) (key : String) (value : α) : KeyMap α :=
  if m.has key then m else m.insert key value

@[simp] theorem get?_empty (key : String) : (empty : KeyMap α).get? key = none := rfl

theorem findEntry_insertEntry {entries : List (String × α)} {key other : String} {value : α} :
    findEntry other (insertEntry key value entries) =
      if key = other then some value else findEntry other entries := by
  induction entries with
  | nil => simp [insertEntry, findEntry]
  | cons head rest ih =>
    obtain ⟨k, v⟩ := head
    simp only [insertEntry]
    split
    · simp [findEntry]
    · split
      · rename_i same
        subst same
        simp only [findEntry]
        split <;> rfl
      · rename_i ne
        simp only [findEntry, ih]
        split
        · rename_i same
          subst same
          simp [ne]
        · rfl

/-- A look-up sees the last value put under its key. -/
theorem get?_insert (m : KeyMap α) (key other : String) (value : α) :
    (m.insert key value).get? other = if key = other then some value else m.get? other :=
  findEntry_insertEntry

theorem findEntry_isSome_iff {entries : List (String × α)} {key : String} :
    (findEntry key entries).isSome ↔ key ∈ entries.map (·.1) := by
  induction entries with
  | nil => simp [findEntry]
  | cons head rest ih =>
    obtain ⟨k, v⟩ := head
    simp only [findEntry]
    split
    · rename_i same
      simp [same]
    · rename_i ne
      simp [ih, Ne.symm ne]

/-- The keys are those with a value. -/
theorem mem_keys_iff {m : KeyMap α} {key : String} : key ∈ m.keys ↔ (m.get? key).isSome :=
  findEntry_isSome_iff.symm

/-- An insertion adds its own key and no other. -/
theorem mem_keys_insert {m : KeyMap α} {key other : String} {value : α} :
    other ∈ (m.insert key value).keys ↔ key = other ∨ other ∈ m.keys := by
  rw [mem_keys_iff, mem_keys_iff, get?_insert]
  by_cases eq : key = other <;> simp [eq]

end KeyMap

end DispatchTables
