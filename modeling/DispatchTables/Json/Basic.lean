import DispatchTables.Number.Double

/-!
# JSON values

Values as they stand in a document.  The members of an object keep the order they were written in:
that order decides the order of generated tables, so an object is a list of members, each key once.

## Main Definitions

* `Json`: the values; `Json.Number` keeps whole numbers apart from doubles.
* `Members`: the members of an object, with `get?`, `has`, `insert` and `erase`.
* `Json.same`: equality up to the order of members.
-/

namespace DispatchTables

/-- A number of a document: whole numbers that fit 64 bits are kept exactly. -/
inductive Json.Number where
  | whole (n : Int)
  | double (x : Double)
  deriving DecidableEq, Inhabited

/-- A JSON value. -/
inductive Json where
  | null
  | bool (b : Bool)
  | number (n : Json.Number)
  | string (s : String)
  | array (items : List Json)
  | object (members : List (String × Json))
  deriving Inhabited

/-- The members of an object, in document order. -/
abbrev Members := List (String × Json)

/-! ### Members -/

namespace Members

/-- The value of the first member with the given key. -/
def get? : Members → String → Option Json
  | [], _ => none
  | (k, v) :: rest, key => if k = key then some v else get? rest key

/-- Whether a member has the given key. -/
def has (ms : Members) (key : String) : Bool := (ms.get? key).isSome

/-- The keys, in document order. -/
def keys (ms : Members) : List String := ms.map (·.1)

/-- Replaces the value of a key in place, or appends a member. -/
def insert : Members → String → Json → Members
  | [], key, value => [(key, value)]
  | (k, v) :: rest, key, value =>
    if k = key then (key, value) :: rest else (k, v) :: insert rest key value

/-- The members with other keys. -/
def erase (ms : Members) (key : String) : Members := ms.filter fun m => m.1 != key

@[simp] theorem get?_nil (key : String) : get? [] key = none := rfl

theorem get?_insert (ms : Members) (key other : String) (value : Json) :
    (ms.insert key value).get? other = if key = other then some value else ms.get? other := by
  induction ms with
  | nil => simp [insert, get?]
  | cons m rest ih =>
    obtain ⟨k, v⟩ := m
    simp only [insert]
    split
    · subst_vars; simp [get?]; split <;> simp_all
    · rename_i differs
      simp only [get?, ih]
      split
      · rename_i same; subst same
        simp [Ne.symm differs]
      · rfl

theorem keys_insert (ms : Members) (key : String) (value : Json) :
    (ms.insert key value).keys = if key ∈ ms.keys then ms.keys else ms.keys ++ [key] := by
  induction ms with
  | nil => simp [insert, keys]
  | cons m rest ih =>
    obtain ⟨k, v⟩ := m
    simp only [keys] at ih ⊢
    simp only [insert]
    split
    · subst_vars; simp
    · rename_i differs
      simp only [List.map_cons, ih]
      by_cases mem : key ∈ rest.map (·.1)
      · simp [mem]
      · simp [mem, Ne.symm differs]

theorem get?_erase (ms : Members) (key other : String) :
    (ms.erase key).get? other = if key = other then none else ms.get? other := by
  induction ms with
  | nil => simp [erase]
  | cons m rest ih =>
    obtain ⟨k, v⟩ := m
    simp only [erase] at ih ⊢
    by_cases hk : k = key
    · subst hk
      simp only [List.filter_cons, bne_self_eq_false, Bool.false_eq_true, if_false, ih, get?]
      split <;> simp_all
    · have kept : (k != key) = true := by simp [hk]
      simp only [List.filter_cons, kept, if_true, get?, ih]
      split
      · rename_i same; subst same
        simp [Ne.symm hk]
      · rfl

end Members

/-! ### Equality -/

/-- Equality of numbers: a whole number never equals a double, and the two zeros among the doubles
are equal. -/
def Json.Number.same : Json.Number → Json.Number → Bool
  | .whole n, .whole m => n == m
  | .double x, .double y => x.sameValue y
  | _, _ => false

mutual

/-- Equality of values, objects compared regardless of the order of their members. -/
def Json.same : Json → Json → Bool
  | .null, .null => true
  | .bool a, .bool b => a == b
  | .number n, .number m => n.same m
  | .string s, .string t => s == t
  | .array xs, .array ys => Json.sameItems xs ys
  | .object ms, .object ns => ms.length == ns.length && Json.sameMembers ms ns
  | _, _ => false

/-- Equality of lists, item by item. -/
def Json.sameItems : List Json → List Json → Bool
  | [], [] => true
  | x :: xs, y :: ys => x.same y && Json.sameItems xs ys
  | _, _ => false

/-- Whether each member of the first object has an equal partner in the second. -/
def Json.sameMembers : Members → Members → Bool
  | [], _ => true
  | (k, v) :: rest, other =>
    (match Members.get? other k with
      | some w => v.same w
      | none => false) && Json.sameMembers rest other

end

namespace Json

/-! ### Views -/

/-- The text of a string. -/
def asString? : Json → Option String
  | .string s => some s
  | _ => none

/-- The items of an array. -/
def asArray? : Json → Option (List Json)
  | .array items => some items
  | _ => none

/-- The members of an object. -/
def asObject? : Json → Option Members
  | .object members => some members
  | _ => none

/-- A whole number. -/
def nat (n : Nat) : Json := .number (.whole n)

/-- A text, or null. -/
def ofText? : Option String → Json
  | some s => .string s
  | none => .null

end Json

end DispatchTables
