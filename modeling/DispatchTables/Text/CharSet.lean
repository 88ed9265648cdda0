/-!
# Sets of characters

A set of characters is a list of closed intervals of code points in ascending order, which is how
the classes of the Unicode character database are published.

## Main Definitions

* `CharSet`: the intervals.
* `CharSet.contains`: membership; the search stops at the first interval beyond the character.
-/

namespace DispatchTables.Text

/-- Closed intervals of code points, ascending and disjoint. -/
structure CharSet where
  intervals : List (Nat × Nat)

namespace CharSet

/-- Membership of a code point in ascending intervals. -/
def covers : List (Nat × Nat) → Nat → Bool
  | [], _ => false
  | (low, high) :: rest, n => if n < low then false else n ≤ high || covers rest n

/-- Membership of a character. -/
def contains (s : CharSet) (c : Char) : Bool := covers s.intervals c.toNat

/-- Whatever the set covers lies in one of its intervals. -/
theorem exists_interval_of_covers {intervals : List (Nat × Nat)} {n : Nat}
    (h : covers intervals n = true) : ∃ i ∈ intervals, i.1 ≤ n ∧ n ≤ i.2 := by
  induction intervals with
  | nil => simp [covers] at h
  | cons i rest ih =>
    obtain ⟨low, high⟩ := i
    simp only [covers] at h
    split at h
    · simp at h
    · rename_i notBelow
      simp only [Bool.or_eq_true, decide_eq_true_eq] at h
      rcases h with le | covered
      · exact ⟨(low, high), by simp, by simp; omega, le⟩
      · obtain ⟨j, mem, bounds⟩ := ih covered
        exact ⟨j, by simp [mem], bounds⟩

end CharSet

end DispatchTables.Text
