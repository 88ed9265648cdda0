import DispatchTables.Text.Blank
import DispatchTables.Text.Identifier
import DispatchTables.Text.Letters
import Mathlib.Data.List.TakeWhile

/-!
# Runs of characters

Texts are taken apart by classes of characters: blanks around a text, the characters of a name, the
characters of an identifier.  A run ends where a character of another class stands, so it is found
again in every text that it has been put into.

## Main Definitions

* `StopsAt`: no character of a class stands at the front of a text.
* `AllBlank`: a text of blanks.
* `CharSet.Apart`: no interval of one list meets one of another.

## Main Statements

* `run_unique`: a text splits into a run and what stops it in one way only.
* `trimBlankChars_padded`: trimming takes away the blanks that have been put around a text.
* `exists_padding`: and nothing but blanks.
* `not_isAlphanumeric_of_isBlank`, `not_continuesIdentifier_of_isBlank`: no blank is a letter.
-/

namespace DispatchTables.Text

/-! ### Runs -/

/-- No character of a class stands at the front. -/
def StopsAt (p : Char → Bool) (cs : List Char) : Prop := ∀ c, cs.head? = some c → p c = false

variable {p : Char → Bool} {xs ys xs' ys' : List Char}

theorem stopsAt_cons {c : Char} (h : p c = false) (cs : List Char) : StopsAt p (c :: cs) := by
  intro d head
  cases head
  exact h

/-- What begins with a text that is not empty stops where the text does. -/
theorem StopsAt.append (h : StopsAt p xs) (nonempty : xs ≠ []) (ys : List Char) :
    StopsAt p (xs ++ ys) := by
  cases xs with
  | nil => exact absurd rfl nonempty
  | cons c rest => exact stopsAt_cons (h c rfl) _

theorem takeWhile_run (run : ∀ c ∈ xs, p c = true) (stop : StopsAt p ys) :
    (xs ++ ys).takeWhile p = xs := by
  rw [List.takeWhile_append_of_pos run]
  cases ys with
  | nil => simp
  | cons c rest => simp [stop c rfl]

theorem dropWhile_run (run : ∀ c ∈ xs, p c = true) (stop : StopsAt p ys) :
    (xs ++ ys).dropWhile p = ys := by
  rw [List.dropWhile_append_of_pos run]
  cases ys with
  | nil => rfl
  | cons c rest => simp [stop c rfl]

/-- What is checked for each character of a text holds of all of them. -/
theorem forall_mem_of_all {q : Char → Prop} [DecidablePred q]
    (checked : (xs.all fun c => decide (q c)) = true) : ∀ c ∈ xs, q c :=
  fun c mem => of_decide_eq_true (List.all_eq_true.mp checked c mem)

/-- **A text splits into a run and what stops it** in one way only. -/
theorem run_unique (run : ∀ c ∈ xs, p c = true) (stop : StopsAt p ys)
    (run' : ∀ c ∈ xs', p c = true) (stop' : StopsAt p ys') (same : xs ++ ys = xs' ++ ys') :
    xs = xs' ∧ ys = ys' := by
  constructor
  · rw [← takeWhile_run run stop, same, takeWhile_run run' stop']
  · rw [← dropWhile_run run stop, same, dropWhile_run run' stop']

/-! ### Blanks around a text -/

/-- A text of blanks. -/
def AllBlank (cs : List Char) : Prop := ∀ c ∈ cs, isBlank c = true

theorem allBlank_nil : AllBlank [] := by
  intro c mem
  cases mem

theorem AllBlank.append (hx : AllBlank xs) (hy : AllBlank ys) : AllBlank (xs ++ ys) := by
  intro c mem
  exact (List.mem_append.mp mem).elim (hx c) (hy c)

theorem allBlank_reverse (h : AllBlank xs) : AllBlank xs.reverse := fun c mem =>
  h c (List.mem_reverse.mp mem)

theorem allBlank_takeWhile (cs : List Char) : AllBlank (cs.takeWhile isBlank) := by
  intro c mem
  exact List.mem_takeWhile_imp mem

/-- **Trimming takes away the blanks around a text** that neither begins nor ends with one. -/
theorem trimBlankChars_padded {before cs after : List Char} (blankBefore : AllBlank before)
    (blankAfter : AllBlank after) (begins : StopsAt isBlank cs)
    (ends : StopsAt isBlank cs.reverse) :
    trimBlankChars (before ++ cs ++ after) = cs := by
  unfold trimBlankChars dropBlank
  by_cases empty : cs = []
  · subst empty
    have blank : AllBlank (before ++ [] ++ after) :=
      (blankBefore.append allBlank_nil).append blankAfter
    rw [List.dropWhile_eq_nil_iff.mpr blank]
    rfl
  · rw [List.append_assoc, dropWhile_run blankBefore (begins.append empty after),
      List.reverse_append, dropWhile_run (allBlank_reverse blankAfter) ends, List.reverse_reverse]

/-- **Trimming takes away nothing but blanks.** -/
theorem exists_padding (cs : List Char) :
    ∃ before after, AllBlank before ∧ AllBlank after ∧
      cs = before ++ trimBlankChars cs ++ after := by
  refine ⟨cs.takeWhile isBlank, ((dropBlank cs).reverse.takeWhile isBlank).reverse,
    allBlank_takeWhile cs, allBlank_reverse (allBlank_takeWhile _), ?_⟩
  unfold trimBlankChars dropBlank
  rw [List.append_assoc, ← List.reverse_append, List.takeWhile_append_dropWhile,
    List.reverse_reverse, List.takeWhile_append_dropWhile]

/-! ### Classes of characters -/

namespace CharSet

/-- No interval of one list meets one of another. -/
def Apart (intervals others : List (Nat × Nat)) : Prop :=
  ∀ i ∈ intervals, ∀ j ∈ others, i.2 < j.1 ∨ j.2 < i.1

instance (intervals others : List (Nat × Nat)) : Decidable (Apart intervals others) :=
  inferInstanceAs (Decidable (∀ i ∈ intervals, ∀ j ∈ others, i.2 < j.1 ∨ j.2 < i.1))

/-- Intervals are compared by their bounds alone, which runs through the classes of Unicode faster
than the instance does. -/
theorem apart_of_all {intervals others : List (Nat × Nat)}
    (all : (intervals.all fun i => others.all fun j =>
      Nat.blt i.2 j.1 || Nat.blt j.2 i.1) = true) : Apart intervals others := by
  intro i inFirst j inSecond
  have := List.all_eq_true.mp (List.all_eq_true.mp all i inFirst) j inSecond
  simpa only [Bool.or_eq_true, Nat.blt_eq] using this

/-- A character of a set is in none that is apart from it. -/
theorem contains_eq_false_of_apart {s t : CharSet} (apart : Apart s.intervals t.intervals)
    {c : Char} (mem : s.contains c = true) : t.contains c = false := by
  obtain ⟨i, inFirst, lower, upper⟩ := exists_interval_of_covers mem
  refine Bool.eq_false_iff.mpr fun other => ?_
  obtain ⟨j, inSecond, lower', upper'⟩ := exists_interval_of_covers other
  have := apart i inFirst j inSecond
  omega

end CharSet

/-- No blank is a letter or a number. -/
theorem not_isAlphanumeric_of_isBlank {c : Char} (h : isBlank c = true) :
    isAlphanumeric c = false := by
  have letters : CharSet.Apart blanks.intervals alphabetic.intervals :=
    CharSet.apart_of_all (by decide +kernel)
  have digits : CharSet.Apart blanks.intervals numbers.intervals :=
    CharSet.apart_of_all (by decide +kernel)
  rw [isAlphanumeric, CharSet.contains_eq_false_of_apart letters h,
    CharSet.contains_eq_false_of_apart digits h, Bool.false_or]

/-- No blank stands in an identifier. -/
theorem not_continuesIdentifier_of_isBlank {c : Char} (h : isBlank c = true) :
    continuesIdentifier c = false := by
  have apart : CharSet.Apart blanks.intervals identifierContinue.intervals :=
    CharSet.apart_of_all (by decide +kernel)
  exact CharSet.contains_eq_false_of_apart apart h

/-- No identifier begins with a blank. -/
theorem not_startsIdentifier_of_isBlank {c : Char} (h : isBlank c = true) :
    startsIdentifier c = false := by
  have apart : CharSet.Apart blanks.intervals identifierStart.intervals :=
    CharSet.apart_of_all (by decide +kernel)
  have other : c ≠ '_' := by
    rintro rfl
    revert h
    decide
  rw [startsIdentifier, CharSet.contains_eq_false_of_apart apart h, Bool.or_false]
  exact beq_eq_false_iff_ne.mpr other

end DispatchTables.Text
