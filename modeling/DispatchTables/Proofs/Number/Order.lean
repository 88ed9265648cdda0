import DispatchTables.Number.Double
import Mathlib.Order.Monotone.Basic

/-!
# Doubles by value

Every finite double is a whole number of the least positive one, so its value is a whole number too.
Positions ascend with magnitudes.  The total order of doubles is therefore that of their values, but
for one pair: the two zeros have one value, and the negative one comes first.

## Main Definitions

* `Double.value`: the value, counted in the least positive double.
* `Double.negativeZero`: the zero with a sign.

## Main Statements

* `Double.strictMono_unitsAt`: magnitudes ascend with positions.
* `Double.value_of_rank_le`: what comes first in the total order is less, or the same, or the
  negative of two zeros.
-/

namespace DispatchTables.Double

variable {x y : Double}

/-- The negative zero. -/
def negativeZero : Double := ⟨true, 0, zero.isFinite⟩

/-- The magnitude, counted in the least positive double. -/
def units (x : Double) : Nat := x.significand * Nat.pow 2 (x.exponent + 1074).toNat

/-- **The value**, counted in the least positive double. -/
def value (x : Double) : Int := if x.negative then -(x.units : Int) else x.units

/-- The magnitude of the double at a position. -/
def unitsAt (position : Nat) : Nat :=
  if position < fractions then position
  else (fractions + position % fractions) * Nat.pow 2 (position / fractions - 1)

theorem units_eq (x : Double) : x.units = unitsAt x.position := by
  have fractions_pos : 0 < fractions := by decide
  unfold units unitsAt significand exponent isSubnormal
  simp only [decide_eq_true_eq]
  split
  · simp
  · rename_i normal
    have one : 1 ≤ x.position / fractions :=
      (Nat.le_div_iff_mul_le fractions_pos).mpr (by omega)
    have same : (((x.position / fractions : Nat) : Int) - 1075 + 1074).toNat =
        x.position / fractions - 1 := by omega
    rw [same]

/-- The next double is greater, also where the exponent goes up. -/
theorem unitsAt_lt_succ (position : Nat) : unitsAt position < unitsAt (position + 1) := by
  unfold unitsAt fractions
  by_cases below : position + 1 < 0x10000000000000
  · rw [if_pos (by omega), if_pos below]
    exact Nat.lt_succ_self position
  · rw [if_neg below]
    by_cases last : position < 0x10000000000000
    · obtain rfl : position = 0xFFFFFFFFFFFFF := by omega
      decide
    · rw [if_neg last]
      by_cases inside : position % 0x10000000000000 + 1 < 0x10000000000000
      · -- the next fraction of the same exponent
        have fraction : (position + 1) % 0x10000000000000 = position % 0x10000000000000 + 1 := by
          omega
        have exponent : (position + 1) / 0x10000000000000 = position / 0x10000000000000 := by omega
        rw [fraction, exponent]
        exact Nat.mul_lt_mul_of_pos_right (by omega) (Nat.pow_pos (by decide))
      · -- the first fraction of the next exponent
        have fraction : (position + 1) % 0x10000000000000 = 0 := by omega
        have exponent : (position + 1) / 0x10000000000000 - 1 =
            position / 0x10000000000000 - 1 + 1 := by omega
        have doubled : ∀ n : Nat, (0x10000000000000 + 0) * Nat.pow 2 (n + 1) =
            (0x10000000000000 + 0x10000000000000) * Nat.pow 2 n := by
          intro n
          rw [show Nat.pow 2 (n + 1) = Nat.pow 2 n * 2 from rfl]
          omega
        rw [fraction, exponent, doubled]
        exact Nat.mul_lt_mul_of_pos_right (by omega) (Nat.pow_pos (by decide))

/-- **Magnitudes ascend with positions.** -/
theorem strictMono_unitsAt : StrictMono unitsAt := strictMono_nat_of_lt_succ unitsAt_lt_succ

theorem units_lt_iff : x.units < y.units ↔ x.position < y.position := by
  rw [units_eq, units_eq]
  exact strictMono_unitsAt.lt_iff_lt

theorem units_pos_iff : 0 < x.units ↔ 0 < x.position := by
  rw [units_eq]
  exact strictMono_unitsAt.lt_iff_lt (a := 0)

/-- **What comes first in the total order** is less than what comes later, or the same, or both are
zero and it is the negative one. -/
theorem value_of_rank_le (h : x.rank ≤ y.rank) :
    x.value < y.value ∨ x = y ∨ x = negativeZero ∧ y = zero := by
  have less : x.position < y.position → x.units < y.units := units_lt_iff.mpr
  have more : y.position < x.position → y.units < x.units := units_lt_iff.mpr
  have xpos : 0 < x.position → 0 < x.units := units_pos_iff.mpr
  have ypos : 0 < y.position → 0 < y.units := units_pos_iff.mpr
  unfold rank at h
  unfold value
  obtain ⟨xn, xp, xf⟩ := x
  obtain ⟨yn, yp, yf⟩ := y
  unfold negativeZero zero
  simp only [Double.mk.injEq] at h less more xpos ypos ⊢
  cases xn <;> cases yn <;> simp at h ⊢ <;> omega

end DispatchTables.Double
