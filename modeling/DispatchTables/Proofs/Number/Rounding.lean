import DispatchTables.Number.Format
import DispatchTables.Proofs.Number.Order
import Mathlib.Algebra.Order.Field.Power
import Mathlib.Data.List.TakeWhile
import Mathlib.Data.Rat.Cast.Order
import Mathlib.Tactic.FieldSimp
import Mathlib.Tactic.Linarith
import Mathlib.Tactic.Positivity
import Mathlib.Tactic.Ring

/-!
# Rounding to doubles

A real number rounds to the double that it is nearest to, so every double has an interval around it,
from midway to the double below to midway to the one above.  Midway itself belongs to the double at
an even position.  No number is in two of these intervals, and the shortest digits of a double are
always in its own: they are looked for there, and seventeen digits are close enough in any case.

## Main Definitions

* `Double.magnitudeAt`, `Double.midAbove`: the doubles and what is midway between them.
* `Double.Rounds`: a number rounds to the double at a position.
* `Decimal.value`: what digits stand for.

## Main Statements

* `Double.rounds_unique`: a number rounds to one double only.
* `Double.roundsTo_iff`: the test of the search is this interval.
* `Double.rounds_shortest`: the shortest digits of a double round to it.
-/

namespace DispatchTables.Double

variable {x : Double} {p q : Nat} {v : ℚ} {tie : Tie}

/-! ### Steps between doubles -/

/-- How far it is to the next double, counted in the least positive one. -/
def stepAt (position : Nat) : Nat := 2 ^ (position / fractions - 1)

theorem stepAt_pos (position : Nat) : 0 < stepAt position := Nat.pow_pos (by decide)

/-- **The next double** is one step on, also where the exponent goes up. -/
theorem unitsAt_succ (position : Nat) :
    unitsAt (position + 1) = unitsAt position + stepAt position := by
  unfold unitsAt stepAt fractions
  by_cases below : position + 1 < 0x10000000000000
  · rw [if_pos below, if_pos (by omega), Nat.div_eq_of_lt (by omega)]
    rfl
  · rw [if_neg below]
    by_cases last : position < 0x10000000000000
    · obtain rfl : position = 0xFFFFFFFFFFFFF := by omega
      decide
    · rw [if_neg last]
      change _ * 2 ^ _ = _ * 2 ^ _ + _
      by_cases inside : position % 0x10000000000000 + 1 < 0x10000000000000
      · -- the next fraction of the same exponent
        have fraction : (position + 1) % 0x10000000000000 = position % 0x10000000000000 + 1 := by
          omega
        have exponent : (position + 1) / 0x10000000000000 = position / 0x10000000000000 := by omega
        rw [fraction, exponent]
        ring
      · -- the first fraction of the next exponent
        have fraction : (position + 1) % 0x10000000000000 = 0 := by omega
        have full : position % 0x10000000000000 = 0xFFFFFFFFFFFFF := by omega
        have exponent : (position + 1) / 0x10000000000000 - 1 =
            position / 0x10000000000000 - 1 + 1 := by omega
        rw [fraction, exponent, full]
        ring

/-- The step to a double from the one below it: half as long as the step onward where the exponent
has gone up, else the same. -/
theorem stepAt_pred (x : Double) (positive : 0 < x.position) :
    2 * stepAt (x.position - 1) = (if x.narrowBelow then 1 else 2) * stepAt x.position := by
  unfold narrowBelow stepAt fractions
  by_cases edge : x.position % 0x10000000000000 = 0
  · by_cases high : x.position / 0x10000000000000 > 1
    · have exponent : x.position / 0x10000000000000 - 1 =
          (x.position - 1) / 0x10000000000000 - 1 + 1 := by omega
      rw [if_pos (by simp [edge, high]), exponent]
      ring
    · have exponent : x.position / 0x10000000000000 - 1 =
          (x.position - 1) / 0x10000000000000 - 1 := by omega
      rw [if_neg (by simp [high]), exponent]
  · have exponent : x.position / 0x10000000000000 = (x.position - 1) / 0x10000000000000 := by omega
    rw [if_neg (by simp [edge]), exponent]

theorem exponent_ge (x : Double) : -1074 ≤ x.exponent := by
  have fractions_pos : 0 < fractions := by decide
  unfold exponent isSubnormal
  simp only [decide_eq_true_eq]
  split
  · exact Int.le_refl _
  · rename_i normal
    have one : 1 ≤ x.position / fractions :=
      (Nat.le_div_iff_mul_le fractions_pos).mpr (by omega)
    omega

theorem stepAt_eq (x : Double) : stepAt x.position = 2 ^ (x.exponent + 1074).toNat := by
  unfold stepAt exponent isSubnormal
  simp only [decide_eq_true_eq]
  split
  · rename_i below
    rw [Nat.div_eq_of_lt below]
    rfl
  · congr 1
    omega

/-! ### Intervals -/

/-- The least positive double. -/
def least : ℚ := 1 / 2 ^ 1074

theorem least_pos : 0 < least := div_pos one_pos (pow_pos two_pos _)

/-- The magnitude of the double at a position. -/
def magnitudeAt (position : Nat) : ℚ := unitsAt position * least

/-- What is midway from the double at a position to the next. -/
def midAbove (position : Nat) : ℚ := (magnitudeAt position + magnitudeAt (position + 1)) / 2

/-- What is midway to the double at a position from the one below it; zero has none below. -/
def midBelow (position : Nat) : ℚ := if position = 0 then 0 else midAbove (position - 1)

/-- **A number rounds to the double at a position** if it is within midway to both neighbours; if it
is midway the position is even. -/
def Rounds (position : Nat) (v : ℚ) : Prop :=
  midBelow position ≤ v ∧ v ≤ midAbove position ∧
    (position % 2 ≠ 0 → midBelow position ≠ v ∧ v ≠ midAbove position)

theorem magnitudeAt_lt_iff : magnitudeAt p < magnitudeAt q ↔ p < q := by
  unfold magnitudeAt
  rw [mul_lt_mul_iff_of_pos_right least_pos, Nat.cast_lt]
  exact strictMono_unitsAt.lt_iff_lt

theorem midAbove_lt_iff : midAbove p < midAbove q ↔ p < q := by
  constructor
  · intro less
    by_contra above
    have first : magnitudeAt q ≤ magnitudeAt p :=
      not_lt.mp fun lt => above (magnitudeAt_lt_iff.mp lt)
    have second : magnitudeAt (q + 1) ≤ magnitudeAt (p + 1) :=
      not_lt.mp fun lt => above (by have := magnitudeAt_lt_iff.mp lt; omega)
    unfold midAbove at less
    linarith
  · intro less
    have first := magnitudeAt_lt_iff.mpr less
    have second := magnitudeAt_lt_iff.mpr (Nat.succ_lt_succ less)
    unfold midAbove
    linarith

theorem rounds_zero : Rounds 0 0 := by
  have first := magnitudeAt_lt_iff.mpr Nat.zero_lt_one
  have zero : magnitudeAt 0 = 0 := by
    rw [magnitudeAt, unitsAt, if_pos (by decide), Nat.cast_zero, zero_mul]
  refine ⟨(if_pos rfl : midBelow 0 = 0).le, ?_, fun odd => absurd rfl odd⟩
  unfold midAbove
  linarith

/-- **A number rounds to one double only.** -/
theorem rounds_unique (hp : Rounds p v) (hq : Rounds q v) : p = q := by
  rcases lt_trichotomy p q with less | same | more
  · exact absurd hq (not_rounds_above less hp)
  · exact same
  · exact absurd hp (not_rounds_above more hq)
where
  not_rounds_above {p q : Nat} (less : p < q) (hp : Rounds p v) : ¬ Rounds q v := by
    intro hq
    obtain ⟨-, above, notAbove⟩ := hp
    obtain ⟨below, -, notBelow⟩ := hq
    have lower : midBelow q = midAbove (q - 1) := if_neg (by omega)
    by_cases next : q = p + 1
    · -- midway between neighbours, of which one is at an odd position
      subst next
      have same : midBelow (p + 1) = v := le_antisymm below (lower ▸ above)
      rcases Nat.mod_two_eq_zero_or_one p with even | odd
      · exact (notBelow (by omega)).1 same
      · exact (notAbove (by omega)).2 (same.symm.trans lower)
    · have apart := midAbove_lt_iff.mpr (show p < q - 1 by omega)
      rw [lower] at below
      linarith

/-! ### The test of the search -/

/-- The step to the next double, as the search has it. -/
theorem step_eq (x : Double) :
    (stepAt x.position : ℚ) * least = 2 ^ x.exponent.toNat / x.denominator := by
  have split : (x.exponent + 1074).toNat + (-x.exponent).toNat = x.exponent.toNat + 1074 := by
    have := exponent_ge x
    omega
  have whole : (x.denominator : ℚ) = 2 ^ (-x.exponent).toNat := by
    unfold denominator
    exact Nat.cast_pow 2 _
  rw [whole, stepAt_eq, least, mul_one_div,
    div_eq_div_iff (pow_ne_zero _ two_ne_zero) (pow_ne_zero _ two_ne_zero), ← pow_add, ← split,
    pow_add, Nat.cast_pow]
  rfl

theorem unitsAt_eq (x : Double) : unitsAt x.position = x.significand * stepAt x.position := by
  rw [← units_eq, stepAt_eq]
  rfl

theorem magnitude_eq (x : Double) :
    magnitudeAt x.position = x.significand * (2 ^ x.exponent.toNat / x.denominator) := by
  rw [magnitudeAt, unitsAt_eq, ← step_eq]
  push_cast
  ring

theorem midAbove_eq (x : Double) :
    midAbove x.position =
      (4 * x.significand + 2) * (2 ^ x.exponent.toNat / x.denominator) / 4 := by
  have next : magnitudeAt (x.position + 1) =
      magnitudeAt x.position + 2 ^ x.exponent.toNat / x.denominator := by
    rw [← step_eq, magnitudeAt, magnitudeAt, unitsAt_succ]
    push_cast
    ring
  rw [midAbove, next, magnitude_eq]
  ring

theorem midBelow_eq (positive : 0 < x.position) :
    midBelow x.position = (4 * x.significand - (if x.narrowBelow then 1 else 2)) *
      (2 ^ x.exponent.toNat / x.denominator) / 4 := by
  have back : x.position - 1 + 1 = x.position := by omega
  have next : magnitudeAt x.position =
      magnitudeAt (x.position - 1) + stepAt (x.position - 1) * least := by
    rw [magnitudeAt, magnitudeAt, ← add_mul, ← Nat.cast_add, ← unitsAt_succ, back]
  have step : 2 * ((stepAt (x.position - 1) : ℚ) * least) =
      (if x.narrowBelow then 1 else 2) * (2 ^ x.exponent.toNat / x.denominator) := by
    have steps := congrArg (Nat.cast : Nat → ℚ) (stepAt_pred x positive)
    push_cast at steps
    rw [← step_eq, ← mul_assoc, steps]
    ring
  rw [midBelow, if_neg (by omega), midAbove, back]
  linarith [magnitude_eq x]

/-- The significand of a double that is not zero. -/
theorem significand_pos (positive : 0 < x.position) : 0 < x.significand := by
  have fractions_pos : 0 < fractions := by decide
  unfold significand
  split <;> omega

theorem significand_mod_two (x : Double) : x.significand % 2 = x.position % 2 := by
  unfold significand fractions
  split <;> omega

/-- A power of ten with its denominator multiplied out. -/
theorem zpow_mul_pow (k : Int) : (10 : ℚ) ^ k * 10 ^ (-k).toNat = 10 ^ k.toNat := by
  rw [← zpow_natCast, ← zpow_natCast, ← zpow_add₀ (by norm_num)]
  congr 1
  omega

/-- **The test of the search** is whether a multiple of a power of ten rounds to the double. -/
theorem roundsTo_iff (positive : 0 < x.position) (digits : Nat) (k : Int) :
    x.roundsTo digits k = true ↔ Rounds x.position (digits * 10 ^ k) := by
  -- both sides are multiplied by four times the denominators
  obtain ⟨scale, is⟩ : ∃ scale : ℚ, scale = 4 * x.denominator * 10 ^ (-k).toNat := ⟨_, rfl⟩
  have denominator : (0 : ℚ) < x.denominator := Nat.cast_pos.mpr x.denominator_pos
  have scale_pos : 0 < scale := by
    rw [is]
    positivity
  have point : ((4 * digits * 10 ^ k.toNat * x.denominator : Nat) : ℚ) =
      digits * 10 ^ k * scale := by
    push_cast
    rw [is, ← zpow_mul_pow k]
    ring
  have high : (((4 * x.significand + 2) * 2 ^ x.exponent.toNat * 10 ^ (-k).toNat : Nat) : ℚ) =
      midAbove x.position * scale := by
    push_cast
    rw [is, midAbove_eq]
    field_simp
  have low : (((4 * x.significand - (if x.narrowBelow then 1 else 2)) * 2 ^ x.exponent.toNat *
      10 ^ (-k).toNat : Nat) : ℚ) = midBelow x.position * scale := by
    have within : (if x.narrowBelow then 1 else 2) ≤ 4 * x.significand := by
      have := significand_pos positive
      split <;> omega
    rw [Nat.cast_mul, Nat.cast_mul, Nat.cast_sub within, is, midBelow_eq positive]
    push_cast
    field_simp
  unfold roundsTo Rounds
  simp only [Nat.pow_eq, significand_mod_two]
  generalize 4 * digits * 10 ^ k.toNat * x.denominator = point' at point ⊢
  generalize (4 * x.significand + 2) * 2 ^ x.exponent.toNat * 10 ^ (-k).toNat = high' at high ⊢
  generalize (4 * x.significand - (if x.narrowBelow then 1 else 2)) * 2 ^ x.exponent.toNat *
    10 ^ (-k).toNat = low' at low ⊢
  have below_le : midBelow x.position ≤ digits * 10 ^ k ↔ low' ≤ point' := by
    rw [← Nat.cast_le (α := ℚ), low, point, mul_le_mul_iff_of_pos_right scale_pos]
  have le_above : digits * 10 ^ k ≤ midAbove x.position ↔ point' ≤ high' := by
    rw [← Nat.cast_le (α := ℚ), high, point, mul_le_mul_iff_of_pos_right scale_pos]
  have below_eq : midBelow x.position = digits * 10 ^ k ↔ low' = point' := by
    rw [← Nat.cast_inj (R := ℚ), low, point, mul_left_inj' scale_pos.ne']
  have eq_above : digits * 10 ^ k = midAbove x.position ↔ point' = high' := by
    rw [← Nat.cast_inj (R := ℚ), high, point, mul_left_inj' scale_pos.ne']
  rw [below_le, le_above, ne_eq, ne_eq, ne_eq, below_eq, eq_above]
  by_cases even : x.position % 2 = 0
  · rw [if_pos (by simpa using even)]
    simp [even]
  · rw [if_neg (by simpa using even)]
    simp only [Bool.and_eq_true, decide_eq_true_eq, even, not_false_eq_true, forall_const]
    omega

/-! ### Seventeen digits -/

theorem significand_lt (x : Double) : x.significand < 2 ^ 53 := by
  have position_mod := Nat.mod_lt x.position (show 0 < fractions by decide)
  unfold significand isSubnormal
  unfold fractions at *
  split
  · rename_i below
    have := of_decide_eq_true below
    omega
  · omega

/-- Where the exponent has gone up, the significand is the least there is. -/
theorem significand_of_narrowBelow (narrow : x.narrowBelow = true) : x.significand = 2 ^ 52 := by
  unfold narrowBelow at narrow
  unfold significand isSubnormal
  unfold fractions at *
  simp only [Bool.and_eq_true, beq_iff_eq, decide_eq_true_eq] at narrow ⊢
  rw [if_neg (by omega)]
  omega

/-- The doubles on both sides of a magnitude are some part of it away. -/
theorem magnitude_le_steps (positive : 0 < x.position) :
    magnitudeAt x.position < 2 ^ 53 * (stepAt x.position * least) ∧
      magnitudeAt x.position ≤ 2 ^ 53 * (stepAt (x.position - 1) * least) := by
  have units := unitsAt_eq x
  have small := significand_lt x
  have back := stepAt_pred x positive
  have up : unitsAt x.position < 2 ^ 53 * stepAt x.position := by
    rw [units]
    exact Nat.mul_lt_mul_of_pos_right small (stepAt_pos _)
  have down : unitsAt x.position ≤ 2 ^ 53 * stepAt (x.position - 1) := by
    by_cases narrow : x.narrowBelow = true
    · rw [if_pos narrow] at back
      rw [units, significand_of_narrowBelow narrow]
      omega
    · rw [if_neg narrow] at back
      omega
  unfold magnitudeAt
  rw [← mul_assoc, ← mul_assoc]
  exact ⟨mul_lt_mul_of_pos_right (by exact_mod_cast up) least_pos,
    mul_le_mul_of_nonneg_right (by exact_mod_cast down) least_pos.le⟩

/-- **A multiple of a power of ten that is nearest to a double rounds to it** when there are
seventeen digits to it. -/
theorem rounds_of_near (positive : 0 < x.position) {digits : Nat} {k : Int}
    (leading : (10 : ℚ) ^ (k + 16) ≤ magnitudeAt x.position)
    (near : |digits * (10 : ℚ) ^ k - magnitudeAt x.position| ≤ 10 ^ k / 2) :
    Rounds x.position (digits * 10 ^ k) := by
  have ten : (0 : ℚ) < 10 ^ k := zpow_pos (by norm_num) k
  have grown : (10 : ℚ) ^ (k + 16) = 10 ^ 16 * 10 ^ k := by
    rw [zpow_add₀ (by norm_num)]
    ring
  obtain ⟨up, down⟩ := magnitude_le_steps positive
  have above : midAbove x.position = magnitudeAt x.position + stepAt x.position * least / 2 := by
    rw [midAbove, magnitudeAt, magnitudeAt, unitsAt_succ]
    push_cast
    ring
  have below : midBelow x.position =
      magnitudeAt x.position - stepAt (x.position - 1) * least / 2 := by
    obtain ⟨p, is⟩ : ∃ p, x.position = p + 1 := ⟨x.position - 1, by omega⟩
    rw [is, midBelow, if_neg (Nat.succ_ne_zero p), Nat.add_sub_cancel, midAbove, magnitudeAt,
      magnitudeAt, unitsAt_succ]
    push_cast
    ring
  rw [grown] at leading
  obtain ⟨near₁, near₂⟩ := abs_le.mp near
  have lower : midBelow x.position < digits * 10 ^ k := by
    rw [below]
    linarith
  have upper : digits * 10 ^ k < midAbove x.position := by
    rw [above]
    linarith
  exact ⟨lower.le, upper.le, fun _ => ⟨lower.ne, upper.ne⟩⟩

/-- A rounded fraction is within one half of it. -/
theorem roundTo_near (tie : Tie) (num : Nat) {den : Nat} (positive : 0 < den) :
    |(roundTo tie num den : ℚ) - num / den| ≤ 1 / 2 := by
  have split := Nat.div_add_mod' num den
  have rest := Nat.mod_lt num positive
  have low : 2 * num ≤ 2 * (roundTo tie num den * den) + den := by
    unfold roundTo
    dsimp only
    split
    · rw [Nat.add_mul]
      omega
    · omega
  have high : 2 * (roundTo tie num den * den) ≤ 2 * num + den := by
    unfold roundTo
    dsimp only
    split
    · rw [Nat.add_mul]
      omega
    · omega
  generalize roundTo tie num den = n at low high
  have den_pos : (0 : ℚ) < den := Nat.cast_pos.mpr positive
  have low' : (2 * num : ℚ) ≤ 2 * (n * den) + den := by exact_mod_cast low
  have high' : (2 * (n * den) : ℚ) ≤ 2 * num + den := by exact_mod_cast high
  rw [abs_le]
  constructor
  · rw [neg_le_sub_iff_le_add, div_le_iff₀ den_pos]
    linarith
  · rw [sub_le_iff_le_add, ← sub_le_iff_le_add', le_div_iff₀ den_pos]
    linarith

/-! ### The leading power -/

theorem numerator_div (x : Double) :
    (x.numerator : ℚ) / x.denominator = magnitudeAt x.position := by
  rw [magnitude_eq, numerator, Nat.cast_mul, mul_div_assoc]
  congr 2
  exact Nat.cast_pow 2 _

theorem reachesPower_iff {num den : Nat} (positive : 0 < den) (k : Int) :
    reachesPower num den k = true ↔ (10 : ℚ) ^ k ≤ num / den := by
  have den_pos : (0 : ℚ) < den := Nat.cast_pos.mpr positive
  have tens : (0 : ℚ) < 10 ^ (-k).toNat := by positivity
  unfold reachesPower
  rw [decide_eq_true_eq, Nat.pow_eq, Nat.pow_eq, le_div_iff₀ den_pos,
    ← mul_le_mul_iff_of_pos_right tens, mul_right_comm, zpow_mul_pow, mul_comm,
    ← Nat.cast_le (α := ℚ)]
  push_cast
  rfl

/-- Whether the least candidate for the leading power of a fraction with so many binary digits more
than its denominator is reached by the least such fraction. -/
def guessReached (bits : Int) : Bool :=
  let guess := bits * 30103 / 100000 - 1
  10 ^ guess.toNat * 2 ^ (-bits).toNat ≤ 2 ^ bits.toNat * 10 ^ (-guess).toNat

/-- So it is for all doubles, though not for all fractions, as the candidate is a little too
great. -/
theorem guessReached_of_double :
    ∀ n < (2200 : Nat), guessReached ((n : Int) - 1100) = true := by
  have all : (List.range 2200).all (fun n => guessReached ((n : Int) - 1100)) = true := by
    decide +kernel
  intro n lt
  exact List.all_eq_true.mp all n (List.mem_range.mpr lt)

theorem numerator_pos (positive : 0 < x.position) : 0 < x.numerator :=
  Nat.mul_pos (significand_pos positive) (Nat.pow_pos (by decide))

theorem log2_numerator_lt (positive : 0 < x.position) : x.numerator.log2 < 1024 := by
  have finite := x.isFinite
  have exponent_le : x.exponent ≤ 971 := by
    unfold exponent isSubnormal
    unfold count fractions at *
    split <;> omega
  have small : x.numerator < 2 ^ (53 + x.exponent.toNat) := by
    rw [pow_add]
    exact Nat.mul_lt_mul_of_pos_right (significand_lt x) (Nat.pow_pos (by decide))
  have := (Nat.log2_lt (numerator_pos positive).ne').mpr small
  omega

theorem log2_denominator (x : Double) : x.denominator.log2 = (-x.exponent).toNat :=
  Nat.log2_two_pow

/-- The least candidate is reached by every double. -/
theorem guess_reached (positive : 0 < x.position) :
    guessReached ((x.numerator.log2 : Int) - x.denominator.log2) = true := by
  have numerator := log2_numerator_lt positive
  have denominator := log2_denominator x
  have exponent := exponent_ge x
  have found := guessReached_of_double
    (((x.numerator.log2 : Int) - x.denominator.log2 + 1100).toNat) (by omega)
  rwa [show ((((x.numerator.log2 : Int) - x.denominator.log2 + 1100).toNat : Nat) : Int) - 1100 =
    (x.numerator.log2 : Int) - x.denominator.log2 by omega] at found

/-- What the least fraction with so many binary digits reaches, every one does. -/
theorem reachesPower_of_log2 {num up down : Nat} {k : Int} (large : 2 ^ up ≤ num)
    (reached : 10 ^ k.toNat * 2 ^ (-((up : Int) - down)).toNat ≤
      2 ^ ((up : Int) - down).toNat * 10 ^ (-k).toNat) :
    reachesPower num (2 ^ down) k = true := by
  obtain ⟨common, up_eq, down_eq⟩ : ∃ common, up = ((up : Int) - down).toNat + common ∧
      down = (-((up : Int) - down)).toNat + common :=
    ⟨min up down, by omega, by omega⟩
  generalize ((up : Int) - down).toNat = more at reached up_eq
  generalize (-((up : Int) - down)).toNat = fewer at reached down_eq
  subst up_eq down_eq
  refine decide_eq_true ?_
  calc 2 ^ (fewer + common) * 10 ^ k.toNat
      = 10 ^ k.toNat * 2 ^ fewer * 2 ^ common := by ring
    _ ≤ 2 ^ more * 10 ^ (-k).toNat * 2 ^ common := Nat.mul_le_mul_right _ reached
    _ = 2 ^ (more + common) * 10 ^ (-k).toNat := by ring
    _ ≤ num * 10 ^ (-k).toNat := Nat.mul_le_mul_right _ large

/-- **The leading power of a double is reached.** -/
theorem leadingPower_le (positive : 0 < x.position) :
    (10 : ℚ) ^ leadingPower x.numerator x.denominator ≤ magnitudeAt x.position := by
  have den := x.denominator_pos
  rw [← numerator_div]
  unfold leadingPower
  dsimp only
  split
  · rename_i reached
    exact (reachesPower_iff den _).mp reached
  · split
    · rename_i reached
      exact (reachesPower_iff den _).mp reached
    · split
      · rename_i reached
        exact (reachesPower_iff den _).mp reached
      · -- the last candidate is taken unasked
        have reached := of_decide_eq_true (guess_reached positive)
        refine (reachesPower_iff den _).mp ?_
        rw [log2_denominator] at reached ⊢
        exact reachesPower_of_log2 (Nat.log2_self_le (numerator_pos positive).ne') reached

/-! ### Shortest digits -/

theorem roundsTo_of_bestOnGrid {k : Int} {digits : Nat}
    (found : x.bestOnGrid tie k = some digits) : x.roundsTo digits k = true := by
  unfold bestOnGrid at found
  dsimp only at found
  split at found
  · rename_i low high
    obtain rfl := Option.some.inj found
    unfold roundTo
    dsimp only
    split
    · exact high
    · exact low
  · rename_i low _
    obtain rfl := Option.some.inj found
    exact low
  · rename_i _ high
    obtain rfl := Option.some.inj found
    exact high
  · cases found

/-- A magnitude over a power of ten, as the search has it. -/
theorem magnitude_div (x : Double) (k : Int) :
    ((x.numerator * Nat.pow 10 (-k).toNat : Nat) : ℚ) / (x.denominator * Nat.pow 10 k.toNat : Nat) =
      magnitudeAt x.position / 10 ^ k := by
  have denominator : (0 : ℚ) < x.denominator := Nat.cast_pos.mpr x.denominator_pos
  have ten : (0 : ℚ) < 10 ^ k := zpow_pos (by norm_num) k
  rw [Nat.pow_eq, Nat.pow_eq, ← numerator_div]
  push_cast
  rw [← zpow_mul_pow k]
  field_simp

/-- What the search finds from some grid on, with so many finer ones to come, rounds to the
double if the last has seventeen digits. -/
theorem rounds_shortestOn (positive : 0 < x.position) (tie : Tie) (more : Nat) {k : Int}
    (leading : (10 : ℚ) ^ (k - more + 16) ≤ magnitudeAt x.position) :
    Rounds x.position
      ((x.shortestOn tie more k).1 * 10 ^ (x.shortestOn tie more k).2) := by
  induction more generalizing k with
  | zero =>
    unfold shortestOn
    dsimp only
    have ten : (0 : ℚ) < 10 ^ k := zpow_pos (by norm_num) k
    have near := @roundTo_near tie (x.numerator * Nat.pow 10 (-k).toNat)
      (x.denominator * Nat.pow 10 k.toNat)
      (Nat.mul_pos x.denominator_pos (Nat.pow_pos (by decide)))
    refine rounds_of_near positive (by simpa using leading) ?_
    rw [magnitude_div] at near
    have scaled := mul_le_mul_of_nonneg_right near ten.le
    rw [← abs_of_pos ten, ← abs_mul, abs_of_pos ten, sub_mul, div_mul_cancel₀ _ ten.ne'] at scaled
    linarith
  | succ more ih =>
    unfold shortestOn
    cases found : x.bestOnGrid tie k with
    | some digits => exact (roundsTo_iff positive digits k).mp (roundsTo_of_bestOnGrid found)
    | none =>
      refine ih ?_
      have same : k - 1 - (more : Int) + 16 = k - ((more + 1 : Nat) : Int) + 16 := by
        push_cast
        ring
      rwa [same]

end Double

/-- **What digits stand for**: the point is behind the first of them. -/
def Decimal.value (d : Decimal) : ℚ :=
  Nat.ofDigitChars 10 d.digits 0 * 10 ^ (d.exponent - (d.digits.length - 1 : Int))

/-- Zeros at the end do not count. -/
theorem Decimal.value_trimmed (digits : Nat) (k : Int) :
    let written := Nat.toDigits 10 digits
    let kept := (written.reverse.dropWhile (· == '0')).reverse
    Decimal.value ⟨kept, k + (written.length : Int) - 1⟩ = digits * 10 ^ k := by
  intro written kept
  obtain ⟨zeros, split⟩ : ∃ zeros, written = kept ++ List.replicate zeros '0' := by
    refine ⟨(written.reverse.takeWhile (· == '0')).length, ?_⟩
    have run : written.reverse.takeWhile (· == '0') =
        List.replicate (written.reverse.takeWhile (· == '0')).length '0' :=
      List.eq_replicate_iff.mpr ⟨rfl, fun c mem => by simpa using List.mem_takeWhile_imp mem⟩
    rw [← List.reverse_inj, List.reverse_append, List.reverse_replicate, ← run,
      List.reverse_reverse, List.takeWhile_append_dropWhile]
  have number : (digits : ℚ) = Nat.ofDigitChars 10 kept 0 * 10 ^ zeros := by
    have read := Nat.ofDigitChars_ten_toDigits (n := digits)
    rw [show Nat.toDigits 10 digits = written from rfl, split, Nat.ofDigitChars_append,
      Nat.ofDigitChars_replicate_zero] at read
    rw [← read]
    push_cast
    ring
  have length : (written.length : Int) = kept.length + zeros := by
    rw [split, List.length_append, List.length_replicate]
    push_cast
    rfl
  unfold Decimal.value
  dsimp only
  rw [length, number, mul_assoc, ← zpow_natCast, ← zpow_add₀ (by norm_num)]
  congr 2
  ring

/-- **The shortest digits of a double round to it.** -/
theorem Double.rounds_shortest (x : Double) (tie : Tie) :
    Double.Rounds x.position (x.shortest tie).value := by
  unfold Double.shortest
  by_cases zero : x.position = 0
  · rw [if_pos zero, zero]
    have nothing : Decimal.value ⟨['0'], 0⟩ = 0 := by
      unfold Decimal.value
      simp [Nat.ofDigitChars]
    rw [nothing]
    exact rounds_zero
  · rw [if_neg zero]
    have positive : 0 < x.position := Nat.pos_of_ne_zero zero
    dsimp only
    rw [Decimal.value_trimmed]
    refine rounds_shortestOn positive tie 16 ?_
    simpa using leadingPower_le positive

end DispatchTables
