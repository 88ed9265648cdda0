/-!
# Finite double-precision numbers

A finite double is a sign and a position: the non-negative finite doubles in ascending order are
numbered from zero, so that neighbours have neighbouring positions and the order of magnitudes is
the order of natural numbers.  All arithmetic here is exact on fractions and rounds once, to the
nearest double, a tie going to the even position.

## Main Definitions

* `Double`: sign and position.
* `Double.significand`, `Double.exponent`: the magnitude as `significand * 2 ^ exponent`.
* `Double.numerator`, `Double.denominator`: the magnitude as an exact fraction.
* `roundTo`: the whole number nearest to a fraction, by either rule for ties.
* `nearest`: the position of the double nearest to a fraction, if it is finite.
* `Double.compareTotal`: the total order, with the negative zero below the positive one.

## Design Notes

Positions are what the bits of a double without its sign bit spell, so `position % fractions`
holds the fraction and `position / fractions` the biased exponent.
-/

namespace DispatchTables

/-- The number of doubles that share an exponent: two to the power of 52. -/
def Double.fractions : Nat := 0x10000000000000

/-- The number of finite non-negative doubles: the position after the largest. -/
def Double.count : Nat := 2047 * Double.fractions

/-- A finite double-precision number. -/
structure Double where
  negative : Bool
  position : Nat
  isFinite : position < Double.count
  deriving DecidableEq

namespace Double

/-- The positive zero. -/
def zero : Double := ⟨false, 0, by decide⟩

instance : Inhabited Double := ⟨zero⟩

/-- Whether the position is that of a double below the least normal one. -/
def isSubnormal (x : Double) : Bool := x.position < fractions

/-- The whole number that the magnitude multiplies a power of two with. -/
def significand (x : Double) : Nat :=
  if x.isSubnormal then x.position else fractions + x.position % fractions

/-- The power of two that the magnitude is a multiple of. -/
def exponent (x : Double) : Int :=
  if x.isSubnormal then -1074 else ((x.position / fractions : Nat) : Int) - 1075

/-- The magnitude times `denominator`. -/
def numerator (x : Double) : Nat := x.significand * Nat.pow 2 x.exponent.toNat

/-- A power of two that makes the magnitude whole. -/
def denominator (x : Double) : Nat := Nat.pow 2 (-x.exponent).toNat

theorem denominator_pos (x : Double) : 0 < x.denominator := Nat.pow_pos (by decide)

/-- Whether the number has no fractional part. -/
def isWhole (x : Double) : Bool := x.numerator % x.denominator == 0

/-- Equality of values: the two zeros are equal. -/
def sameValue (x y : Double) : Bool :=
  x.position == y.position && (x.negative == y.negative || x.position == 0)

/-- The place of a double in the total order, as a whole number: the positive doubles at their
position, the negative ones below the positive zero. -/
def rank (x : Double) : Int :=
  if x.negative then -(x.position : Int) - 1 else x.position

/-- The total order of doubles. -/
def compareTotal (x y : Double) : Ordering := compare x.rank y.rank

theorem compareTotal_eq_iff {x y : Double} : x.compareTotal y = .eq ↔ x = y := by
  obtain ⟨xn, xp, xf⟩ := x
  obtain ⟨yn, yp, yf⟩ := y
  simp only [compareTotal, Int.compare_eq_eq, rank, Double.mk.injEq]
  cases xn <;> cases yn <;> simp <;> omega

end Double

/-! ### Rounding -/

/-- The exponent of the binary grid that a positive fraction is rounded on: the greatest that gives
it 53 binary digits, and never below that of the least double. -/
def gridExponent (num den : Nat) : Int :=
  let guess : Int := (num.log2 : Int) - (den.log2 : Int) - 52
  let fits := num * Nat.pow 2 (-(guess + 52)).toNat ≥ den * Nat.pow 2 (guess + 52).toNat
  max (-1074) (if fits then guess else guess - 1)

/-- Which of two equally near whole numbers is taken. -/
inductive Tie where
  | toEven
  | up
  deriving DecidableEq

/-- Whether a tie between `whole` and the number after it goes to the latter. -/
def Tie.leaves (tie : Tie) (whole : Nat) : Bool :=
  match tie with
  | toEven => whole % 2 == 1
  | up => true

/-- The whole number nearest to `num / den`; of two equally near the one that `tie` says. -/
def roundTo (tie : Tie) (num den : Nat) : Nat :=
  let whole := num / den
  let rest := num % den
  if 2 * rest > den ∨ (2 * rest = den ∧ tie.leaves whole = true) then whole + 1 else whole

/-- The whole number nearest to `num / den`; of two equally near the even one. -/
def roundEven (num den : Nat) : Nat := roundTo .toEven num den

/-- The position of the double nearest to `num / den`, were there no largest one. -/
def nearestPosition (num den : Nat) : Nat :=
  if num = 0 then 0
  else
    let e := gridExponent num den
    (e + 1074).toNat * Double.fractions +
      roundEven (num * Nat.pow 2 (-e).toNat) (den * Nat.pow 2 e.toNat)

/-- The double nearest to the fraction `num / den`, with the given sign; `none` beyond the
largest. -/
def nearest (negative : Bool) (num den : Nat) : Option Double :=
  if h : nearestPosition num den < Double.count then some ⟨negative, nearestPosition num den, h⟩
  else none

/-- The double nearest to a whole number. -/
def Double.ofInt? (n : Int) : Option Double := nearest (decide (n < 0)) n.natAbs 1

end DispatchTables
