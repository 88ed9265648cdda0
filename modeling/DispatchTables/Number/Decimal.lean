import DispatchTables.Number.Double

/-!
# Doubles as decimals

Between doubles and decimal digits, in exact natural arithmetic.

## Main Definitions

* `Decimal`: significant digits and the power of ten of the first one.
* `shortest`: the fewest digits that read back as the same double; of several choices the nearest
  to it, and of two equally near ones the even or the greater, as the format has it.
* `scaled`: a whole number times a power of ten, as numbers in texts are read.
* `roundedTo`: the value as a multiple of a power of one tenth, a tie going to the even multiple.

## Design Notes

`shortest` takes the interval of reals that round to the double, ends included when its significand
is even, and tries grids of one to seventeen digits: the value's two neighbours on the grid are the
only points of it that need a test.

`scaled` is not the nearest double.  Whole number and power of ten are each rounded to a double
before they are combined, which rounds again.
-/

namespace DispatchTables

/-- Significant decimal digits `d₁ d₂ … dₙ`, standing for `d₁.d₂…dₙ * 10 ^ exponent`. -/
structure Decimal where
  digits : List Char
  exponent : Int
  deriving DecidableEq

/-! ### Shortest digits -/

/-- Whether `10 ^ k ≤ num / den`. -/
def reachesPower (num den : Nat) (k : Int) : Bool :=
  den * Nat.pow 10 k.toNat ≤ num * Nat.pow 10 (-k).toNat

/-- The power of ten of the first digit of a positive fraction.  The binary logarithm leaves four
candidates, of which the greatest that the fraction reaches is taken. -/
def leadingPower (num den : Nat) : Int :=
  let bits : Int := (num.log2 : Int) - (den.log2 : Int)
  let guess := (bits * 30103) / 100000 - 1
  if reachesPower num den (guess + 3) then guess + 3
  else if reachesPower num den (guess + 2) then guess + 2
  else if reachesPower num den (guess + 1) then guess + 1
  else guess

namespace Double

/-- Whether the next smaller double is nearer than the next larger one, as it is at a power of
two. -/
def narrowBelow (x : Double) : Bool := x.position % fractions == 0 && x.position / fractions > 1

/-- Whether `digits * 10 ^ k` rounds to the magnitude of `x`.  Both sides are multiplied by four
times the denominator and by the missing powers of ten. -/
def roundsTo (x : Double) (digits : Nat) (k : Int) : Bool :=
  let unit := Nat.pow 2 x.exponent.toNat
  let tens := Nat.pow 10 (-k).toNat
  let point := 4 * digits * Nat.pow 10 k.toNat * x.denominator
  let low := (4 * x.significand - (if x.narrowBelow then 1 else 2)) * unit * tens
  let high := (4 * x.significand + 2) * unit * tens
  if x.significand % 2 == 0 then low ≤ point && point ≤ high else low < point && point < high

/-- The best of the two neighbours of the magnitude among the multiples of `10 ^ k`, if either
rounds to it. -/
def bestOnGrid (x : Double) (tie : Tie) (k : Int) : Option Nat :=
  let num := x.numerator * Nat.pow 10 (-k).toNat
  let den := x.denominator * Nat.pow 10 k.toNat
  let below := num / den
  match x.roundsTo below k, x.roundsTo (below + 1) k with
  | true, true => some (roundTo tie num den)
  | true, false => some below
  | false, true => some (below + 1)
  | false, false => none

/-- The first grid with a hit, from one digit upward; the last grid answers in any case. -/
def shortestOn (x : Double) (tie : Tie) : Nat → Int → Nat × Int
  | 0, k =>
    (roundTo tie (x.numerator * Nat.pow 10 (-k).toNat) (x.denominator * Nat.pow 10 k.toNat), k)
  | more + 1, k =>
    match x.bestOnGrid tie k with
    | some digits => (digits, k)
    | none => x.shortestOn tie more (k - 1)

/-- The fewest decimal digits that read back as the magnitude; of several choices the nearest, and
of two equally near ones the one that `tie` says. -/
def shortest (x : Double) (tie : Tie) : Decimal :=
  if x.position = 0 then ⟨['0'], 0⟩
  else
    let power := leadingPower x.numerator x.denominator
    let (digits, k) := x.shortestOn tie 16 power
    let written := Nat.toDigits 10 digits
    let kept := (written.reverse.dropWhile (· == '0')).reverse
    ⟨kept, k + (written.length : Int) - 1⟩

/-- The magnitude times `10 ^ places`, rounded to a whole number, a tie going to the even one. -/
def roundedTo (x : Double) (places : Nat) : Nat :=
  roundEven (x.numerator * Nat.pow 10 places) x.denominator

/-! ### Reading -/

/-- The double nearest to `10 ^ k`, for `k` up to 308. -/
def powerOfTen (k : Nat) : Double := (nearest false (Nat.pow 10 k) 1).getD zero

/-- The product of two magnitudes, rounded. -/
def product (negative : Bool) (x y : Double) : Option Double :=
  nearest negative (x.numerator * y.numerator) (x.denominator * y.denominator)

/-- The quotient of two magnitudes, rounded. -/
def quotient (negative : Bool) (x y : Double) : Option Double :=
  nearest negative (x.numerator * y.denominator) (x.denominator * y.numerator)

/-- A whole number of at most 64 binary digits times `10 ^ exponent`, rounding the number, the power
and their product or quotient.  Beyond `10 ^ -308` the number is divided twice; a third division
would leave nothing of it. -/
def scaled (negative : Bool) (digits : Nat) (exponent : Int) : Option Double := do
  let whole ← nearest negative digits 1
  if exponent > 308 then
    if digits = 0 then some whole else none
  else if exponent ≥ 0 then
    product negative whole (powerOfTen exponent.toNat)
  else if exponent ≥ -308 then
    quotient negative whole (powerOfTen (-exponent).toNat)
  else
    let part ← quotient negative whole (powerOfTen 308)
    if exponent ≥ -616 then quotient negative part (powerOfTen (-exponent - 308).toNat)
    else nearest negative 0 1

end Double

end DispatchTables
