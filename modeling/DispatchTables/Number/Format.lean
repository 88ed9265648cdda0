import DispatchTables.Number.Decimal

/-!
# Number formats

The three ways a number is written: in documents, in generated tables, and as a price.

## Main Definitions

* `Double.documentText`: shortest digits, a tie going to the even ones, positional from `10 ^ -5` up
  to below `10 ^ 16`, always with a fraction or an exponent.
* `Double.plainText`: shortest digits, a tie going to the greater ones, always positional; a whole
  number is written exactly, with one zero after the point.
* `Double.fixedText`: a set number of places.
-/

namespace DispatchTables

/-- A text of `n` zeros. -/
def zeros (n : Nat) : List Char := List.replicate n '0'

namespace Decimal

/-- Positional notation.  A whole number gets `wholeMark` behind it. -/
def positional (d : Decimal) (wholeMark : List Char) : List Char :=
  if d.exponent < 0 then ['0', '.'] ++ zeros ((-d.exponent).toNat - 1) ++ d.digits
  else
    let ahead := d.exponent.toNat + 1
    if d.digits.length ≤ ahead then d.digits ++ zeros (ahead - d.digits.length) ++ wholeMark
    else d.digits.take ahead ++ '.' :: d.digits.drop ahead

/-- Scientific notation: one digit before the point, and a signed exponent. -/
def scientific (d : Decimal) : List Char :=
  let fraction := match d.digits.drop 1 with
    | [] => []
    | rest => '.' :: rest
  let sign := if d.exponent < 0 then '-' else '+'
  d.digits.take 1 ++ fraction ++ 'e' :: sign :: Nat.toDigits 10 d.exponent.natAbs

end Decimal

namespace Double

/-- The minus sign of a negative number, the negative zero included. -/
def signText (x : Double) : List Char := if x.negative then ['-'] else []

/-- How a double is written in a document. -/
def documentText (x : Double) : String :=
  let d := x.shortest .toEven
  let positional := decide (-5 ≤ d.exponent) && decide (d.exponent < 16)
  String.ofList (x.signText ++ (if positional then d.positional ['.', '0'] else d.scientific))

/-- A whole number over `10 ^ places`, with the point put in. -/
def placesText (n places : Nat) : List Char :=
  let whole := Nat.toDigits 10 (n / Nat.pow 10 places)
  let rest := Nat.toDigits 10 (n % Nat.pow 10 places)
  if places = 0 then whole else whole ++ '.' :: (zeros (places - rest.length) ++ rest)

/-- A double with a set number of places, rounded from its exact value. -/
def fixedText (x : Double) (places : Nat) : String :=
  String.ofList (x.signText ++ placesText (x.roundedTo places) places)

/-- A double without an exponent: exactly and with one zero after the point when it is whole, else
in its shortest digits. -/
def plainText (x : Double) : String :=
  if x.isWhole then x.fixedText 1
  else String.ofList (x.signText ++ (x.shortest .up).positional [])

end Double

end DispatchTables
