import DispatchTables.Text.CaseTables

/-!
# Lowercase

The full Unicode lowercase mapping of a text.  Two characters need more than a look-up: the capital
I with a dot above has an image of two characters, and the capital sigma has its final form at the
end of a word.

## Main Definitions

* `lowercaseChar`: the image of one character, apart from its neighbours.
* `endsWord`: whether a sigma between two texts stands at the end of a word.
* `lowercase`: the image of a text.
-/

namespace DispatchTables.Text

/-- The image of a code point under ascending runs; a code point in none of them stays. -/
def lowercaseIn : List (Nat × Nat × Nat × Nat) → Nat → Nat
  | [], n => n
  | (first, last, step, image) :: rest, n =>
    if n < first then n
    else if n ≤ last && (n - first) % step == 0 then image + (n - first)
    else lowercaseIn rest n

/-- The image of one character on its own. -/
def lowercaseChar (c : Char) : List Char :=
  if c.toNat = 0x130 then ['i', Char.ofNat 0x307]
  else [Char.ofNat (lowercaseIn lowercaseRuns c.toNat)]

/-- Whether the first character that is not passed over is cased. -/
def leadsCased (cs : List Char) : Bool :=
  match cs.dropWhile caseIgnorable.contains with
  | [] => false
  | c :: _ => cased.contains c

/-- A sigma ends a word when a cased character stands before it and none after it; `before` holds
the characters before it, the nearest first. -/
def endsWord (before after : List Char) : Bool := leadsCased before && !leadsCased after

/-- The images of the characters, given those before them, the nearest first. -/
def lowercaseFrom (before : List Char) : List Char → List Char
  | [] => []
  | c :: rest =>
    (if c.toNat = 0x3A3 then [Char.ofNat (if endsWord before rest then 0x3C2 else 0x3C3)]
      else lowercaseChar c) ++ lowercaseFrom (c :: before) rest

/-- The lowercase form of a text. -/
def lowercase (text : String) : String := String.ofList (lowercaseFrom [] text.toList)

end DispatchTables.Text
