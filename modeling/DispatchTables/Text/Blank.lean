import DispatchTables.Text.CharSet

/-!
# Blank characters

Blank means the Unicode property White_Space: the ASCII blanks and line ends, the vertical tab and
form feed, next line, the no-break space, and the wide and narrow spaces up to the ideographic one.

## Main Definitions

* `isBlank`: the property.
* `trimBlank`: a text without the blanks at its two ends.
-/

namespace DispatchTables.Text

/-- Characters with the property White_Space. -/
def blanks : CharSet := ⟨[
    (0x9, 0xD), (0x20, 0x20), (0x85, 0x85), (0xA0, 0xA0), (0x1680, 0x1680), (0x2000, 0x200A),
    (0x2028, 0x2029), (0x202F, 0x202F), (0x205F, 0x205F), (0x3000, 0x3000)]⟩

/-- Whether a character is blank. -/
def isBlank (c : Char) : Bool := blanks.contains c

/-- The characters without the blanks at the front. -/
def dropBlank (cs : List Char) : List Char := cs.dropWhile isBlank

/-- The characters without the blanks at either end. -/
def trimBlankChars (cs : List Char) : List Char :=
  (dropBlank (dropBlank cs).reverse).reverse

/-- A text without the blanks at either end. -/
def trimBlank (text : String) : String := String.ofList (trimBlankChars text.toList)

/-- Core's ASCII blanks are blank. -/
theorem isBlank_of_isWhitespace {c : Char} (h : c.isWhitespace = true) : isBlank c = true := by
  simp only [Char.isWhitespace, Bool.or_eq_true, decide_eq_true_eq] at h
  rcases h with (((rfl | rfl) | rfl) | rfl) <;> decide

end DispatchTables.Text
