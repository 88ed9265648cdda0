import DispatchTables.Tables.Literal
import Mathlib.Tactic.SplitIfs

/-!
# Reading string literals

A string literal is read from its opening quote to the first quote that belongs to no escape.
Behind a backslash there is a letter, a quote or another backslash, or there are up to three octal
digits: as many as follow are taken, so an escape with fewer would go on into the text behind it.
No control character may stand in a literal as it is.

What is written has to be read back whatever comes after it.  So the text that follows is arbitrary,
and the theorem says that it is left untouched.

## Main Definitions

* `readEscape`: what stands behind a backslash, and what is left.
* `readLiteral`: the text of a literal, and what is left behind it.
* `WrittenAs`: the ways to write a character.

## Main Statements

* `WrittenAs.readChars`: each character is read back before anything that follows it.
* `readLiteral_cString`: a literal is read back, to its end and no further.
-/

namespace DispatchTables

/-! ### The reader of literals -/

/-- Whether a character is a digit of base eight. -/
def isOctalDigit (c : Char) : Bool := '0' ≤ c && c ≤ '7'

/-- The value of digits of base eight, the highest first. -/
def octalValue (digits : List Char) : Nat :=
  digits.foldl (fun value digit => 8 * value + (digit.toNat - 0x30)) 0

/-- What a single character behind a backslash stands for. -/
def escaped? (c : Char) : Option Char :=
  if c = '"' ∨ c = '\\' then some c
  else if c = 'n' then some '\n'
  else if c = 'r' then some '\r'
  else if c = 't' then some '\t'
  else none

/-- The character that an escape stands for, and what is left behind it.  Of octal digits as many as
there are belong to the escape, up to three. -/
def readEscape : List Char → Option (Char × List Char)
  | [] => none
  | c :: rest =>
    let digits := ((c :: rest).take 3).takeWhile isOctalDigit
    if digits = [] then (escaped? c).map fun d => (d, rest)
    else some (Char.ofNat (octalValue digits), (c :: rest).drop digits.length)

theorem length_of_readEscape {cs rest : List Char} {c : Char}
    (h : readEscape cs = some (c, rest)) : rest.length < cs.length := by
  cases cs with
  | nil => cases h
  | cons d more =>
    simp only [readEscape] at h
    split at h
    · obtain ⟨e, -, same⟩ := Option.map_eq_some_iff.mp h
      cases same
      exact Nat.lt_succ_self _
    · rename_i digits
      cases h
      have taken := List.length_pos_iff.mpr digits
      rw [List.length_drop]
      simp only [List.length_cons]
      omega

/-- The text up to the closing quote, and what is left behind it.  Nothing is read where a control
character stands, an escape has no meaning, or the quote is missing. -/
def readChars (cs : List Char) : Option (List Char × List Char) :=
  match cs with
  | [] => none
  | c :: rest =>
    if c = '"' then some ([], rest)
    else if c = '\\' then
      match _ : readEscape rest with
      | none => none
      | some (d, more) => (readChars more).map fun r => (d :: r.1, r.2)
    else if c.toNat < 0x20 then none
    else (readChars rest).map fun r => (c :: r.1, r.2)
termination_by cs.length
decreasing_by
  · have shorter := length_of_readEscape ‹readEscape rest = some (d, more)›
    simp only [List.length_cons]
    omega
  · simp

/-- The text of a literal, and what is left behind it. -/
def readLiteral : List Char → Option (List Char × List Char)
  | '"' :: rest => readChars rest
  | _ => none

/-! ### Reading back -/

theorem readChars_escape {d : Char} {cs rest : List Char} (h : readEscape cs = some (d, rest)) :
    readChars ('\\' :: cs) = (readChars rest).map fun r => (d :: r.1, r.2) := by
  rw [readChars]
  simp only [if_neg (by decide : ¬ '\\' = '"'), if_true]
  split
  · rename_i none
    rw [h] at none
    cases none
  · rename_i same
    rw [h] at same
    cases same
    rfl

/-- A character that needs no escape is read as it is. -/
theorem readChars_plain {c : Char} (quote : c ≠ '"') (slash : c ≠ '\\') (plain : 0x20 ≤ c.toNat)
    (rest : List Char) : readChars (c :: rest) = (readChars rest).map fun r => (c :: r.1, r.2) := by
  rw [readChars, if_neg quote, if_neg slash, if_neg (Nat.not_lt.mpr plain)]

/-- A single character behind a backslash is read without what follows it. -/
theorem readEscape_single {c d : Char} (octal : isOctalDigit c = false)
    (means : escaped? c = some d) (rest : List Char) : readEscape (c :: rest) = some (d, rest) := by
  simp [readEscape, octal, means]

/-- Three octal digits are read without what follows them, be it a digit. -/
theorem readEscape_octal {c d e : Char} (octal : [c, d, e].all isOctalDigit = true)
    (rest : List Char) :
    readEscape (c :: d :: e :: rest) = some (Char.ofNat (octalValue [c, d, e]), rest) := by
  obtain ⟨first, second, third⟩ : isOctalDigit c = true ∧ isOctalDigit d = true ∧
      isOctalDigit e = true := by simpa using octal
  simp [readEscape, first, second, third]

/-! ### How characters are written -/

/-- The ways to write a character: behind a backslash, as an escape with all three digits, or as it
is. -/
inductive WrittenAs (c : Char) : List Char → Prop
  | single {d : Char} (octal : isOctalDigit d = false) (means : escaped? d = some c) :
    WrittenAs c ['\\', d]
  | digits {d e f : Char} (octal : [d, e, f].all isOctalDigit = true)
      (value : Char.ofNat (octalValue [d, e, f]) = c) : WrittenAs c ['\\', d, e, f]
  | plain (quote : c ≠ '"') (slash : c ≠ '\\') (printable : 0x20 ≤ c.toNat) : WrittenAs c [c]

/-- What holds of the first 32 characters holds of all control characters. -/
theorem forall_control {p : Char → Prop} (h : ∀ n < 0x20, p (Char.ofNat n)) {c : Char}
    (control : c.toNat < 0x20) : p c := by
  have checked := h c.toNat control
  rwa [Char.ofNat_toNat] at checked

/-- Three digits say the code of a control character. -/
theorem octalValue_octalDigit {c : Char} (control : c.toNat < 0x20) :
    let digits := [octalDigit (c.toNat / 64), octalDigit (c.toNat / 8), octalDigit c.toNat]
    digits.all isOctalDigit = true ∧ Char.ofNat (octalValue digits) = c :=
  forall_control (p := fun c =>
    let digits := [octalDigit (c.toNat / 64), octalDigit (c.toNat / 8), octalDigit c.toNat]
    digits.all isOctalDigit = true ∧ Char.ofNat (octalValue digits) = c)
    (by decide +kernel) control

theorem writtenAs_cStringChar (c : Char) : WrittenAs c (cStringChar c) := by
  unfold cStringChar
  split_ifs with quote slash newline back tab control
  · exact .single (by decide) (by rw [quote]; rfl)
  · exact .single (by decide) (by rw [slash]; rfl)
  · exact .single (by decide) (by rw [newline]; rfl)
  · exact .single (by decide) (by rw [back]; rfl)
  · exact .single (by decide) (by rw [tab]; rfl)
  · obtain ⟨octal, value⟩ := octalValue_octalDigit control
    exact .digits octal value
  · exact .plain quote slash (Nat.not_lt.mp control)

/-! ### Reading back, character by character -/

/-- **Each character is read back**, before anything that follows it. -/
theorem WrittenAs.readChars {c : Char} {cs : List Char} (h : WrittenAs c cs) (rest : List Char) :
    readChars (cs ++ rest) = (readChars rest).map fun r => (c :: r.1, r.2) := by
  cases h with
  | single octal means => exact readChars_escape (readEscape_single octal means rest)
  | digits octal value => exact readChars_escape (value ▸ readEscape_octal octal rest)
  | plain quote slash printable => exact readChars_plain quote slash printable rest

theorem printable_of_escaped? {c d : Char} (means : escaped? d = some c) : 0x20 ≤ d.toNat := by
  have one : d = '"' ∨ d = '\\' ∨ d = 'n' ∨ d = 'r' ∨ d = 't' :=
    Decidable.byContradiction fun other => by
      simp only [not_or] at other
      simp [escaped?, other] at means
  rcases one with rfl | rfl | rfl | rfl | rfl <;> decide

theorem printable_of_isOctalDigit {d : Char} (octal : isOctalDigit d = true) : 0x20 ≤ d.toNat := by
  have zero : '0' ≤ d := of_decide_eq_true (Bool.and_eq_true_iff.mp octal).1
  exact Nat.le_trans (by decide) (Char.le_def.mp zero)

/-- **No control character is written.** -/
theorem WrittenAs.printable {c : Char} {cs : List Char} (h : WrittenAs c cs) :
    ∀ d ∈ cs, 0x20 ≤ d.toNat := by
  cases h with
  | single octal means => simp [printable_of_escaped? means]
  | digits octal value =>
    refine List.forall_mem_cons.mpr ⟨by decide, fun d mem => ?_⟩
    exact printable_of_isOctalDigit (List.all_eq_true.mp octal d mem)
  | plain quote slash printable => simpa using printable

/-- A text is read back up to the quote behind it. -/
theorem readChars_flatMap (cs rest : List Char) :
    readChars (cs.flatMap cStringChar ++ '"' :: rest) = some (cs, rest) := by
  induction cs with
  | nil => rw [List.flatMap_nil, List.nil_append, readChars, if_pos rfl]
  | cons c cs ih =>
    rw [List.flatMap_cons, List.append_assoc, (writtenAs_cStringChar c).readChars, ih]
    rfl

theorem toList_cString (s : String) :
    (cString s).toList = '"' :: (s.toList.flatMap cStringChar ++ ['"']) :=
  String.toList_ofList

/-- **A literal is read back, to its end and no further**, whatever stands behind it, and no control
character stands in it. -/
theorem readLiteral_cString (s : String) (rest : List Char) :
    readLiteral ((cString s).toList ++ rest) = some (s.toList, rest) ∧
      ∀ c ∈ (cString s).toList, 0x20 ≤ c.toNat := by
  rw [toList_cString]
  constructor
  · rw [List.cons_append, List.append_assoc]
    exact readChars_flatMap s.toList rest
  · intro c mem
    simp only [List.mem_cons, List.mem_append, List.mem_flatMap, List.not_mem_nil, or_false] at mem
    rcases mem with rfl | ⟨d, -, written⟩ | rfl
    · decide
    · exact (writtenAs_cStringChar d).printable c written
    · decide

/-- The digit behind a control character is not taken for a part of its escape. -/
example : readLiteral (cString "\x017").toList = some (['\x01', '7'], []) := by
  cbv

end DispatchTables
