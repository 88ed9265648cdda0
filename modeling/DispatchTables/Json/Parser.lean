import DispatchTables.Json.Basic
import DispatchTables.Json.SyntaxError
import DispatchTables.Number.Decimal

/-!
# Reading JSON

A reader of the strict grammar: no comments, no trailing commas, no bare words, and at most 127
containers inside one another.  A repeated key keeps its first place and its last value.

## Main Definitions

* `Json.parse`: the value that a text holds, or the first fault in it.
* `Json.Grammar.numberPart`, `Json.Grammar.stringPart`, `Json.Grammar.value`: parts of the grammar.

## Design Notes

Each part takes a `Cursor`, the characters to come and the number of bytes behind, and gives back
the cursor after it.  Nesting is bounded by recursion on the number of containers that may still be
opened.  The loops over items, members and characters use up at least one character a round, so the
number of characters left bounds them.
-/

namespace DispatchTables.Json.Grammar

/-- The characters to come, and the number of bytes behind them. -/
structure Cursor where
  rest : List Char
  bytes : Nat

/-- A fault and the number of bytes up to it. -/
abbrev Failure := Fault × Nat

/-- What a part of the grammar gives, in general a value with the cursor after it, unless it
fails. -/
abbrev Reading := Except Failure

namespace Cursor

/-- Past one character. -/
def advance (c : Cursor) : Cursor :=
  match c.rest with
  | [] => c
  | x :: rest => ⟨rest, c.bytes + x.utf8Size⟩

/-- Past the blanks of the grammar: space, tab and the two line ends. -/
def skipFrom (bytes : Nat) : List Char → Cursor
  | [] => ⟨[], bytes⟩
  | x :: rest =>
    if x = ' ' ∨ x = '\t' ∨ x = '\n' ∨ x = '\r' then skipFrom (bytes + 1) rest
    else ⟨x :: rest, bytes⟩

/-- Past the blanks of the grammar. -/
def skip (c : Cursor) : Cursor := skipFrom c.bytes c.rest

/-- A failure at the next character, counted as its first byte, or at the end. -/
def failAt {α : Type} (c : Cursor) (fault : Fault) : Reading α :=
  .error (fault, if c.rest.isEmpty then c.bytes else c.bytes + 1)

/-- A failure just behind the cursor. -/
def failBehind {α : Type} (c : Cursor) (fault : Fault) : Reading α := .error (fault, c.bytes)

/-- The rest of a word that has begun. -/
def word (value : Json) : List Char → Cursor → Reading (Json × Cursor)
  | [], c => .ok (value, c)
  | x :: more, c =>
    match c.rest with
    | [] => c.failBehind .endInValue
    | y :: _ => if x = y then word value more c.advance else c.failAt .expectedIdent

/-- The decimal digits ahead, and the cursor after them. -/
def digits (c : Cursor) : List Char × Cursor :=
  let ds := c.rest.takeWhile Char.isDigit
  (ds, ⟨c.rest.dropWhile Char.isDigit, c.bytes + ds.length⟩)

end Cursor

/-! ### Numbers -/

/-- The value of a decimal digit. -/
def digitValue (c : Char) : Nat := c.toNat - 0x30

/-- Appends digits to a number as long as it does not pass `limit`; also gives the digits left
over. -/
def absorb (limit : Nat) : Nat → List Char → Nat × List Char
  | n, [] => (n, [])
  | n, d :: rest =>
    let next := n * 10 + digitValue d
    if next > limit then (n, d :: rest) else absorb limit next rest

/-- The largest number of 64 binary digits. -/
def wordLimit : Nat := 0xFFFFFFFFFFFFFFFF

/-- The largest exponent that is read in full. -/
def exponentLimit : Nat := 0x7FFFFFFF

/-- The double a number stands for, or the failure behind it when there is none. -/
def doubleOr (c : Cursor) (x : Option Double) : Reading (Json × Cursor) :=
  match x with
  | some x => .ok (.number (.double x), c)
  | none => c.failBehind .outOfRange

/-- A whole number, or the double nearest to it when it does not fit; the negative zero is a
double. -/
def wholeNumber (negative : Bool) (n : Nat) (c : Cursor) : Reading (Json × Cursor) :=
  if !negative then .ok (.number (.whole n), c)
  else if n = 0 ∨ n > 0x8000000000000000 then doubleOr c (nearest true n 1)
  else .ok (.number (.whole (-(n : Int))), c)

/-- The exponent part, after its letter.  An exponent past the limit makes the number zero, or too
large. -/
def exponentPart (negative : Bool) (whole : Nat) (start : Int) (c : Cursor) :
    Reading (Json × Cursor) :=
  let (down, c) := match c.rest with
    | '+' :: _ => (false, c.advance)
    | '-' :: _ => (true, c.advance)
    | _ => (false, c)
  match c.rest with
  | [] => c.failBehind .endInValue
  | x :: _ =>
    if !x.isDigit then c.failAt .invalidNumber
    else
      let (ds, after) := c.digits
      let (n, left) := absorb exponentLimit 0 ds
      if left.isEmpty then
        doubleOr after (Double.scaled negative whole (if down then start - n else start + n))
      else if whole ≠ 0 && !down then
        .error (.outOfRange, c.bytes + (ds.length - left.length) + 1)
      else doubleOr after (nearest negative 0 1)

/-- The fraction, after the point.  Digits beyond what 64 bits hold are passed over. -/
def fractionPart (negative : Bool) (whole : Nat) (start : Int) (c : Cursor) :
    Reading (Json × Cursor) :=
  let (ds, after) := c.digits
  if ds.isEmpty then
    if c.rest.isEmpty then c.failBehind .endInValue else c.failAt .invalidNumber
  else
    let (whole, left) := absorb wordLimit whole ds
    let exponent := start - ((ds.length - left.length : Nat) : Int)
    match after.rest with
    | 'e' :: _ | 'E' :: _ => exponentPart negative whole exponent after.advance
    | _ => doubleOr after (Double.scaled negative whole exponent)

/-- A number, after its sign. -/
def numberPart (negative : Bool) (c : Cursor) : Reading (Json × Cursor) :=
  match c.rest with
  | [] => c.failBehind .endInValue
  | x :: _ =>
    if !x.isDigit then c.failAt .invalidNumber
    else
      let (ds, after) := if x = '0' then (['0'], c.advance) else c.digits
      let (whole, left) := absorb wordLimit 0 ds
      let exponent : Int := left.length
      match after.rest with
      | '.' :: _ => fractionPart negative whole exponent after.advance
      | 'e' :: _ | 'E' :: _ => exponentPart negative whole exponent after.advance
      | y :: _ =>
        if x = '0' && y.isDigit then after.failAt .invalidNumber
        else if left.isEmpty then wholeNumber negative whole after
        else doubleOr after (Double.scaled negative whole exponent)
      | [] =>
        if left.isEmpty then wholeNumber negative whole after
        else doubleOr after (Double.scaled negative whole exponent)

/-! ### Strings -/

/-- The value of a digit of base sixteen. -/
def hexValue? (c : Char) : Option Nat :=
  if '0' ≤ c ∧ c ≤ '9' then some (c.toNat - 0x30)
  else if 'a' ≤ c ∧ c ≤ 'f' then some (c.toNat - 0x57)
  else if 'A' ≤ c ∧ c ≤ 'F' then some (c.toNat - 0x37)
  else none

/-- The number of bytes of a text. -/
def byteCount (cs : List Char) : Nat := cs.foldl (fun n c => n + c.utf8Size) 0

/-- Four digits of base sixteen.  Four bytes are taken before they are looked at. -/
def hexFour (c : Cursor) : Reading (Nat × Cursor) :=
  let wrong : Reading (Nat × Cursor) :=
    if byteCount c.rest < 4 then .error (.endInString, c.bytes + byteCount c.rest)
    else .error (.invalidEscape, c.bytes + 4)
  match c.rest with
  | w :: x :: y :: z :: rest =>
    match hexValue? w, hexValue? x, hexValue? y, hexValue? z with
    | some w, some x, some y, some z =>
      .ok (((w * 16 + x) * 16 + y) * 16 + z, ⟨rest, c.bytes + 4⟩)
    | _, _, _, _ => wrong
  | _ => wrong

/-- A character given by its number; a leading surrogate must be followed by a trailing one. -/
def unicodeEscape (c : Cursor) : Reading (Char × Cursor) := do
  let (n, c) ← hexFour c
  if 0xDC00 ≤ n ∧ n ≤ 0xDFFF then c.failBehind .loneSurrogate
  else if n < 0xD800 ∨ n > 0xDBFF then .ok (Char.ofNat n, c)
  else
    match c.rest with
    | [] => c.failBehind .endInString
    | '\\' :: _ =>
      let c := c.advance
      match c.rest with
      | [] => c.failBehind .endInString
      | 'u' :: _ => do
        let (m, c) ← hexFour c.advance
        if m < 0xDC00 ∨ m > 0xDFFF then c.failBehind .loneSurrogate
        else .ok (Char.ofNat (0x10000 + (n - 0xD800) * 0x400 + (m - 0xDC00)), c)
      | _ => c.failAt .endOfEscape
    | _ => c.failAt .endOfEscape

/-- The character an escape stands for, after its backslash. -/
def escape (c : Cursor) : Reading (Char × Cursor) :=
  match c.rest with
  | [] => c.failBehind .endInString
  | '"' :: _ => .ok ('"', c.advance)
  | '\\' :: _ => .ok ('\\', c.advance)
  | '/' :: _ => .ok ('/', c.advance)
  | 'b' :: _ => .ok ('\x08', c.advance)
  | 'f' :: _ => .ok ('\x0c', c.advance)
  | 'n' :: _ => .ok ('\n', c.advance)
  | 'r' :: _ => .ok ('\r', c.advance)
  | 't' :: _ => .ok ('\t', c.advance)
  | 'u' :: _ => unicodeEscape c.advance
  | _ => c.failAt .invalidEscape

/-- The characters of a string up to its closing quote, the last read first. -/
def stringBody : Nat → List Char → Cursor → Reading (String × Cursor)
  | 0, _, c => c.failBehind .endInString
  | rounds + 1, behind, c =>
    match c.rest with
    | [] => c.failBehind .endInString
    | x :: _ =>
      if x = '"' then .ok (String.ofList behind.reverse, c.advance)
      else if x = '\\' then do
        let (y, c) ← escape c.advance
        stringBody rounds (y :: behind) c
      else if x.toNat < 0x20 then c.failAt .controlCharacter
      else stringBody rounds (x :: behind) c.advance

/-- A string, after its opening quote. -/
def stringPart (c : Cursor) : Reading (String × Cursor) := stringBody (c.rest.length + 1) [] c

/-! ### Containers -/

/-- The items of an array up to its bracket, the last read first; `inner` reads one of them. -/
def items (inner : Cursor → Reading (Json × Cursor)) :
    Nat → List Json → Cursor → Reading (List Json × Cursor)
  | 0, _, c => c.failBehind .endInList
  | rounds + 1, behind, c =>
    let c := c.skip
    match c.rest with
    | [] => c.failBehind .endInList
    | x :: _ =>
      if x = ']' then .ok (behind.reverse, c.advance)
      else if behind.isEmpty then do
        let (v, c) ← inner c
        items inner rounds (v :: behind) c
      else if x = ',' then
        let c := c.advance.skip
        match c.rest with
        | [] => c.failBehind .endInValue
        | ']' :: _ => c.failAt .trailingComma
        | _ => do
          let (v, c) ← inner c
          items inner rounds (v :: behind) c
      else c.failAt .expectedCommaOrBracket

/-- A member, from its key's opening quote. -/
def member (inner : Cursor → Reading (Json × Cursor)) (c : Cursor) :
    Reading ((String × Json) × Cursor) := do
  let (key, c) ← stringPart c.advance
  let c := c.skip
  match c.rest with
  | [] => c.failBehind .endInObject
  | ':' :: _ => do
    let (v, c) ← inner c.advance
    .ok ((key, v), c)
  | _ => c.failAt .expectedColon

/-- The members of an object up to its brace; `fresh` says that none has been read yet. -/
def members (inner : Cursor → Reading (Json × Cursor)) :
    Nat → Bool → Members → Cursor → Reading (Members × Cursor)
  | 0, _, _, c => c.failBehind .endInObject
  | rounds + 1, fresh, behind, c =>
    let c := c.skip
    match c.rest with
    | [] => c.failBehind .endInObject
    | x :: _ =>
      if x = '\x7d' then .ok (behind, c.advance)
      else if fresh then
        if x = '"' then do
          let ((k, v), c) ← member inner c
          members inner rounds false (behind.insert k v) c
        else c.failAt .keyNotString
      else if x = ',' then
        let c := c.advance.skip
        match c.rest with
        | [] => c.failBehind .endInValue
        | '"' :: _ => do
          let ((k, v), c) ← member inner c
          members inner rounds false (behind.insert k v) c
        | y :: _ => c.failAt (if y = '\x7d' then .trailingComma else .keyNotString)
      else c.failAt .expectedCommaOrBrace

/-- A value without parts, or a failure where none begins. -/
def atom (c : Cursor) : Reading (Json × Cursor) :=
  match c.rest with
  | [] => c.failBehind .endInValue
  | 'n' :: _ => c.advance.word .null ['u', 'l', 'l']
  | 't' :: _ => c.advance.word (.bool true) ['r', 'u', 'e']
  | 'f' :: _ => c.advance.word (.bool false) ['a', 'l', 's', 'e']
  | '-' :: _ => numberPart true c.advance
  | '"' :: _ => do
    let (s, c) ← stringPart c.advance
    .ok (.string s, c)
  | x :: _ => if x.isDigit then numberPart false c else c.failAt .expectedValue

/-- A value, inside which `depth` more containers may be opened. -/
def value : Nat → Cursor → Reading (Json × Cursor)
  | 0, c =>
    let c := c.skip
    match c.rest with
    | '[' :: _ | '\x7b' :: _ => c.failAt .tooDeep
    | _ => atom c
  | depth + 1, c =>
    let c := c.skip
    match c.rest with
    | '[' :: rest => do
      let (xs, c) ← items (value depth) (rest.length + 1) [] c.advance
      .ok (.array xs, c)
    | '\x7b' :: rest => do
      let (ms, c) ← members (value depth) (rest.length + 1) true [] c.advance
      .ok (.object ms, c)
    | _ => atom c

/-- How many containers may be open at once. -/
def depthLimit : Nat := 127

/-- A value and nothing after it but blanks. -/
def wholeText? (c : Cursor) : Reading Json := do
  let (v, c) ← value depthLimit c
  let c := c.skip
  if c.rest.isEmpty then .ok v else c.failAt .trailingCharacters

end Grammar

/-- The value that a text holds. -/
def parse (text : String) : Except SyntaxError Json :=
  let cs := text.toList
  match Grammar.wholeText? ⟨cs, 0⟩ with
  | .ok v => .ok v
  | .error (fault, bytes) =>
    let (line, column) := place cs bytes
    .error ⟨fault, line, column⟩

end DispatchTables.Json
