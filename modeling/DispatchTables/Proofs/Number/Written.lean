import DispatchTables.Json.Printer
import DispatchTables.Proofs.Number.Rounding
import DispatchTables.Proofs.Text.Runs

/-!
# Numbers as they are written

A number in a document can be read off its text: digits, with a point among them or a power of ten
behind them.  The text of a double says its shortest digits, which round to it and to no other, so
no two doubles are written alike.  Nor is a double ever written like a whole number, since there is
always a point in it or an exponent.

## Main Definitions

* `decimalValue`: what a text of digits, point and exponent says.
* `isNumberChar`: the characters of numbers.

## Main Statements

* `decimalValue_body`: the text of a double, but for its sign, says its shortest digits.
* `Double.documentText_injective`: no two doubles are written alike.
* `Json.Number.text_injective`: no two numbers are.
-/

namespace DispatchTables

open DispatchTables.Text

variable {d : Decimal} {whole fraction power digits : List Char} {x y : Double} {c : Char}

/-! ### Reading -/

/-- The power of ten behind the digits: none, or a sign and digits behind an `e`. -/
def exponentOf : List Char → Int
  | _ :: '-' :: digits => -(Nat.ofDigitChars 10 digits 0 : Int)
  | _ :: _ :: digits => Nat.ofDigitChars 10 digits 0
  | _ => 0

/-- **What a text says** that has digits, a point among them perhaps, and an exponent perhaps. -/
def decimalValue (text : List Char) : ℚ :=
  let mantissa := text.takeWhile (· != 'e')
  let whole := mantissa.takeWhile (· != '.')
  let fraction := (mantissa.dropWhile (· != '.')).drop 1
  Nat.ofDigitChars 10 (whole ++ fraction) 0 *
    10 ^ (exponentOf (text.dropWhile (· != 'e')) - (fraction.length : Int))

/-- A text of digits. -/
def AllDigits (text : List Char) : Prop := ∀ c ∈ text, c.isDigit = true

theorem AllDigits.append (h : AllDigits whole) (h' : AllDigits fraction) :
    AllDigits (whole ++ fraction) := fun c mem =>
  (List.mem_append.mp mem).elim (h c) (h' c)

theorem allDigits_zeros (n : Nat) : AllDigits (zeros n) := fun c mem => by
  rw [List.eq_of_mem_replicate mem]
  rfl

theorem AllDigits.ne (h : AllDigits whole) (mark : Char) (other : mark.isDigit = false) :
    ∀ c ∈ whole, (c != mark) = true := by
  intro c mem
  rw [bne_iff_ne]
  rintro rfl
  rw [h c mem] at other
  cases other

/-- A text with a point, put together from its parts. -/
theorem decimalValue_pointed (wholeDigits : AllDigits whole) (fractionDigits : AllDigits fraction)
    (stops : StopsAt (· != 'e') power) :
    decimalValue (whole ++ '.' :: fraction ++ power) =
      Nat.ofDigitChars 10 (whole ++ fraction) 0 * 10 ^ (exponentOf power - (fraction.length : Int)) := by
  have run : ∀ c ∈ whole ++ '.' :: fraction, (c != 'e') = true := by
    intro c mem
    rcases List.mem_append.mp mem with early | late
    · exact wholeDigits.ne _ rfl c early
    · rcases List.mem_cons.mp late with rfl | late
      · rfl
      · exact fractionDigits.ne _ rfl c late
  have ends : StopsAt (· != '.') ('.' :: fraction) := stopsAt_cons rfl _
  unfold decimalValue
  dsimp only
  rw [takeWhile_run run stops, dropWhile_run run stops, takeWhile_run (wholeDigits.ne _ rfl) ends,
    dropWhile_run (wholeDigits.ne _ rfl) ends]
  rfl

/-- A text without a point. -/
theorem decimalValue_pointless (wholeDigits : AllDigits whole) (stops : StopsAt (· != 'e') power) :
    decimalValue (whole ++ power) = Nat.ofDigitChars 10 whole 0 * 10 ^ exponentOf power := by
  have ends : StopsAt (· != '.') [] := nofun
  have mantissa := takeWhile_run (wholeDigits.ne '.' rfl) ends
  have rest := dropWhile_run (wholeDigits.ne '.' rfl) ends
  rw [List.append_nil] at mantissa rest
  unfold decimalValue
  dsimp only
  rw [takeWhile_run (wholeDigits.ne _ rfl) stops, dropWhile_run (wholeDigits.ne _ rfl) stops, mantissa,
    rest]
  simp

/-! ### Doubles -/

theorem ofDigitChars_zeros_append (n : Nat) (digits : List Char) :
    Nat.ofDigitChars 10 (zeros n ++ digits) 0 = Nat.ofDigitChars 10 digits 0 := by
  rw [Nat.ofDigitChars_append, zeros, Nat.ofDigitChars_replicate_zero, Nat.mul_zero]

/-- A text with a point and no exponent. -/
theorem decimalValue_fixed (wholeDigits : AllDigits whole) (fractionDigits : AllDigits fraction) :
    decimalValue (whole ++ '.' :: fraction) =
      Nat.ofDigitChars 10 (whole ++ fraction) 0 * 10 ^ (-(fraction.length : Int)) := by
  have stops : StopsAt (· != 'e') [] := nofun
  have read := decimalValue_pointed wholeDigits fractionDigits stops
  rwa [List.append_nil, show exponentOf [] = 0 from rfl, zero_sub] at read

/-- **Positional notation says its digits.** -/
theorem decimalValue_positional (allDigits : AllDigits d.digits) :
    decimalValue (d.positional ['.', '0']) = d.value := by
  unfold Decimal.positional Decimal.value
  split
  · -- zeros, the point and more zeros stand ahead
    rename_i negative
    have fractionDigits := (allDigits_zeros ((-d.exponent).toNat - 1)).append allDigits
    refine (decimalValue_fixed (allDigits_zeros 1) fractionDigits).trans ?_
    rw [ofDigitChars_zeros_append, ofDigitChars_zeros_append, List.length_append, zeros,
      List.length_replicate]
    congr 2
    push_cast
    omega
  · rename_i positive
    dsimp only
    split
    · -- zeros and the point stand behind
      rename_i short
      have wholeDigits :=
        allDigits.append (allDigits_zeros (d.exponent.toNat + 1 - d.digits.length))
      refine (decimalValue_fixed wholeDigits (allDigits_zeros 1)).trans ?_
      have places : d.exponent - (d.digits.length - 1 : Int) =
          ((d.exponent.toNat + 1 - d.digits.length : Nat) : Int) := by omega
      rw [Nat.ofDigitChars_append, Nat.ofDigitChars_append, zeros, zeros,
        Nat.ofDigitChars_replicate_zero, Nat.ofDigitChars_replicate_zero, List.length_replicate,
        places, zpow_natCast]
      push_cast
      rw [zpow_neg]
      ring
    · -- the point stands among the digits
      rename_i long
      have wholeDigits : AllDigits (d.digits.take (d.exponent.toNat + 1)) := fun c mem =>
        allDigits c (List.mem_of_mem_take mem)
      have fractionDigits : AllDigits (d.digits.drop (d.exponent.toNat + 1)) := fun c mem =>
        allDigits c (List.mem_of_mem_drop mem)
      refine (decimalValue_fixed wholeDigits fractionDigits).trans ?_
      rw [List.take_append_drop, List.length_drop]
      congr 2
      omega

/-- The exponent of scientific notation is read back. -/
theorem exponentOf_signed (exponent : Int) :
    exponentOf ('e' :: (if exponent < 0 then '-' else '+') :: Nat.toDigits 10 exponent.natAbs) =
      exponent := by
  by_cases negative : exponent < 0
  · rw [if_pos negative, exponentOf, Nat.ofDigitChars_ten_toDigits]
    omega
  · rw [if_neg negative]
    change ((Nat.ofDigitChars 10 (Nat.toDigits 10 exponent.natAbs) 0 : Nat) : Int) = exponent
    rw [Nat.ofDigitChars_ten_toDigits]
    omega

/-- **Scientific notation says its digits.** -/
theorem decimalValue_scientific (allDigits : AllDigits d.digits) (some_ : d.digits ≠ []) :
    decimalValue d.scientific = d.value := by
  have stops (sign : Char) : StopsAt (· != 'e')
      ('e' :: sign :: Nat.toDigits 10 d.exponent.natAbs) := stopsAt_cons rfl _
  have first : AllDigits (d.digits.take 1) := fun c mem => allDigits c (List.mem_of_mem_take mem)
  have rest : AllDigits (d.digits.drop 1) := fun c mem => allDigits c (List.mem_of_mem_drop mem)
  have length := List.length_pos_iff.mpr some_
  unfold Decimal.scientific Decimal.value
  dsimp only
  cases behind : d.digits.drop 1 with
  | nil =>
    have single : d.digits.length = 1 := by
      have := congrArg List.length behind
      rw [List.length_drop, List.length_nil] at this
      omega
    dsimp only
    rw [List.append_nil, decimalValue_pointless first (stops _), exponentOf_signed,
      List.take_of_length_le single.le, single]
    simp
  | cons c more =>
    dsimp only
    rw [← behind, decimalValue_pointed first rest (stops _), exponentOf_signed,
      List.take_append_drop, List.length_drop]
    congr 2
    omega

/-! ### The digits of doubles -/

theorem Double.allDigits_shortest (x : Double) (tie : Tie) : AllDigits (x.shortest tie).digits := by
  unfold Double.shortest
  split
  · exact allDigits_zeros 1
  · intro c mem
    have inside := List.dropWhile_suffix (l := (Nat.toDigits 10
      (x.shortestOn tie 16 (leadingPower x.numerator x.denominator)).1).reverse) (· == '0')
    exact Nat.isDigit_of_mem_toDigits (by decide) (by decide)
      (List.mem_reverse.mp (inside.subset (List.mem_reverse.mp mem)))

/-- There are some digits, since none would say zero. -/
theorem Double.digits_shortest_ne_nil (x : Double) (tie : Tie) : (x.shortest tie).digits ≠ [] := by
  intro none_
  have rounds := x.rounds_shortest tie
  have nothing : (x.shortest tie).value = 0 := by
    rw [Decimal.value, none_, Nat.ofDigitChars_nil, Nat.cast_zero, zero_mul]
  rw [nothing] at rounds
  have zero := rounds_unique rounds rounds_zero
  rw [Double.shortest, if_pos zero] at none_
  cases none_

namespace Double

/-- The text of a double without its sign. -/
def bodyText (x : Double) : List Char :=
  let d := x.shortest .toEven
  if decide (-5 ≤ d.exponent) && decide (d.exponent < 16) then d.positional ['.', '0']
  else d.scientific

theorem toList_documentText (x : Double) : x.documentText.toList = x.signText ++ x.bodyText := by
  rw [documentText, String.toList_ofList]
  rfl

/-- **The text of a double says its shortest digits.** -/
theorem decimalValue_body (x : Double) : decimalValue x.bodyText = (x.shortest .toEven).value := by
  unfold bodyText
  dsimp only
  split
  · exact decimalValue_positional (x.allDigits_shortest .toEven)
  · exact decimalValue_scientific (x.allDigits_shortest .toEven) (x.digits_shortest_ne_nil .toEven)

end Double

/-! ### Characters -/

/-- The characters of numbers. -/
def isNumberChar (c : Char) : Bool :=
  c.isDigit || c == '-' || c == '+' || c == '.' || c == 'e'

/-- The marks that whole numbers do not have. -/
def isFractionMark (c : Char) : Bool := c == '.' || c == 'e'

theorem AllDigits.number (h : AllDigits digits) : ∀ c ∈ digits, isNumberChar c = true := by
  intro c mem
  rw [isNumberChar, h c mem]
  rfl

theorem allDigits_toDigits (n : Nat) : AllDigits (Nat.toDigits 10 n) := fun _ mem =>
  Nat.isDigit_of_mem_toDigits (by decide) (by decide) mem

/-- **A text as doubles have it**, but for the sign: its characters are those of numbers, it begins
with a digit, and there is a point in it or an exponent. -/
structure IsFractionText (text : List Char) : Prop where
  number : ∀ c ∈ text, isNumberChar c = true
  begins : ∃ c rest, text = c :: rest ∧ c.isDigit = true
  marked : ∃ c ∈ text, isFractionMark c = true

theorem isFractionText_pointed (wholeDigits : AllDigits whole) (some_ : whole ≠ [])
    (fractionDigits : AllDigits fraction) : IsFractionText (whole ++ '.' :: fraction) where
  number c mem := by
    rcases List.mem_append.mp mem with early | late
    · exact wholeDigits.number c early
    · rcases List.mem_cons.mp late with rfl | late
      · rfl
      · exact fractionDigits.number c late
  begins := by
    obtain ⟨c, rest, rfl⟩ := List.exists_cons_of_ne_nil some_
    exact ⟨c, rest ++ '.' :: fraction, rfl, wholeDigits c List.mem_cons_self⟩
  marked := ⟨'.', by simp, rfl⟩

theorem isFractionText_positional (allDigits : AllDigits d.digits) (some_ : d.digits ≠ []) :
    IsFractionText (d.positional ['.', '0']) := by
  unfold Decimal.positional
  split
  · exact isFractionText_pointed (allDigits_zeros 1) (List.cons_ne_nil _ _)
      ((allDigits_zeros _).append allDigits)
  · dsimp only
    split
    · exact isFractionText_pointed (allDigits.append (allDigits_zeros _)) (by simp [some_])
        (allDigits_zeros 1)
    · refine isFractionText_pointed (fun c mem => allDigits c (List.mem_of_mem_take mem)) ?_
        fun c mem => allDigits c (List.mem_of_mem_drop mem)
      simp [some_]

theorem isFractionText_scientific (allDigits : AllDigits d.digits) (some_ : d.digits ≠ []) :
    IsFractionText d.scientific := by
  obtain ⟨c, rest, digits⟩ := List.exists_cons_of_ne_nil some_
  rw [digits] at allDigits
  obtain ⟨first, others⟩ := List.forall_mem_cons.mp allDigits
  have exponent := (allDigits_toDigits d.exponent.natAbs).number
  unfold Decimal.scientific
  rw [digits]
  refine ⟨?_, ⟨c, _, rfl, first⟩, ⟨'e', by simp, rfl⟩⟩
  intro x mem
  rcases List.mem_append.mp mem with mantissa | power
  · rcases List.mem_append.mp mantissa with whole | fraction
    · exact AllDigits.number (List.forall_mem_singleton.mpr first) x whole
    · cases rest with
      | nil => cases fraction
      | cons next more =>
        rcases List.mem_cons.mp fraction with rfl | late
        · rfl
        · exact AllDigits.number others x late
  · rcases List.mem_cons.mp power with rfl | power
    · rfl
    · rcases List.mem_cons.mp power with rfl | power
      · split <;> rfl
      · exact exponent x power

theorem Double.isFractionText_body (x : Double) : IsFractionText x.bodyText := by
  unfold bodyText
  dsimp only
  split
  · exact isFractionText_positional (x.allDigits_shortest _) (x.digits_shortest_ne_nil _)
  · exact isFractionText_scientific (x.allDigits_shortest _) (x.digits_shortest_ne_nil _)

theorem number_sign (negative : Bool) :
    ∀ c ∈ (if negative then ['-'] else []), isNumberChar c = true := by
  cases negative <;> exact forall_mem_of_all (by decide)

theorem number_positional {mark : List Char} (allDigits : AllDigits d.digits)
    (marks : ∀ c ∈ mark, isNumberChar c = true) :
    ∀ c ∈ d.positional mark, isNumberChar c = true := by
  have zeros (n : Nat) := (allDigits_zeros n).number
  unfold Decimal.positional
  split
  · exact List.forall_mem_append.mpr ⟨List.forall_mem_append.mpr
      ⟨forall_mem_of_all (by decide), zeros _⟩, allDigits.number⟩
  · dsimp only
    split
    · exact List.forall_mem_append.mpr
        ⟨List.forall_mem_append.mpr ⟨allDigits.number, zeros _⟩, marks⟩
    · exact List.forall_mem_append.mpr ⟨fun c mem => allDigits.number c (List.mem_of_mem_take mem),
        List.forall_mem_cons.mpr ⟨rfl, fun c mem => allDigits.number c (List.mem_of_mem_drop mem)⟩⟩

/-- The positional text of a double is made of the characters of numbers, too. -/
theorem Double.plainText_run (x : Double) : ∀ c ∈ x.plainText.toList, isNumberChar c = true := by
  unfold Double.plainText
  split
  · have whole := (allDigits_toDigits (x.roundedTo 1 / Nat.pow 10 1)).number
    have rest := (allDigits_toDigits (x.roundedTo 1 % Nat.pow 10 1)).number
    rw [Double.fixedText, String.toList_ofList, Double.placesText, if_neg (by decide)]
    exact List.forall_mem_append.mpr ⟨number_sign _, List.forall_mem_append.mpr ⟨whole,
      List.forall_mem_cons.mpr ⟨rfl, List.forall_mem_append.mpr
        ⟨(allDigits_zeros _).number, rest⟩⟩⟩⟩
  · rw [String.toList_ofList]
    exact List.forall_mem_append.mpr ⟨number_sign _,
      number_positional (x.allDigits_shortest _) (by simp)⟩

/-! ### No two alike -/

/-- A sign is told from what begins with a digit. -/
theorem sign_unique {negative negative' : Bool} {body body' : List Char}
    (begins : ∃ c rest, body = c :: rest ∧ c.isDigit = true)
    (begins' : ∃ c rest, body' = c :: rest ∧ c.isDigit = true)
    (same : (if negative then ['-'] else []) ++ body = (if negative' then ['-'] else []) ++ body') :
    negative = negative' ∧ body = body' := by
  obtain ⟨c, rest, rfl, digit⟩ := begins
  obtain ⟨c', rest', rfl, digit'⟩ := begins'
  cases negative <;> cases negative' <;> simp only [Bool.false_eq_true, if_true, if_false,
    List.nil_append, List.cons_append, List.cons.injEq] at same
  case false.false =>
    obtain ⟨rfl, rfl⟩ := same
    exact ⟨rfl, rfl⟩
  case false.true =>
    rw [same.1] at digit
    cases digit
  case true.false =>
    rw [← same.1] at digit'
    cases digit'
  case true.true =>
    obtain ⟨-, rfl, rfl⟩ := same
    exact ⟨rfl, rfl⟩

/-- **No two doubles are written alike.** -/
theorem Double.documentText_injective : Function.Injective Double.documentText := by
  intro x y same
  have texts := congrArg String.toList same
  rw [toList_documentText, toList_documentText] at texts
  obtain ⟨sign, body⟩ :=
    sign_unique x.isFractionText_body.begins y.isFractionText_body.begins texts
  have rounds := x.rounds_shortest .toEven
  rw [← decimalValue_body, body, decimalValue_body] at rounds
  have position := rounds_unique rounds (y.rounds_shortest .toEven)
  obtain ⟨xn, xp, xf⟩ := x
  obtain ⟨yn, yp, yf⟩ := y
  obtain rfl : xn = yn := sign
  obtain rfl : xp = yp := position
  rfl

namespace Json

theorem toList_wholeText (n : Int) :
    (wholeText n).toList = (if decide (n < 0) then ['-'] else []) ++ Nat.toDigits 10 n.natAbs := by
  unfold wholeText
  by_cases negative : n < 0
  · rw [if_pos negative, if_pos (decide_eq_true negative), String.toList_append, Nat.toList_repr]
    rfl
  · rw [if_neg negative, if_neg (by simpa using negative), Nat.toList_repr]
    rfl

theorem toDigits_begins (n : Nat) :
    ∃ c rest, Nat.toDigits 10 n = c :: rest ∧ c.isDigit = true := by
  obtain ⟨c, rest, digits⟩ := List.exists_cons_of_ne_nil (Nat.toDigits_ne_nil (b := 10) (n := n))
  exact ⟨c, rest, digits, allDigits_toDigits n c (digits ▸ List.mem_cons_self)⟩

theorem wholeText_injective : Function.Injective wholeText := by
  intro n m same
  have texts := congrArg String.toList same
  rw [toList_wholeText, toList_wholeText] at texts
  obtain ⟨sign, digits⟩ := sign_unique (toDigits_begins _) (toDigits_begins _) texts
  have absolute := congrArg (Nat.ofDigitChars 10 · 0) digits
  rw [Nat.ofDigitChars_ten_toDigits, Nat.ofDigitChars_ten_toDigits] at absolute
  have signs := decide_eq_decide.mp sign
  omega

/-- Every double has a mark in its text that no whole number has. -/
theorem wholeText_ne_documentText (n : Int) (x : Double) : wholeText n ≠ x.documentText := by
  intro same
  obtain ⟨c, mem, mark⟩ := x.isFractionText_body.marked
  have inside : c ∈ (wholeText n).toList := by
    rw [same, Double.toList_documentText]
    exact List.mem_append_right _ mem
  rw [toList_wholeText] at inside
  rcases List.mem_append.mp inside with sign | digits
  · split at sign
    · rw [List.mem_singleton.mp sign] at mark
      cases mark
    · cases sign
  · have digit := allDigits_toDigits _ c digits
    rw [isFractionMark, Bool.or_eq_true, beq_iff_eq, beq_iff_eq] at mark
    rcases mark with rfl | rfl <;> cases digit

/-- **No two numbers are written alike.** -/
theorem Number.text_injective : Function.Injective Number.text := by
  intro m n same
  cases m with
  | whole m =>
    cases n with
    | whole n => exact congrArg _ (wholeText_injective same)
    | double y => exact absurd same (wholeText_ne_documentText m y)
  | double x =>
    cases n with
    | whole n => exact absurd same.symm (wholeText_ne_documentText n x)
    | double y => exact congrArg _ (Double.documentText_injective same)

/-- The text of a number is a run of the characters of numbers, and there are some. -/
theorem Number.text_run (n : Number) :
    (∀ c ∈ n.text.toList, isNumberChar c = true) ∧ n.text.toList ≠ [] := by
  cases n with
  | whole n =>
    obtain ⟨c, rest, digits, -⟩ := toDigits_begins n.natAbs
    rw [Number.text, toList_wholeText]
    refine ⟨List.forall_mem_append.mpr ⟨number_sign _, (allDigits_toDigits n.natAbs).number⟩, ?_⟩
    rw [digits]
    simp
  | double x =>
    obtain ⟨c, rest, body, -⟩ := x.isFractionText_body.begins
    rw [Number.text, Double.toList_documentText]
    refine ⟨List.forall_mem_append.mpr ⟨number_sign _, x.isFractionText_body.number⟩, ?_⟩
    rw [body]
    simp

end Json

end DispatchTables
