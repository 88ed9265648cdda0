import DispatchTables.Symbol
import Mathlib.Data.List.Basic

/-!
# Texts that are C symbols

Every text can be made an identifier, in one case or as it is; a text that is one already is left
alone.  So an identifier says which text it was made from only if that was an identifier too.

## Main Definitions

* `IsSymbol`: a text is a C identifier.

## Main Statements

* `isSymbol_cIdentifier`, `isSymbol_upperSymbol`, `isSymbol_lowerSymbol`: what is made an identifier
  is one.
* `isCIdentifier_iff`: the check for identifiers is exact.
* `IsSymbol.append`: letters, digits and underscores may be put behind an identifier.
-/

namespace DispatchTables

/-! ### Characters -/

/-- Whether a character may begin an identifier. -/
def beginsSymbol (c : Char) : Bool := c.isAlpha || c == '_'

theorem beginsSymbol_of_not_isDigit {c : Char} (symbol : isSymbolChar c = true)
    (letter : c.isDigit = false) : beginsSymbol c = true := by
  simpa [beginsSymbol, isSymbolChar, Char.isAlphanum, letter] using symbol

theorem isSymbolChar_of_beginsSymbol {c : Char} (h : beginsSymbol c = true) :
    isSymbolChar c = true := by
  simp only [beginsSymbol, Bool.or_eq_true] at h
  rcases h with letter | underscore
  · simp [isSymbolChar, Char.isAlphanum, letter]
  · simp [isSymbolChar, underscore]

/-- The characters of identifiers are those of ASCII. -/
theorem lt_of_isSymbolChar {c : Char} (h : isSymbolChar c = true) : c.toNat < 128 := by
  have within : ∀ first last : Char, c.val ≥ first.val ∧ c.val ≤ last.val → last.toNat < 128 →
      c.toNat < 128 := fun first last between ascii =>
    Nat.lt_of_le_of_lt (UInt32.le_iff_toNat_le.mp between.2) ascii
  rcases Bool.or_eq_true_iff.mp h with alphanum | underscore
  · rcases Bool.or_eq_true_iff.mp alphanum with letter | digit
    · rcases Bool.or_eq_true_iff.mp letter with upper | lower
      · exact within 'A' 'Z' (of_decide_eq_true upper) (by decide)
      · have between := Bool.and_eq_true_iff.mp lower
        exact within 'a' 'z' (between.imp of_decide_eq_true of_decide_eq_true) (by decide)
    · have between := Bool.and_eq_true_iff.mp digit
      exact within '0' '9' (between.imp of_decide_eq_true of_decide_eq_true) (by decide)
  · rw [beq_iff_eq.mp underscore]
    decide

/-- What holds of the first 128 characters holds of those of identifiers. -/
theorem forall_symbolChar {p : Char → Bool} (h : ∀ n : Fin 128, p (Char.ofNat n) = true) {c : Char}
    (symbol : isSymbolChar c = true) : p c = true := by
  have checked := h ⟨c.toNat, lt_of_isSymbolChar symbol⟩
  rwa [Char.ofNat_toNat] at checked

theorem not_isDigit_of_beginsSymbol {c : Char} (h : beginsSymbol c = true) : c.isDigit = false := by
  have checked := forall_symbolChar (p := fun c => !beginsSymbol c || !c.isDigit)
    (by decide +kernel) (isSymbolChar_of_beginsSymbol h)
  simpa [h] using checked

theorem symbolChar_eq_self {c : Char} (h : isSymbolChar c = true) : symbolChar c = c := if_pos h

/-- Numbers are written with digits. -/
theorem isSymbolChar_of_mem_repr (n : Nat) : ∀ c ∈ (Nat.repr n).toList, isSymbolChar c = true := by
  intro c mem
  rw [Nat.toList_repr] at mem
  have digit := Nat.isDigit_of_mem_toDigits (by decide) (by decide) mem
  simp [isSymbolChar, Char.isAlphanum, digit]

/-! ### Identifiers -/

/-- **A C identifier**: a letter or an underscore, then letters, digits and underscores, of
ASCII. -/
def IsSymbol (text : String) : Prop :=
  ∃ c rest, text.toList = c :: rest ∧ beginsSymbol c = true ∧ ∀ d ∈ rest, isSymbolChar d = true

theorem IsSymbol.letters {text : String} (h : IsSymbol text) :
    ∀ c ∈ text.toList, isSymbolChar c = true := by
  obtain ⟨c, rest, chars, begins, letters⟩ := h
  intro d mem
  rw [chars] at mem
  rcases List.mem_cons.mp mem with rfl | later
  · exact isSymbolChar_of_beginsSymbol begins
  · exact letters d later

theorem isSymbol_guardDigit {cs : List Char} (letters : ∀ c ∈ cs, isSymbolChar c = true) :
    IsSymbol (String.ofList (guardDigit cs)) := by
  unfold IsSymbol
  rw [String.toList_ofList]
  cases cs with
  | nil => exact ⟨'_', [], rfl, by decide, by simp⟩
  | cons c rest =>
    by_cases digit : c.isDigit = true
    · rw [guardDigit, if_pos digit]
      exact ⟨'_', c :: rest, rfl, by decide, letters⟩
    · rw [guardDigit, if_neg digit]
      have symbol := letters c List.mem_cons_self
      exact ⟨c, rest, rfl, beginsSymbol_of_not_isDigit symbol (Bool.eq_false_iff.mpr digit),
        fun d mem => letters d (List.mem_cons_of_mem c mem)⟩

/-- **What is made an identifier is one.** -/
theorem isSymbol_cIdentifier (text : String) : IsSymbol (cIdentifier text) := by
  refine isSymbol_guardDigit fun c mem => ?_
  obtain ⟨d, -, rfl⟩ := List.mem_map.mp mem
  exact isSymbolChar_symbolChar d

/-- An identifier is left alone. -/
theorem IsSymbol.cIdentifier_eq {text : String} (h : IsSymbol text) : cIdentifier text = text := by
  have same : text.toList.map symbolChar = text.toList :=
    (List.map_congr_left fun c mem => symbolChar_eq_self (h.letters c mem)).trans (List.map_id _)
  obtain ⟨c, rest, chars, begins, letters⟩ := h
  rw [cIdentifier, same, chars, guardDigit, if_neg, ← chars, String.ofList_toList]
  rw [not_isDigit_of_beginsSymbol begins]
  decide

/-- **The check for identifiers is exact.** -/
theorem isCIdentifier_iff {text : String} : isCIdentifier text = true ↔ IsSymbol text := by
  rw [isCIdentifier, Bool.and_eq_true, beq_iff_eq]
  constructor
  · rintro ⟨-, same⟩
    exact same ▸ isSymbol_cIdentifier text
  · intro h
    refine ⟨?_, h.cIdentifier_eq⟩
    obtain ⟨c, rest, chars, -⟩ := h
    rw [Bool.not_eq_true', ← Bool.not_eq_true, String.isEmpty_iff, ← String.toList_eq_nil_iff,
      chars]
    exact List.cons_ne_nil c rest

instance (text : String) : Decidable (IsSymbol text) := decidable_of_iff _ isCIdentifier_iff

/-- Letters, digits and underscores may be put behind an identifier. -/
theorem IsSymbol.append {text more : String} (h : IsSymbol text)
    (letters : ∀ c ∈ more.toList, isSymbolChar c = true) : IsSymbol (text ++ more) := by
  obtain ⟨c, rest, chars, begins, first⟩ := h
  refine ⟨c, rest ++ more.toList, by rw [String.toList_append, chars]; rfl, begins, ?_⟩
  intro d mem
  exact (List.mem_append.mp mem).elim (first d) (letters d)

/-- A change of characters that keeps them those of identifiers keeps an identifier. -/
theorem IsSymbol.map {text : String} (h : IsSymbol text) {f : Char → Char}
    (keeps : ∀ n : Fin 128, ((!beginsSymbol (Char.ofNat n) || beginsSymbol (f (Char.ofNat n))) &&
      (!isSymbolChar (Char.ofNat n) || isSymbolChar (f (Char.ofNat n)))) = true) :
    IsSymbol (String.ofList (text.toList.map f)) := by
  obtain ⟨c, rest, chars, begins, letters⟩ := h
  have kept : ∀ d, isSymbolChar d = true → (!beginsSymbol d || beginsSymbol (f d)) = true ∧
      (!isSymbolChar d || isSymbolChar (f d)) = true := fun d symbol =>
    Bool.and_eq_true_iff.mp (forall_symbolChar
      (p := fun d => (!beginsSymbol d || beginsSymbol (f d)) &&
        (!isSymbolChar d || isSymbolChar (f d))) keeps symbol)
  refine ⟨f c, rest.map f, by rw [String.toList_ofList, chars]; rfl, ?_, ?_⟩
  · simpa [begins] using (kept c (isSymbolChar_of_beginsSymbol begins)).1
  · intro d mem
    obtain ⟨e, inRest, rfl⟩ := List.mem_map.mp mem
    simpa [letters e inRest] using (kept e (letters e inRest)).2

/-- **What is made an identifier in capitals is one.** -/
theorem isSymbol_upperSymbol (text : String) : IsSymbol (upperSymbol text) :=
  (isSymbol_cIdentifier text).map (by decide +kernel)

/-- **What is made an identifier in small letters is one.** -/
theorem isSymbol_lowerSymbol (text : String) : IsSymbol (lowerSymbol text) :=
  (isSymbol_cIdentifier text).map (by decide +kernel)

end DispatchTables
