import DispatchTables.Pins.Suggestion
import DispatchTables.Proofs.Number.Order
import DispatchTables.Proofs.Pins.Charging
import Mathlib.Data.String.Basic

/-!
# Chips to use instead

When a chip falls short, it is known how many pins are needed, and that number has nothing to do
with the chip.  So the chips of a catalog that expose at least as many are just those that the same
uses can be given pins of.  They are listed by price.

Prices are compared as doubles are ordered in total, not by value.  The two orders tell two prices
apart: a chip at negative zero comes before a chip at zero whatever their names, though neither
costs less than the other.

## Main Definitions

* `Suggestion.Precedes`: the cheaper comes first, no price comes last, and of equal prices the name
  decides.

## Main Statements

* `isOk_allocate`, `required_of_allocate`: one number says which chips suffice, and it is the one
  that is reported.
* `suggest_after_overrun`: what is suggested are the chips that would do, in order of price.
-/

namespace DispatchTables

variable {chip c : ChipSpec} {uses : List BusUse} {o : Overrun} {catalog : List ChipSpec}
  {required : Nat} {current : String}

/-! ### The chips that would do -/

theorem isOk_allocate (chip : ChipSpec) (uses : List BusUse) :
    (allocate chip uses).isOk = decide (pinsNeeded [] uses ≤ chip.exposedPins.length) := by
  obtain ⟨warnings, eq⟩ := allocate_eq_lines chip uses
  rw [eq, ← length_linesOf]
  cases beyond : (linesOf [] uses)[chip.exposedPins.length]? with
  | none => simpa [Except.isOk, Except.toBool] using beyond
  | some l =>
    obtain ⟨short, -⟩ := List.getElem?_eq_some_iff.mp beyond
    simpa [Except.isOk, Except.toBool] using short

/-- **What a chip falls short of is what the uses need**, whichever chip it is. -/
theorem required_of_allocate (short : allocate chip uses = .error o) :
    o.required = pinsNeeded [] uses := by
  obtain ⟨warnings, eq⟩ := allocate_eq_lines chip uses
  rw [eq] at short
  split at short
  · cases short
  · cases short
    rfl

/-- The chips with enough pins, one suggestion for each. -/
theorem suggest_perm (catalog : List ChipSpec) (required : Nat) (current : String) :
    (suggest catalog required current).Perm ((catalog.filter fun c =>
      c.name != current && decide (required ≤ c.exposedPins.length)).map Suggestion.ofChip) :=
  List.mergeSort_perm _ _

/-! ### The order of suggestions -/

namespace Suggestion

variable {a b d : Suggestion}

/-- The order by what prices are worth: what is worth less comes first, no price comes last, and
where prices are worth the same the name decides. -/
def Before (worth : Double → Int) (a b : Suggestion) : Prop :=
  match a.price, b.price with
  | some x, some y => worth x < worth y ∨ worth x = worth y ∧ a.name ≤ b.name
  | some _, none => True
  | none, some _ => False
  | none, none => a.name ≤ b.name

/-- **The order in which chips are to be suggested**: the cheaper first and those without a price
last, and of equal prices by name. -/
def Precedes : Suggestion → Suggestion → Prop := Before Double.value

theorem Before.trans {worth : Double → Int} (h₁ : Before worth a b) (h₂ : Before worth b d) :
    Before worth a d := by
  obtain ⟨aName, aPins, aPrice⟩ := a
  obtain ⟨bName, bPins, bPrice⟩ := b
  obtain ⟨dName, dPins, dPrice⟩ := d
  cases aPrice <;> cases bPrice <;> cases dPrice <;> simp only [Before] at h₁ h₂ ⊢
  case none.none.none => exact le_trans h₁ h₂
  case some.some.some =>
    rcases h₁ with less₁ | ⟨same₁, name₁⟩ <;> rcases h₂ with less₂ | ⟨same₂, name₂⟩
    · exact .inl (lt_trans less₁ less₂)
    · exact .inl (same₂ ▸ less₁)
    · exact .inl (same₁ ▸ less₂)
    · exact .inr ⟨same₁.trans same₂, le_trans name₁ name₂⟩

theorem Before.total (worth : Double → Int) (a b : Suggestion) :
    Before worth a b ∨ Before worth b a := by
  obtain ⟨aName, aPins, aPrice⟩ := a
  obtain ⟨bName, bPins, bPrice⟩ := b
  have names := le_total aName bName
  cases aPrice <;> cases bPrice <;> simp only [Before]
  case none.none => exact names
  case none.some => exact .inr trivial
  case some.none => exact .inl trivial
  case some.some x y =>
    rcases lt_trichotomy (worth x) (worth y) with less | same | more
    · exact .inl (.inl less)
    · exact names.imp (fun name => .inr ⟨same, name⟩) fun name => .inr ⟨same.symm, name⟩
    · exact .inr (.inl more)

theorem isLE_compare_name (a b : String) : (compare a b).isLE = true ↔ a ≤ b := by
  rw [Ordering.isLE_iff_ne_gt, ← not_lt, ← compare_gt_iff_gt]

/-- Suggestions are compared by the rank of their prices. -/
theorem isLE_compareTo : (a.compareTo b).isLE = true ↔ Before Double.rank a b := by
  obtain ⟨aName, aPins, aPrice⟩ := a
  obtain ⟨bName, bPins, bPrice⟩ := b
  have names := isLE_compare_name aName bName
  cases aPrice <;> cases bPrice <;> simp only [compareTo, comparePrice, Before]
  case none.none => exact names
  case none.some => simp [Ordering.then]
  case some.none => simp [Ordering.then]
  case some.some x y =>
    rcases lt_trichotomy x.rank y.rank with less | same | more
    · have cheaper : x.compareTotal y = .lt := Int.compare_eq_lt.mpr less
      simp [cheaper, less, Ordering.then]
    · have equal : x.compareTotal y = .eq := Int.compare_eq_eq.mpr same
      simp [equal, same, Ordering.then, names]
    · have dearer : x.compareTotal y = .gt := Int.compare_eq_gt.mpr more
      simp [dearer, Ordering.then]
      omega

/-- **Ranked prices are in order**, but for a negative zero before a zero. -/
theorem Before.precedes (h : Before Double.rank a b) :
    a.Precedes b ∨ a.price = some .negativeZero ∧ b.price = some .zero := by
  obtain ⟨aName, aPins, aPrice⟩ := a
  obtain ⟨bName, bPins, bPrice⟩ := b
  cases aPrice <;> cases bPrice <;> simp only [Precedes, Before] at h ⊢
  case none.none => exact .inl h
  case some.none => exact .inl trivial
  case some.some x y =>
    have ranks : x.rank ≤ y.rank := by omega
    rcases Double.value_of_rank_le ranks with less | rfl | ⟨rfl, rfl⟩
    · exact .inl (.inl less)
    · exact .inl (.inr ⟨rfl, (h.resolve_left (lt_irrefl _)).2⟩)
    · exact .inr ⟨rfl, rfl⟩

end Suggestion

/-- What is suggested is sorted by the rank of prices. -/
theorem pairwise_suggest (catalog : List ChipSpec) (required : Nat) (current : String) :
    (suggest catalog required current).Pairwise (Suggestion.Before Double.rank) := by
  refine (List.pairwise_mergeSort ?_ ?_ _).imp Suggestion.isLE_compareTo.mp
  · intro a b d h₁ h₂
    rw [Suggestion.isLE_compareTo] at *
    exact h₁.trans h₂
  · intro a b
    rw [Bool.or_eq_true, Suggestion.isLE_compareTo, Suggestion.isLE_compareTo]
    exact Suggestion.Before.total Double.rank a b

/-- **After a chip has fallen short, what is suggested are the chips that would do.**  They are the
other chips of the catalog on which the same uses are given pins, one suggestion for each, and they
are in order, except that a chip at negative zero comes before every chip at zero.  Without a chip
at negative zero they are in order. -/
theorem suggest_after_overrun (short : allocate chip uses = .error o) (catalog : List ChipSpec) :
    (suggest catalog o.required chip.name).Perm ((catalog.filter fun c =>
      c.name != chip.name && (allocate c uses).isOk).map Suggestion.ofChip) ∧
    (suggest catalog o.required chip.name).Pairwise (fun a b =>
      a.Precedes b ∨ a.price = some .negativeZero ∧ b.price = some .zero) ∧
    ((∀ c ∈ catalog, c.price ≠ some .negativeZero) →
      (suggest catalog o.required chip.name).Pairwise Suggestion.Precedes) := by
  have fitting : (suggest catalog o.required chip.name).Perm ((catalog.filter fun c =>
      c.name != chip.name && (allocate c uses).isOk).map Suggestion.ofChip) := by
    simp only [isOk_allocate, ← required_of_allocate short]
    exact suggest_perm catalog o.required chip.name
  have sorted := (pairwise_suggest catalog o.required chip.name).imp Suggestion.Before.precedes
  refine ⟨fitting, sorted, fun unsigned => sorted.imp_of_mem ?_⟩
  intro a b mem _ order
  refine order.resolve_right fun zeros => ?_
  obtain ⟨c, kept, rfl⟩ := List.mem_map.mp (fitting.mem_iff.mp mem)
  exact unsigned c (List.mem_filter.mp kept).1 zeros.1

/-- A chip of some name with so many pins. -/
def namedChip (name : String) (pins : Nat) (price : Option Double) : ChipSpec :=
  { chipOf pins with name, price }

/-- A catalog: too small, without a price, at one, at nothing, and the chip that fell short. -/
def smallCatalog : List ChipSpec :=
  [namedChip "narrow" 2 (some .zero), namedChip "plain" 4 none,
    namedChip "wide" 9 (Double.ofInt? 1), namedChip "free" 4 (some .zero), namedChip "chip" 3 none]

/-- Three pins are too few for the two displays. -/
theorem exists_overrun_twoDisplays : ∃ o, allocate (chipOf 3) twoDisplays = .error o := by
  have fails : (allocate (chipOf 3) twoDisplays).isOk = false := by decide +kernel
  cases allocated : allocate (chipOf 3) twoDisplays with
  | ok r =>
    rw [allocated] at fails
    cases fails
  | error o => exact ⟨o, rfl⟩

/-- When three pins are too few for the two displays, three chips of the catalog would do. -/
theorem suggest_after_overrun_smallCatalog :
    ∃ o, allocate (chipOf 3) twoDisplays = .error o ∧
      (suggest smallCatalog o.required "chip").Perm
        [⟨"plain", 4, none⟩, ⟨"wide", 9, Double.ofInt? 1⟩, ⟨"free", 4, some .zero⟩] ∧
      (suggest smallCatalog o.required "chip").Pairwise Suggestion.Precedes := by
  obtain ⟨o, short⟩ := exists_overrun_twoDisplays
  obtain ⟨fitting, -, sorted⟩ := suggest_after_overrun short smallCatalog
  have kept : (smallCatalog.filter fun c => c.name != (chipOf 3).name &&
      (allocate c twoDisplays).isOk).map Suggestion.ofChip =
        [⟨"plain", 4, none⟩, ⟨"wide", 9, Double.ofInt? 1⟩, ⟨"free", 4, some .zero⟩] := by
    decide +kernel
  rw [kept] at fitting
  exact ⟨o, short, fitting, sorted (by decide +kernel)⟩

/-- Two chips that cost nothing, one with a sign. -/
def freeChips : List ChipSpec :=
  [namedChip "b" 4 (some .negativeZero), namedChip "a" 4 (some .zero)]

/-- **Of two chips that cost nothing the one at negative zero comes first**, though the name of the
other does. -/
theorem suggest_zeros_by_sign :
    ∃ o, allocate (chipOf 3) twoDisplays = .error o ∧
      suggest freeChips o.required "chip" =
        [⟨"b", 4, some .negativeZero⟩, ⟨"a", 4, some .zero⟩] ∧
      Double.negativeZero.value = Double.zero.value ∧
      ¬ (suggest freeChips o.required "chip").Pairwise Suggestion.Precedes := by
  obtain ⟨o, short⟩ := exists_overrun_twoDisplays
  have four : o.required = 4 := required_of_allocate short
  have listed : suggest freeChips o.required "chip" =
      [⟨"b", 4, some .negativeZero⟩, ⟨"a", 4, some .zero⟩] := by
    rw [four]
    exact List.mergeSort_of_pairwise (by decide +kernel)
  refine ⟨o, short, listed, by decide +kernel, ?_⟩
  rw [listed]
  intro sorted
  rcases List.rel_of_pairwise_cons sorted List.mem_cons_self with less | ⟨-, name⟩
  · exact absurd less (by decide +kernel)
  · exact absurd name (by decide +kernel)

end DispatchTables
