import DispatchTables.Environment
import DispatchTables.Proofs.Pins.Alternatives
import DispatchTables.Proofs.Traversal.Tale
import Mathlib.Algebra.BigOperators.Group.Finset.Piecewise
import Mathlib.Algebra.GroupWithZero.Nat
import Mathlib.Algebra.Order.BigOperators.Group.Finset

/-!
# The pins of a smaller build

An environment takes uses away and adds none, so one expects it to need no more pins.  Each use
charges its own pins, and these it takes with it when it goes.  The pins that a bus shares are
charged to whichever use of the bus comes first, by what *that* use declares, and when it goes the
next one pays by what it declares itself.  So the count is taken bus by bus: an environment may need
more pins on a bus whose first use it drops, if the use that is first then shares more of them than
the one before and what was dropped together.

## Main Definitions

* `requiredPins`: how many pins are required of a chip, whether it has them or not.
* `sharedOn`, `ownOn`: what the uses of one bus are charged, for all of them and each for itself.
* `AllowList.lost`: the bus uses that go with the rows that are dropped.

## Main Statements

* `pinsNeeded_eq_sum`: the pins needed, bus by bus.
* `requiredPins_filter`: when an environment requires no more pins, and a condition on each bus
  under which it fits wherever everything fits.
* `filtered_build_needs_more`: an environment may need more pins than there are where all fits.
-/

namespace DispatchTables

variable {before uses : List BusUse} {u : BusUse} {bus : String} {buses : Finset String}

/-! ### What a chip is asked for -/

/-- **How many pins are required** of a chip: those given out, or those there should have been. -/
def requiredPins (chip : ChipSpec) (uses : List BusUse) : Nat :=
  match allocate chip uses with
  | .ok report => report.cursor
  | .error overrun => overrun.required

theorem requiredPins_eq (chip : ChipSpec) (uses : List BusUse) :
    requiredPins chip uses = pinsNeeded [] uses := by
  obtain ⟨warnings, eq⟩ := allocate_eq_lines chip uses
  rw [requiredPins, eq]
  cases (linesOf [] uses)[chip.exposedPins.length]? <;> rfl

/-! ### Bus by bus -/

/-- What the first of some uses on a bus is charged for all of them. -/
def sharedOn (uses : List BusUse) (bus : String) : Nat :=
  ((uses.find? (·.bus == bus)).map BusUse.sharedCount).getD 0

/-- What the uses on a bus are charged, each for itself. -/
def ownOn (uses : List BusUse) (bus : String) : Nat :=
  ((uses.filter (·.bus == bus)).map BusUse.uniqueCount).sum

/-- The buses of some uses. -/
def busesOf (uses : List BusUse) : Finset String := (uses.map (·.bus)).toFinset

/-- What the uses on a bus are charged when they come after others. -/
def chargedOn (before uses : List BusUse) (bus : String) : Nat :=
  (if before.all (·.bus != bus) then sharedOn uses bus else 0) + ownOn uses bus

/-- One use is charged on its own bus, and no other bus knows of it. -/
theorem chargedOn_cons (before rest : List BusUse) (u : BusUse) (bus : String) :
    chargedOn before (u :: rest) bus =
      (if u.bus = bus then (if opensBus before u then u.sharedCount else 0) + u.uniqueCount else 0)
        + chargedOn (before ++ [u]) rest bus := by
  unfold chargedOn sharedOn ownOn
  rw [List.find?_cons, List.filter_cons, List.all_append]
  by_cases same : u.bus = bus
  · -- the bus is open after this use, so no later one pays for it
    subst same
    simp only [beq_self_eq_true, if_true, Option.map_some, Option.getD_some, List.map_cons,
      List.sum_cons, List.all_cons, bne_self_eq_false, Bool.false_and, Bool.and_false,
      Bool.false_eq_true, if_false, Nat.zero_add, Nat.add_assoc]
    rfl
  · have other : (u.bus == bus) = false := beq_eq_false_iff_ne.mpr same
    simp only [other, Bool.false_eq_true, if_false, same, Nat.zero_add, List.all_cons,
      List.all_nil, bne, Bool.not_false, Bool.and_true]

/-- **The pins needed, bus by bus**, after some other uses. -/
theorem pinsNeeded_eq_sum (before : List BusUse) (known : ∀ u ∈ uses, u.bus ∈ buses) :
    pinsNeeded before uses = ∑ bus ∈ buses, chargedOn before uses bus := by
  induction uses generalizing before with
  | nil =>
    refine (Finset.sum_eq_zero fun bus _ => ?_).symm
    unfold chargedOn sharedOn ownOn
    split <;> rfl
  | cons u rest ih =>
    obtain ⟨here, later⟩ := List.forall_mem_cons.mp known
    rw [Finset.sum_congr rfl fun bus _ => chargedOn_cons before rest u bus,
      Finset.sum_add_distrib, Finset.sum_ite_eq buses u.bus, if_pos here, ← ih _ later]
    rfl

theorem requiredPins_eq_sum (chip : ChipSpec) (known : ∀ u ∈ uses, u.bus ∈ buses) :
    requiredPins chip uses = ∑ bus ∈ buses, sharedOn uses bus + ∑ bus ∈ buses, ownOn uses bus := by
  rw [requiredPins_eq, pinsNeeded_eq_sum [] known, ← Finset.sum_add_distrib]
  rfl

theorem ownOn_append (uses more : List BusUse) (bus : String) :
    ownOn (uses ++ more) bus = ownOn uses bus + ownOn more bus := by
  unfold ownOn
  rw [List.filter_append, List.map_append, List.sum_append]

/-- What uses are charged each for itself is divided between those that stay and those that go. -/
theorem ownOn_filter_add (keeps : BusUse → Bool) (uses : List BusUse) (bus : String) :
    ownOn (uses.filter keeps) bus + ownOn (uses.filter fun u => !keeps u) bus = ownOn uses bus := by
  rw [← ownOn_append]
  exact (((List.filter_append_perm keeps uses).filter (·.bus == bus)).map BusUse.uniqueCount).sum_eq

/-! ### Environments -/

/-- The bus uses that go with the rows that are not allowed. -/
def AllowList.lost (allow : AllowList) (t : Traversal) : List BusUse :=
  t.busUses.filter fun u => !allow.keepsUse t u

/-- **When an environment requires no more pins.**  It is whenever the pins that its buses share are
no more than those shared before and those that the dropped uses needed for themselves.  So it is if
on each bus the first use that is kept shares no more pins than the first of all did and what is
dropped on that bus needed for itself; then whichever chip has the pins for everything has them for
what is kept. -/
theorem requiredPins_filter (chip : ChipSpec) (allow : AllowList) (t : Traversal) :
    (requiredPins chip (allow.filter t).busUses ≤ requiredPins chip t.busUses ↔
      ∑ bus ∈ busesOf t.busUses, sharedOn (allow.filter t).busUses bus ≤
        ∑ bus ∈ busesOf t.busUses, (sharedOn t.busUses bus + ownOn (allow.lost t) bus)) ∧
    ((∀ bus ∈ busesOf t.busUses, sharedOn (allow.filter t).busUses bus ≤
        sharedOn t.busUses bus + ownOn (allow.lost t) bus) →
      requiredPins chip (allow.filter t).busUses ≤ requiredPins chip t.busUses ∧
      ((allocate chip t.busUses).isOk = true →
        (allocate chip (allow.filter t).busUses).isOk = true)) := by
  have all : ∀ u ∈ t.busUses, u.bus ∈ busesOf t.busUses := fun u mem =>
    List.mem_toFinset.mpr (List.mem_map_of_mem mem)
  have kept : ∀ u ∈ (allow.filter t).busUses, u.bus ∈ busesOf t.busUses := fun u mem =>
    all u (List.mem_filter.mp mem).1
  have own : ∑ bus ∈ busesOf t.busUses, ownOn t.busUses bus =
      ∑ bus ∈ busesOf t.busUses, ownOn (allow.filter t).busUses bus +
        ∑ bus ∈ busesOf t.busUses, ownOn (allow.lost t) bus := by
    rw [← Finset.sum_add_distrib]
    exact Finset.sum_congr rfl fun bus _ =>
      (ownOn_filter_add (allow.keepsUse t) t.busUses bus).symm
  have exact_ : requiredPins chip (allow.filter t).busUses ≤ requiredPins chip t.busUses ↔
      ∑ bus ∈ busesOf t.busUses, sharedOn (allow.filter t).busUses bus ≤
        ∑ bus ∈ busesOf t.busUses, (sharedOn t.busUses bus + ownOn (allow.lost t) bus) := by
    rw [requiredPins_eq_sum chip kept, requiredPins_eq_sum chip all, own, Finset.sum_add_distrib]
    omega
  refine ⟨exact_, fun each => ?_⟩
  have fewer := exact_.mpr (Finset.sum_le_sum each)
  refine ⟨fewer, fun fits => ?_⟩
  rw [requiredPins_eq, requiredPins_eq] at fewer
  rw [isOk_allocate, decide_eq_true_eq] at fits ⊢
  exact fewer.trans fits

/-- A bot with two devices on one bus, the second of which shares more clock lines of it than the
first. -/
def unequalClocks : List (String × Members) :=
  let device (name : String) (lines : Nat) : String × Members :=
    (name, [("name", .string name), ("bus_type", .string "spi"),
      ("pin_requirements", .object [("shared_pins_needed",
        .array [.object [("function", .string "clock"), ("count", Json.nat lines)]])])])
  [("bot", [("name", .string "bot"), ("components", referenceList ["a", "b"])]),
    device "a" 1, device "b" 5]

/-- Without the second device fewer pins are needed, and two are enough. -/
theorem requiredPins_filter_unequalClocks : ∃ t c, walkOf unequalClocks = (.ok t, c) ∧
    requiredPins (chipOf 3) (AllowList.filter ⟨"a", ["a"]⟩ t).busUses ≤
      requiredPins (chipOf 3) t.busUses ∧
    (allocate (chipOf 3) (AllowList.filter ⟨"a", ["a"]⟩ t).busUses).isOk = true := by
  obtain ⟨t, c, walked⟩ := exists_of_isOk (x := walkOf unequalClocks) (by decide +kernel)
  have found : (walkOf unequalClocks).1.toOption.map (fun (t : Traversal) =>
      (decide (∀ bus ∈ busesOf t.busUses,
        sharedOn (AllowList.filter ⟨"a", ["a"]⟩ t).busUses bus ≤
          sharedOn t.busUses bus + ownOn (AllowList.lost ⟨"a", ["a"]⟩ t) bus),
        (allocate (chipOf 3) t.busUses).isOk)) = some (true, true) := by decide +kernel
  rw [walked] at found
  obtain ⟨each, fits⟩ := Prod.mk.inj (Option.some.inj found)
  obtain ⟨fewer, still⟩ :=
    (requiredPins_filter (chipOf 3) ⟨"a", ["a"]⟩ t).2 (of_decide_eq_true each)
  exact ⟨t, c, walked, fewer, still fits⟩

/-- **An environment may need more pins than there are where all fits.**  Both devices have three
pins: the one clock line that the first shares and a select line for each.  The second by itself
needs the five clock lines that it shares. -/
theorem filtered_build_needs_more : ∃ t c, walkOf unequalClocks = (.ok t, c) ∧
    requiredPins (chipOf 3) t.busUses = 3 ∧ (allocate (chipOf 3) t.busUses).isOk = true ∧
    requiredPins (chipOf 3) (AllowList.filter ⟨"b", ["b"]⟩ t).busUses = 6 ∧
    (allocate (chipOf 3) (AllowList.filter ⟨"b", ["b"]⟩ t).busUses).isOk = false := by
  obtain ⟨t, c, walked⟩ := exists_of_isOk (x := walkOf unequalClocks) (by decide +kernel)
  have counted : (walkOf unequalClocks).1.toOption.map (fun t =>
      (requiredPins (chipOf 3) t.busUses, (allocate (chipOf 3) t.busUses).isOk,
        requiredPins (chipOf 3) (AllowList.filter ⟨"b", ["b"]⟩ t).busUses,
        (allocate (chipOf 3) (AllowList.filter ⟨"b", ["b"]⟩ t).busUses).isOk)) =
      some (3, true, 6, false) := by decide +kernel
  rw [walked] at counted
  obtain ⟨three, fits, six, short⟩ := by
    simpa only [Except.toOption, Option.map_some, Option.some.injEq, Prod.mk.injEq] using counted
  exact ⟨t, c, walked, three, fits, six, short⟩

end DispatchTables
