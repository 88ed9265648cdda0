import DispatchTables.Pins.Allocation

/-!
# What bus uses are charged

How many pins some uses need, and for whom each pin is, can be said without any chip: the first use
of a bus is charged the pins that the bus shares and then its own, every other use its own.  Giving
out the pins of a chip is no more than writing these charges beside the pins, one by one, for as
long as there are pins.

## Main Definitions

* `opensBus`: whether a use is the first of its bus.
* `pinsNeeded`: how many pins some uses need.
* `Line`, `linesOf`: one pin's worth of a charge, and all of them in order.
* `Allocator.Wrote`: some lines have been written beside the pins of a chip.

## Main Statements

* `length_linesOf`: there are as many lines as pins are needed.
* `Allocator.Wrote.charge`, `Allocator.Wrote.useAll`: one charge writes its lines, and so do uses.
* `allocate_writes`: the pins of a chip suffice just when no more are needed, and what is given out,
  or where it falls short, is what the lines say.
-/

namespace DispatchTables

/-! ### The charges -/

/-- Whether a use that comes after others is the first of its bus. -/
def opensBus (before : List BusUse) (u : BusUse) : Bool := before.all fun v => v.bus != u.bus

/-- **The number of pins that uses need**, after some others: each its own, and the first of a bus
those that the bus shares. -/
def pinsNeeded (before : List BusUse) : List BusUse → Nat
  | [] => 0
  | u :: rest =>
    (if opensBus before u then u.sharedCount else 0) + u.uniqueCount +
      pinsNeeded (before ++ [u]) rest

/-- One pin's worth of a charge: for which bus and device, with what function, and whether the whole
bus shares it. -/
structure Line where
  bus : String
  device : String
  function : String
  shared : Bool
  deriving DecidableEq, Inhabited

/-- The line for each pin of a charge to a use. -/
def BusUse.lineFor (u : BusUse) (c : Charge) : Line :=
  ⟨u.bus, u.device, c.need.function, c.shared⟩

/-- The lines of one charge to a use. -/
def BusUse.linesFor (u : BusUse) (c : Charge) : List Line :=
  List.replicate c.need.count (u.lineFor c)

/-- What a use that comes after others is charged. -/
def BusUse.charges (before : List BusUse) (u : BusUse) : List Charge :=
  (if opensBus before u then u.shared.map (⟨·, true⟩) else []) ++ u.ownNeeds.map (⟨·, false⟩)

/-- The lines of a use that comes after others: those of the shared pins when it opens its bus, then
those of its own. -/
def BusUse.lines (before : List BusUse) (u : BusUse) : List Line :=
  (u.charges before).flatMap u.linesFor

/-- **The lines of uses**, after some others, in order. -/
def linesOf (before : List BusUse) : List BusUse → List Line
  | [] => []
  | u :: rest => u.lines before ++ linesOf (before ++ [u]) rest

/-- The assignment of a pin, the one of some index, to a line. -/
def Line.give (l : Line) (index : Nat) (p : ExposedPin) : PinAssignment :=
  ⟨index, p.name, l.bus, l.device, l.function, l.shared⟩

/-- Lines written beside pins, one by one, for as long as there are both. -/
def assign (pins : List ExposedPin) (lines : List Line) : List PinAssignment :=
  (pins.zip lines).mapIdx fun index beside => beside.2.give index beside.1

/-- The line that an assignment was made for. -/
def PinAssignment.line (a : PinAssignment) : Line := ⟨a.bus, a.device, a.function, a.shared⟩

/-! ### How many lines there are -/

theorem length_flatMap_linesFor (u : BusUse) (needs : List PinNeed) (shared : Bool) :
    ((needs.map (Charge.mk · shared)).flatMap u.linesFor).length = PinNeed.total needs := by
  induction needs with
  | nil => rfl
  | cons need rest ih =>
    rw [List.map_cons, List.flatMap_cons, List.length_append, ih, BusUse.linesFor,
      List.length_replicate, PinNeed.total]

theorem BusUse.length_lines (before : List BusUse) (u : BusUse) :
    (u.lines before).length =
      (if opensBus before u then u.sharedCount else 0) + u.uniqueCount := by
  rw [BusUse.lines, BusUse.charges, List.flatMap_append, List.length_append,
    length_flatMap_linesFor, BusUse.total_ownNeeds]
  split
  · rw [length_flatMap_linesFor, BusUse.sharedCount]
  · rfl

/-- **There are as many lines as pins are needed.** -/
theorem length_linesOf (before uses : List BusUse) :
    (linesOf before uses).length = pinsNeeded before uses := by
  induction uses generalizing before with
  | nil => rfl
  | cons u rest ih => rw [linesOf, List.length_append, BusUse.length_lines, ih, pinsNeeded]

/-- Every line is for the device of the use that it is a line of. -/
theorem device_of_mem_lines {before : List BusUse} {u : BusUse} {l : Line}
    (mem : l ∈ u.lines before) : l.device = u.device := by
  obtain ⟨c, -, written⟩ := List.mem_flatMap.mp mem
  rw [List.eq_of_mem_replicate written]
  rfl

/-- The line at some place is one of the use that the place falls to. -/
theorem exists_use_of_getElem?_linesOf {before uses : List BusUse} {place : Nat} {l : Line}
    (h : (linesOf before uses)[place]? = some l) :
    ∃ first u rest, uses = first ++ u :: rest ∧ pinsNeeded before first ≤ place ∧
      place < pinsNeeded before (first ++ [u]) ∧ l.device = u.device := by
  induction uses generalizing before place with
  | nil => cases h
  | cons u rest ih =>
    rw [linesOf] at h
    by_cases here : place < (u.lines before).length
    · rw [List.getElem?_append_left here] at h
      refine ⟨[], u, rest, rfl, Nat.zero_le _, ?_, device_of_mem_lines (List.mem_of_getElem? h)⟩
      rw [BusUse.length_lines] at here
      exact here
    · rw [List.getElem?_append_right (Nat.le_of_not_lt here)] at h
      obtain ⟨first, v, later, rfl, le, lt, device⟩ := ih h
      refine ⟨u :: first, v, later, rfl, ?_, ?_, device⟩ <;>
        simp only [List.cons_append, pinsNeeded, ← BusUse.length_lines] <;> omega

/-! ### Writing lines beside pins -/

/-- More lines go beside the pins that are left. -/
theorem zip_append {α β : Type} (pins : List α) (lines more : List β) :
    pins.zip (lines ++ more) = pins.zip lines ++ (pins.drop lines.length).zip more := by
  induction lines generalizing pins with
  | nil => simp
  | cons l rest ih =>
    cases pins with
    | nil => simp
    | cons p pins => simp [ih]

/-- One charge makes the assignments of its lines. -/
theorem assignFrom_take (u : BusUse) (c : Charge) (index count : Nat) (pins : List ExposedPin) :
    assignFrom u c index (pins.take count) =
      (pins.zip (List.replicate count (u.lineFor c))).mapIdx
        fun place beside => beside.2.give (place + index) beside.1 := by
  induction pins generalizing index count with
  | nil => simp [assignFrom]
  | cons p rest ih =>
    cases count with
    | zero => simp [assignFrom]
    | succ count =>
      rw [List.take_succ_cons, assignFrom, ih, List.replicate_succ, List.zip_cons_cons,
        List.mapIdx_cons]
      simp only [Nat.zero_add, Nat.add_assoc, Nat.add_comm 1 index]
      rfl

theorem assign_append (pins : List ExposedPin) (lines more : List Line)
    (enough : lines.length ≤ pins.length) :
    assign pins (lines ++ more) = assign pins lines ++
      ((pins.drop lines.length).zip more).mapIdx
        fun place beside => beside.2.give (place + lines.length) beside.1 := by
  rw [assign, zip_append, List.mapIdx_append, List.length_zip, Nat.min_eq_right enough]
  rfl

/-- Beside pins that have run out nothing is written. -/
theorem assign_append_of_lt (pins : List ExposedPin) (lines more : List Line)
    (beyond : pins.length < lines.length) : assign pins (lines ++ more) = assign pins lines := by
  rw [assign, zip_append, List.drop_eq_nil_of_le (Nat.le_of_lt beyond), List.zip_nil_left,
    List.append_nil]
  rfl

/-- The assignments are numbered, name the pins in order, and are for the lines. -/
theorem getElem?_assign {pins : List ExposedPin} {lines : List Line} {index : Nat}
    {a : PinAssignment} (h : (assign pins lines)[index]? = some a) :
    a.index = index ∧ pins[index]?.map (·.name) = some a.pin ∧ lines[index]? = some a.line := by
  rw [assign, List.getElem?_mapIdx, Option.map_eq_some_iff] at h
  obtain ⟨⟨p, l⟩, beside, rfl⟩ := h
  obtain ⟨pin, line⟩ := List.getElem?_zip_eq_some.mp beside
  exact ⟨rfl, by rw [pin]; rfl, line⟩

theorem length_assign {pins : List ExposedPin} {lines : List Line}
    (enough : lines.length ≤ pins.length) : (assign pins lines).length = lines.length := by
  rw [assign, List.length_mapIdx, List.length_zip, Nat.min_eq_right enough]

theorem line_assign {pins : List ExposedPin} {lines : List Line}
    (enough : lines.length ≤ pins.length) :
    (assign pins lines).map PinAssignment.line = lines := by
  refine List.ext_getElem? fun index => ?_
  rw [List.getElem?_map]
  cases written : (assign pins lines)[index]? with
  | some a => exact (getElem?_assign written).2.2.symm
  | none =>
    rw [List.getElem?_eq_none_iff, length_assign enough] at written
    exact (List.getElem?_eq_none written).symm

namespace Allocator

/-! ### Giving out pins -/

/-- **Some lines have been written beside the pins of a chip**: so many pins have been counted, the
rest is left, and the first line without a pin, if there is one, has been noted. -/
structure Wrote (pins : List ExposedPin) (lines : List Line) (a : Allocator) : Prop where
  left : a.left = pins.drop lines.length
  cursor : a.cursor = lines.length
  assignments : a.assignments = assign pins lines
  overflow : a.overflow = lines[pins.length]?.map fun l => (pins.length, l.device)

variable {pins : List ExposedPin} {lines : List Line} {a : Allocator} {chip : String}

/-- The first line without a pin, once more lines of one use have been written. -/
theorem overflow_append (lines : List Line) (available count : Nat) (l : Line) :
    (lines ++ List.replicate count l)[available]?.map (fun l => (available, l.device)) =
      if available - lines.length < count then
        (lines[available]?.map fun l => (available, l.device)).or (some (available, l.device))
      else lines[available]?.map fun l => (available, l.device) := by
  by_cases beyond : available < lines.length
  · -- a line without a pin is there already
    rw [List.getElem?_append_left beyond, List.getElem?_eq_getElem beyond]
    split <;> rfl
  · have none_ : lines[available]? = none := List.getElem?_eq_none (Nat.le_of_not_lt beyond)
    rw [List.getElem?_append_right (Nat.le_of_not_lt beyond), none_, List.getElem?_replicate]
    split <;> rfl

/-- **One charge writes its lines.** -/
theorem Wrote.charge (h : a.Wrote pins lines) (crowded : Bool) (u : BusUse) (c : Charge) :
    (a.charge chip crowded u c).Wrote pins (lines ++ u.linesFor c) := by
  have taken : (a.left.take c.need.count).length =
      min c.need.count (pins.length - lines.length) := by
    rw [h.left, List.length_take, List.length_drop]
  refine ⟨?_, ?_, ?_, ?_⟩
  · show a.left.drop c.need.count = _
    rw [h.left, List.drop_drop, BusUse.linesFor, List.length_append, List.length_replicate]
  · show a.cursor + c.need.count = _
    rw [h.cursor, BusUse.linesFor, List.length_append, List.length_replicate]
  · show a.assignments ++ assignFrom u c a.cursor (a.left.take c.need.count) = _
    rw [h.assignments, h.cursor, h.left, BusUse.linesFor]
    by_cases enough : lines.length ≤ pins.length
    · rw [assign_append pins lines _ enough, assignFrom_take]
    · have beyond : pins.length < lines.length := Nat.lt_of_not_le enough
      rw [assign_append_of_lt pins lines _ beyond, List.drop_eq_nil_of_le (Nat.le_of_lt beyond),
        List.take_nil, assignFrom, List.append_nil]
  · show (if (a.left.take c.need.count).length < c.need.count then
        a.overflow.or (some (a.cursor + (a.left.take c.need.count).length, u.device))
      else a.overflow) = _
    rw [taken, h.overflow, h.cursor, BusUse.linesFor, overflow_append]
    by_cases short : pins.length - lines.length < c.need.count
    · rw [if_pos (by omega), if_pos short, Nat.min_eq_right (Nat.le_of_lt short)]
      by_cases beyond : pins.length < lines.length
      · rw [List.getElem?_eq_getElem beyond]
        rfl
      · -- the pins end within this charge
        rw [Nat.add_sub_cancel' (Nat.le_of_not_lt beyond)]
        rfl
    · rw [if_neg (by omega), if_neg short]

theorem Wrote.foldl_charge (h : a.Wrote pins lines) (crowded : Bool) (u : BusUse)
    (charges : List Charge) :
    (charges.foldl (Allocator.charge chip crowded u) a).Wrote pins
        (lines ++ charges.flatMap u.linesFor) := by
  induction charges generalizing a lines with
  | nil => rwa [List.flatMap_nil, List.append_nil]
  | cons c rest ih =>
    rw [List.flatMap_cons, ← List.append_assoc]
    exact ih (h.charge crowded u c)

theorem foldl_charge_buses (crowded : Bool) (u : BusUse) (charges : List Charge) (a : Allocator) :
    (charges.foldl (Allocator.charge chip crowded u) a).buses = a.buses := by
  induction charges generalizing a with
  | nil => rfl
  | cons c rest ih => exact ih _

/-- The buses of some uses are noted. -/
def Knows (a : Allocator) (before : List BusUse) : Prop :=
  ∀ bus, bus ∈ a.buses ↔ bus ∈ before.map (·.bus)

theorem chargesOf_eq {before : List BusUse} (knows : a.Knows before) (u : BusUse) :
    a.chargesOf u = u.charges before := by
  have opens : a.buses.contains u.bus = !opensBus before u := by
    rw [Bool.eq_iff_iff, List.contains_iff_mem, knows u.bus, Bool.not_eq_true', opensBus,
      List.all_eq_false, List.mem_map]
    simp only [bne_iff_ne, ne_eq, Decidable.not_not]
  rw [chargesOf, BusUse.charges, opens]
  cases opensBus before u <;> rfl

theorem Wrote.use {before : List BusUse} (h : a.Wrote pins lines) (knows : a.Knows before)
    (all : List BusUse) (u : BusUse) :
    (a.use chip all u).Wrote pins (lines ++ u.lines before) ∧
      (a.use chip all u).Knows (before ++ [u]) := by
  have opened : Allocator.Wrote pins lines { a with buses := u.bus :: a.buses } :=
    ⟨h.left, h.cursor, h.assignments, h.overflow⟩
  unfold Allocator.use
  rw [chargesOf_eq knows]
  refine ⟨opened.foldl_charge _ u _, fun bus => ?_⟩
  rw [foldl_charge_buses, List.map_append, List.mem_append, ← knows bus, List.mem_cons, or_comm]
  exact or_congr_right List.mem_singleton.symm

/-- **Uses write their lines**, after those before them. -/
theorem Wrote.useAll {before : List BusUse} (h : a.Wrote pins lines) (knows : a.Knows before)
    (all uses : List BusUse) :
    (uses.foldl (Allocator.use chip all) a).Wrote pins (lines ++ linesOf before uses) := by
  induction uses generalizing a lines before with
  | nil => rwa [linesOf, List.append_nil]
  | cons u rest ih =>
    obtain ⟨here, known⟩ := h.use knows all u
    rw [linesOf, ← List.append_assoc]
    exact ih here known

end Allocator

/-! ### The report -/

/-- What is given out, or where it falls short, is what the lines of the uses say. -/
theorem allocate_eq_lines (chip : ChipSpec) (uses : List BusUse) :
    ∃ warnings, allocate chip uses = match (linesOf [] uses)[chip.exposedPins.length]? with
      | none => .ok ⟨chip.name, pinsNeeded [] uses, chip.exposedPins.length,
          assign chip.exposedPins (linesOf [] uses), warnings⟩
      | some l => .error ⟨chip.name, pinsNeeded [] uses, chip.exposedPins.length,
          chip.exposedPins.length, l.device⟩ := by
  have blank : Allocator.Wrote chip.exposedPins [] { left := chip.exposedPins } :=
    ⟨rfl, rfl, by rw [assign, List.zip_nil_right]; rfl, rfl⟩
  have noted : Allocator.Knows { left := chip.exposedPins } [] := fun _ => Iff.rfl
  have wrote : (uses.foldl (Allocator.use chip.name uses) { left := chip.exposedPins }).Wrote
      chip.exposedPins (linesOf [] uses) := blank.useAll noted uses uses
  refine ⟨(uses.foldl (Allocator.use chip.name uses) { left := chip.exposedPins }).warnings, ?_⟩
  unfold allocate
  simp only [wrote.overflow, wrote.cursor, wrote.assignments, length_linesOf]
  cases (linesOf [] uses)[chip.exposedPins.length]? <;> rfl

/-- **The pins of a chip suffice just when no more are needed than it has.**  Then all that are
needed are given out, in the chip's order, for what the lines say.  Else it is said how many would
be needed, and that the first one missing is for the use that is charged for it. -/
theorem allocate_writes (chip : ChipSpec) (uses : List BusUse) :
    ((∃ r, allocate chip uses = .ok r) ↔ pinsNeeded [] uses ≤ chip.exposedPins.length) ∧
    (∀ r, allocate chip uses = .ok r →
      r.cursor = pinsNeeded [] uses ∧ r.assignments.length = pinsNeeded [] uses ∧
      (∀ (index : Nat) (a : PinAssignment), r.assignments[index]? = some a →
        a.index = index ∧ chip.exposedPins[index]?.map (·.name) = some a.pin) ∧
      r.assignments.map PinAssignment.line = linesOf [] uses) ∧
    ∀ o, allocate chip uses = .error o →
      o.required = pinsNeeded [] uses ∧ o.offendingIndex = chip.exposedPins.length ∧
      ∃ before u rest, uses = before ++ u :: rest ∧
        pinsNeeded [] before ≤ o.offendingIndex ∧
        o.offendingIndex < pinsNeeded [] (before ++ [u]) ∧ o.component = u.device := by
  obtain ⟨warnings, eq⟩ := allocate_eq_lines chip uses
  rw [eq]
  cases beyond : (linesOf [] uses)[chip.exposedPins.length]? with
  | none =>
    have enough := List.getElem?_eq_none_iff.mp beyond
    refine ⟨⟨fun _ => length_linesOf [] uses ▸ enough, fun _ => ⟨_, rfl⟩⟩, ?_, nofun⟩
    rintro r ⟨⟩
    refine ⟨rfl, (length_assign enough).trans (length_linesOf [] uses), ?_, line_assign enough⟩
    intro index a written
    obtain ⟨number, pin, -⟩ := getElem?_assign written
    exact ⟨number, pin⟩
  | some l =>
    obtain ⟨short, -⟩ := List.getElem?_eq_some_iff.mp beyond
    rw [length_linesOf] at short
    refine ⟨⟨nofun, fun enough => absurd short (Nat.not_lt_of_le enough)⟩, nofun, ?_⟩
    rintro o ⟨⟩
    exact ⟨rfl, rfl, exists_use_of_getElem?_linesOf beyond⟩

/-- Two displays on one bus that shares two pins. -/
def twoDisplays : List BusUse :=
  ["left", "right"].map fun device =>
    ⟨device, some device, "spi", [⟨"clock", 1⟩, ⟨"data", 1⟩], [⟨"select", 1⟩]⟩

/-- A chip with so many pins. -/
def chipOf (pins : Nat) : ChipSpec :=
  ⟨"chip", (List.range pins).map fun n => ⟨"P" ++ Nat.repr n, [], true⟩, none⟩

/-- The displays need four pins: that many will do, and with three the last is for the second. -/
theorem allocate_writes_twoDisplays :
    (∃ r, allocate (chipOf 4) twoDisplays = .ok r ∧ r.cursor = 4 ∧
      r.assignments.map (fun a => (a.index, a.pin, a.device, a.shared)) =
        [(0, "P0", "left", true), (1, "P1", "left", true), (2, "P2", "left", false),
          (3, "P3", "right", false)] ∧
      r.assignments.map PinAssignment.line = linesOf [] twoDisplays) ∧
    ∃ o, allocate (chipOf 3) twoDisplays = .error o ∧ o.required = 4 ∧ o.offendingIndex = 3 ∧
      o.component = "right" := by
  constructor
  · obtain ⟨fits, given, -⟩ := allocate_writes (chipOf 4) twoDisplays
    obtain ⟨r, ok⟩ := fits.mpr (by decide)
    obtain ⟨cursor, -, -, lines⟩ := given r ok
    have written : ((allocate (chipOf 4) twoDisplays).toOption.map fun r =>
        r.assignments.map fun a => (a.index, a.pin, a.device, a.shared)) =
          some [(0, "P0", "left", true), (1, "P1", "left", true), (2, "P2", "left", false),
            (3, "P3", "right", false)] := by decide +kernel
    rw [ok] at written
    exact ⟨r, ok, cursor, Option.some.inj written, lines⟩
  · obtain ⟨fits, -, short⟩ := allocate_writes (chipOf 3) twoDisplays
    cases allocated : allocate (chipOf 3) twoDisplays with
    | ok r => exact absurd (fits.mp ⟨r, allocated⟩) (by decide)
    | error o =>
      obtain ⟨required, index, before, u, rest, split, -, -, device⟩ := short o allocated
      have component : (match allocate (chipOf 3) twoDisplays with
          | .ok _ => none
          | .error o => some o.component) = some "right" := by decide +kernel
      rw [allocated] at component
      exact ⟨o, rfl, required, index, Option.some.inj component⟩

end DispatchTables
