import DispatchTables.Failure
import DispatchTables.Pins.BusUse

/-!
# Pin allocation

The pins of a chip are given out in the order the chip lists them, to the bus uses in the order they
were met.  The first use of a bus pays for its shared pins and then for its own; later uses of the
bus pay only for their own.

## Main Definitions

* `PinAssignment`, `PinReport`: who got which pin.
* `Allocator`: the pins left and what has been given out.
* `allocate`: the report, or by how much the chip falls short.

## Design Notes

When the pins run out the count goes on, so that the shortfall is known in full; the first pin
missing and the device it was for are kept.
-/

namespace DispatchTables

/-- A pin given to a device for a function. -/
structure PinAssignment where
  index : Nat
  pin : String
  bus : String
  device : String
  function : String
  shared : Bool
  deriving DecidableEq, Inhabited

/-- How the pins of a chip were given out. -/
structure PinReport where
  chip : String
  cursor : Nat
  available : Nat
  assignments : List PinAssignment
  warnings : List Diagnostic
  deriving Inhabited

namespace PinAssignment

/-- The assignment as a value. -/
def toJson (a : PinAssignment) : Json :=
  .object [("index", Json.nat a.index), ("pin", .string a.pin), ("bus", .string a.bus),
    ("device", .string a.device), ("function", .string a.function), ("shared", .bool a.shared)]

end PinAssignment

/-- The report as a value, without its warnings. -/
def PinReport.toJson (r : PinReport) : Json :=
  .object [("chip", .string r.chip), ("cursor", Json.nat r.cursor),
    ("available", Json.nat r.available),
    ("assignments", .array (r.assignments.map PinAssignment.toJson))]

/-! ### Giving out pins -/

/-- The pins still there and the charges made so far. -/
structure Allocator where
  left : List ExposedPin
  cursor : Nat := 0
  buses : List String := []
  assignments : List PinAssignment := []
  warnings : List Diagnostic := []
  overflow : Option (Nat × String) := none

/-- A charge: some pins, shared by the bus or not. -/
structure Charge where
  need : PinNeed
  shared : Bool

/-- Equality of texts up to the case of ASCII letters. -/
def sameIgnoringCase (a b : String) : Bool :=
  a.toList.map Char.toLower == b.toList.map Char.toLower

/-- Whether a pin lists a function; a pin that lists none has all. -/
def ExposedPin.serves (p : ExposedPin) (function : String) : Bool :=
  function.isEmpty || p.functions.isEmpty || p.functions.any fun f => sameIgnoringCase f function

/-- What there is to say about a pin given out; `crowded` says that the bus has several uses. -/
def pinWarnings (chip : String) (crowded : Bool) (u : BusUse) (c : Charge) (p : ExposedPin) :
    List Diagnostic :=
  (if p.serves c.need.function then []
    else [.warn .pinLacksFunction u.device ("pin " ++ p.name ++ " does not list function '" ++
      c.need.function ++ "' needed by bus '" ++ u.bus ++ "'")]) ++
  (if c.shared && !p.canBeShared && crowded then
    [.warn .unsharedPin chip ("pin " ++ p.name ++ " carries shared bus '" ++ u.bus ++
      "' but is not marked can_be_shared")]
    else [])

/-- The assignments of consecutive pins, from a given index on. -/
def assignFrom (u : BusUse) (c : Charge) : Nat → List ExposedPin → List PinAssignment
  | _, [] => []
  | index, p :: rest =>
    ⟨index, p.name, u.bus, u.device, c.need.function, c.shared⟩ :: assignFrom u c (index + 1) rest

namespace Allocator

/-- Makes one charge: as many of the pins left as it asks for. -/
def charge (chip : String) (crowded : Bool) (u : BusUse) (a : Allocator) (c : Charge) : Allocator :=
  let taken := a.left.take c.need.count
  { a with
    left := a.left.drop c.need.count
    cursor := a.cursor + c.need.count
    assignments := a.assignments ++ assignFrom u c a.cursor taken
    warnings := a.warnings ++ taken.flatMap (pinWarnings chip crowded u c)
    overflow := if taken.length < c.need.count then
        a.overflow.or (some (a.cursor + taken.length, u.device))
      else a.overflow }

/-- The charges of a use: the shared pins when it is the first of its bus, then its own. -/
def chargesOf (a : Allocator) (u : BusUse) : List Charge :=
  (if a.buses.contains u.bus then [] else u.shared.map (⟨·, true⟩)) ++ u.ownNeeds.map (⟨·, false⟩)

/-- Makes the charges of a use. -/
def use (chip : String) (uses : List BusUse) (a : Allocator) (u : BusUse) : Allocator :=
  let crowded := decide (1 < (uses.filter fun v => v.bus == u.bus).length)
  (a.chargesOf u).foldl (charge chip crowded u) { a with buses := u.bus :: a.buses }

end Allocator

/-- Gives out the pins of a chip to bus uses. -/
def allocate (chip : ChipSpec) (uses : List BusUse) : Except Overrun PinReport :=
  let a := uses.foldl (Allocator.use chip.name uses) { left := chip.exposedPins }
  let available := chip.exposedPins.length
  match a.overflow with
  | some (index, device) => .error ⟨chip.name, a.cursor, available, index, device⟩
  | none => .ok ⟨chip.name, a.cursor, available, a.assignments, a.warnings⟩

end DispatchTables
