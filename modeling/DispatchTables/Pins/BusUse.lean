import DispatchTables.Descriptor.Parts

/-!
# Bus uses

Each time a device is met on a bus, pins are charged: those shared by the whole bus, once, and those
of the device alone.

## Main Definitions

* `BusUse`: one encounter of a device on a bus.
* `PinNeed.total`: how many pins several needs ask for.
* `BusUse.sharedCount`, `BusUse.uniqueCount`: how many pins it charges.
-/

namespace DispatchTables

/-- One encounter of a device on a bus.  The owner is the dispatch entry it belongs to. -/
structure BusUse where
  device : String
  owner : Option String
  bus : String
  shared : List PinNeed
  unique : List PinNeed
  deriving DecidableEq, Inhabited

/-- The number of pins of several needs. -/
def PinNeed.total : List PinNeed → Nat
  | [] => 0
  | n :: rest => n.count + total rest

namespace BusUse

/-- The number of pins charged once for the bus. -/
def sharedCount (u : BusUse) : Nat := PinNeed.total u.shared

/-- What a device needs for itself; one select line when it says nothing. -/
def ownNeeds (u : BusUse) : List PinNeed := if u.unique.isEmpty then [⟨"", 1⟩] else u.unique

/-- The number of pins charged for the device. -/
def uniqueCount (u : BusUse) : Nat :=
  if u.unique.isEmpty then 1 else PinNeed.total u.unique

/-- The encounter as a value. -/
def toJson (u : BusUse) : Json :=
  .object [("device", .string u.device), ("owner", Json.ofText? u.owner), ("bus", .string u.bus),
    ("shared", .array (u.shared.map PinNeed.toJson)),
    ("unique", .array (u.unique.map PinNeed.toJson))]

theorem total_ownNeeds (u : BusUse) : PinNeed.total u.ownNeeds = u.uniqueCount := by
  unfold ownNeeds uniqueCount
  split <;> rfl

end BusUse

end DispatchTables
