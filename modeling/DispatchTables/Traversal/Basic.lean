import DispatchTables.Pins.BusUse
import DispatchTables.Template.Expansion

/-!
# Traversals

What a walk over the component graph of a bot yields: the rows of its dispatch tables, in order, and
the encounters of devices on buses, in order.

## Main Definitions

* `DispatchEntry`: one row of the tables.
* `Traversal`: all rows and encounters.
-/

namespace DispatchTables

/-- One row of the dispatch tables. -/
structure DispatchEntry where
  name : String
  initFunction : String
  actFunction : String
  hitCount : Nat
  source : String
  useFields : List (String × Json)
  config : Option Expansion
  deriving Inhabited

/-- What a walk yields. -/
structure Traversal where
  root : String
  controller : Option String
  entries : List DispatchEntry
  busUses : List BusUse
  deriving Inhabited

/-- The row as a value; members that hold nothing are left out. -/
def DispatchEntry.toJson (e : DispatchEntry) : Json :=
  .object ([("name", .string e.name), ("init_func", .string e.initFunction),
    ("act_func", .string e.actFunction), ("hit_count", Json.nat e.hitCount),
    ("source_descriptor", .string e.source)] ++
    (if e.useFields.isEmpty then [] else [("use_fields", .object e.useFields)]) ++
    (match e.config with
      | some config => [("config", config.toJson)]
      | none => []))

/-- The traversal as a value. -/
def Traversal.toJson (t : Traversal) : Json :=
  .object [("root", .string t.root), ("controller", Json.ofText? t.controller),
    ("entries", .array (t.entries.map DispatchEntry.toJson)),
    ("bus_uses", .array (t.busUses.map BusUse.toJson))]

end DispatchTables
