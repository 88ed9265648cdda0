import DispatchTables.Descriptor.Basic
import DispatchTables.Descriptor.Parts

/-!
# Records

What a resolved document says, as a typed record: a bot, another node of the component graph, or a
chip.

## Main Definitions

* `NodeRecord`, `BotRecord`, `ChipSpec`: the three records.
* `Record.ofDocument`: reads a document of a known kind.
-/

namespace DispatchTables

/-! ### Nodes -/

/-- What every node of the component graph may say. -/
structure NodeRecord where
  name : Option String := none
  components : List ComponentEdge := []
  positionedComponents : List ComponentEdge := []
  hardwareReference : Option String := none
  software : Option Software := none
  timing : Option Timing := none
  useFields : List (String × Json) := []
  templates : TemplateCatalog := []
  busType : Option String := none
  pinRequirements : Option PinRequirements := none
  deriving Inhabited

namespace NodeRecord

/-- The edges to the components of a node: the plain ones, then the positioned ones. -/
def childEdges (n : NodeRecord) : List ComponentEdge := n.components ++ n.positionedComponents

/-- How often the node is run. -/
def hitCount (n : NodeRecord) : Nat := (n.timing.map Timing.hitCount).getD Timing.defaultHitCount

/-- Puts in one member of a document. -/
def set (n : NodeRecord) (key : String) (v : Json) : Except ShapeError NodeRecord :=
  match key with
  | "components" => return { n with components := ← ComponentEdge.decode.list v }
  | "positioned_components" =>
    return { n with positionedComponents := ← ComponentEdge.decode.list v }
  | "hardware_reference" => return { n with hardwareReference := ← Decoder.text.optional v }
  | "software" => return { n with software := ← Software.decode.optional v }
  | "timing" => return { n with timing := ← Timing.decode.optional v }
  | "use_fields" => return { n with useFields := ← Decoder.any.map v }
  | "templates" => return { n with templates := ← TemplateCatalog.decode v }
  | "bus_type" => return { n with busType := ← Decoder.text.optional v }
  | "pin_requirements" => return { n with pinRequirements := ← PinRequirements.decode.optional v }
  | _ => .ok n

/-- Reads the members of a document; the name is the declared one. -/
def ofDocument (doc : Members) : Except ShapeError NodeRecord := do
  let node ← Decoder.fields set {} doc
  return { node with name := declaredName doc }

end NodeRecord

/-! ### Bots -/

/-- What a bot says. -/
structure BotRecord where
  node : NodeRecord
  subsystems : List ComponentEdge := []
  familyComponents : List ComponentEdge := []
  controller : Option String := none
  deriving Inhabited

namespace BotRecord

/-- The members that only a bot has. -/
structure Fields where
  assemblies : List ComponentEdge := []
  subsystems : List ComponentEdge := []
  familyComponents : List ComponentEdge := []
  controller : Option String := none

/-- Puts in one member of a document. -/
def Fields.set (f : Fields) (key : String) (v : Json) : Except ShapeError Fields :=
  match key with
  | "subsystem_assemblies" => return { f with assemblies := ← ComponentEdge.decode.list v }
  | "subsystems" => return { f with subsystems := ← ComponentEdge.decode.list v }
  | "family_components" => return { f with familyComponents := ← ComponentEdge.decode.list v }
  | "controller" => return { f with controller := ← Decoder.text.optional v }
  | _ => .ok f

/-- Reads a bot: what every node may say first, then what only a bot says. -/
def ofDocument (doc : Members) : Except ShapeError BotRecord := do
  let node ← NodeRecord.ofDocument doc
  let own ← Decoder.fields Fields.set {} doc
  return ⟨node, own.assemblies ++ own.subsystems, own.familyComponents, own.controller⟩

end BotRecord

/-! ### Chips -/

/-- What a chip has to offer. -/
structure ChipSpec where
  name : String
  exposedPins : List ExposedPin
  price : Option Double
  deriving DecidableEq, Inhabited

namespace ChipSpec

/-- The members of a chip; the pins may not be known yet. -/
structure Fields where
  exposedPins : Option (List ExposedPin) := none
  price : Option Double := none

/-- Puts in one member of a document. -/
def Fields.set (f : Fields) (key : String) (v : Json) : Except ShapeError Fields :=
  match key with
  | "exposed_pins" => return { f with exposedPins := some (← ExposedPin.decode.list v) }
  | "price" => return { f with price := ← Decoder.double.optional v }
  | _ => .ok f

/-- Reads a chip, which must list its pins; without a name it goes by its key. -/
def ofDocument (key : String) (doc : Members) : Except ShapeError ChipSpec := do
  let own ← Decoder.fields Fields.set {} doc
  match own.exposedPins with
  | some pins => return ⟨(declaredName doc).getD key, pins, own.price⟩
  | none => .error (.missingField "exposed_pins")

/-- The chip as a value. -/
def toJson (c : ChipSpec) : Json :=
  .object [("name", .string c.name), ("exposed_pins", .array (c.exposedPins.map ExposedPin.toJson)),
    ("price", match c.price with
      | some price => .number (.double price)
      | none => .null)]

end ChipSpec

/-! ### Records -/

/-- What a document says. -/
inductive Record where
  | bot (bot : BotRecord)
  | node (kind : Kind) (node : NodeRecord)
  | chip (chip : ChipSpec)
  deriving Inhabited

namespace Record

/-- Reads a document of a known kind; the key names a chip that gives itself no name. -/
def ofDocument (key : String) (kind : Kind) (doc : Members) : Except ShapeError Record :=
  match kind with
  | .chipSpec => return .chip (← ChipSpec.ofDocument key doc)
  | .bot => return .bot (← BotRecord.ofDocument doc)
  | kind => return .node kind (← NodeRecord.ofDocument doc)

/-- The node of a record that has one. -/
def node? : Record → Option NodeRecord
  | .bot b => some b.node
  | .node _ n => some n
  | .chip _ => none

end Record

end DispatchTables
