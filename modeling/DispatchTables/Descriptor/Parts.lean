import DispatchTables.Descriptor.Shape

/-!
# Parts of descriptors

The small records inside a descriptor: software hooks, timing, pin needs, template devices, the
edges to other components, and the pins of a chip.  Each is read from a value and can be written
back as one.
-/

namespace DispatchTables

/-! ### Software and timing -/

/-- The functions that a component brings along. -/
structure Software where
  initFunction : Option String := none
  actFunction : Option String := none
  deriving DecidableEq, Inhabited

namespace Software

/-- Puts in the function that is run once. -/
def setInit (s : Software) (v : Json) : Except ShapeError Software :=
  return { s with initFunction := ← Decoder.text.optional v }

/-- Puts in the function that is run each time. -/
def setAct (s : Software) (v : Json) : Except ShapeError Software :=
  return { s with actFunction := ← Decoder.text.optional v }

/-- Reads the hooks of a component. -/
def decode : Decoder Software :=
  Decoder.struct "Software"
    (fun s key v => match key with
      | "init_function" => s.setInit v
      | "act_function" => s.setAct v
      | _ => .ok s)
    [setInit, setAct] {}

/-- The hooks as a value. -/
def toJson (s : Software) : Json :=
  .object [("init_function", Json.ofText? s.initFunction),
    ("act_function", Json.ofText? s.actFunction)]

end Software

/-- How often a component is run. -/
structure Timing where
  hitCount : Nat
  deriving DecidableEq, Inhabited

namespace Timing

/-- A component that says nothing runs every time. -/
def defaultHitCount : Nat := 1

/-- Puts in the count. -/
def setCount (_ : Option Nat) (v : Json) : Except ShapeError (Option Nat) :=
  return some (← Decoder.word32 v)

/-- Reads the timing of a component.  The count has two spellings, of which one may be used. -/
def decode : Decoder Timing := fun v => do
  let count ← Decoder.struct "Timing"
    (fun count key v => match key with
      | "hitCount" | "hit_count" =>
        if count.isSome then .error (.duplicateField "hitCount") else setCount count v
      | _ => .ok count)
    [setCount] none v
  return ⟨count.getD defaultHitCount⟩

/-- The timing as a value. -/
def toJson (t : Timing) : Json := .object [("hitCount", Json.nat t.hitCount)]

end Timing

/-! ### Pins -/

/-- A number of pins with one function; an empty function is any. -/
structure PinNeed where
  function : String := ""
  count : Nat := 1
  deriving DecidableEq, Inhabited

namespace PinNeed

/-- Puts in the function. -/
def setFunction (n : PinNeed) (v : Json) : Except ShapeError PinNeed :=
  return { n with function := ← Decoder.text v }

/-- Puts in the number of pins. -/
def setCount (n : PinNeed) (v : Json) : Except ShapeError PinNeed :=
  return { n with count := ← Decoder.word32 v }

/-- Reads a need. -/
def decode : Decoder PinNeed :=
  Decoder.struct "PinNeed"
    (fun n key v => match key with
      | "function" => n.setFunction v
      | "count" => n.setCount v
      | _ => .ok n)
    [setFunction, setCount] {}

/-- The need as a value. -/
def toJson (n : PinNeed) : Json :=
  .object [("function", .string n.function), ("count", Json.nat n.count)]

end PinNeed

/-- The pins that a device needs: some shared by all devices of its bus, some of its own. -/
structure PinRequirements where
  shared : List PinNeed := []
  unique : List PinNeed := []
  deriving DecidableEq, Inhabited

namespace PinRequirements

/-- Puts in the pins shared by a bus. -/
def setShared (r : PinRequirements) (v : Json) : Except ShapeError PinRequirements :=
  return { r with shared := ← PinNeed.decode.list v }

/-- Puts in the pins of the device alone. -/
def setUnique (r : PinRequirements) (v : Json) : Except ShapeError PinRequirements :=
  return { r with unique := ← PinNeed.decode.list v }

/-- Reads the pins of a device. -/
def decode : Decoder PinRequirements :=
  Decoder.struct "PinRequirements"
    (fun r key v => match key with
      | "shared_pins_needed" => r.setShared v
      | "unique_pins_needed" => r.setUnique v
      | _ => .ok r)
    [setShared, setUnique] {}

/-- The pins as a value. -/
def toJson (r : PinRequirements) : Json :=
  .object [("shared_pins_needed", .array (r.shared.map PinNeed.toJson)),
    ("unique_pins_needed", .array (r.unique.map PinNeed.toJson))]

end PinRequirements

/-- A pin that a chip exposes. -/
structure ExposedPin where
  name : String
  functions : List String
  canBeShared : Bool
  deriving DecidableEq, Inhabited

namespace ExposedPin

/-- A pin of which the name may not be known yet. -/
structure Draft where
  name : Option String := none
  functions : List String := []
  canBeShared : Bool := false

/-- Puts in the name. -/
def Draft.setName (d : Draft) (v : Json) : Except ShapeError Draft :=
  return { d with name := some (← Decoder.text v) }

/-- Puts in the functions. -/
def Draft.setFunctions (d : Draft) (v : Json) : Except ShapeError Draft :=
  return { d with functions := ← Decoder.text.list v }

/-- Puts in whether the pin can be shared. -/
def Draft.setShared (d : Draft) (v : Json) : Except ShapeError Draft :=
  return { d with canBeShared := ← Decoder.bool v }

/-- Reads a pin, which must have a name. -/
def decode : Decoder ExposedPin := fun v => do
  let draft ← Decoder.struct "ExposedPin"
    (fun d key v => match key with
      | "name" => d.setName v
      | "functions" => d.setFunctions v
      | "can_be_shared" => d.setShared v
      | _ => .ok d)
    [Draft.setName, Draft.setFunctions, Draft.setShared] {} v
  match draft.name, v with
  | some name, _ => return ⟨name, draft.functions, draft.canBeShared⟩
  | none, .array _ => .error (.invalidLength 0 "struct ExposedPin with 3 elements")
  | none, _ => .error (.missingField "name")

/-- The pin as a value. -/
def toJson (p : ExposedPin) : Json :=
  .object [("name", .string p.name), ("functions", .array (p.functions.map Json.string)),
    ("can_be_shared", .bool p.canBeShared)]

end ExposedPin

/-! ### Templates -/

/-- A device that can fill a template role, with the arguments it brings. -/
structure TemplateDevice where
  args : List (String × Json) := []
  required : Bool := false
  deriving Inhabited

namespace TemplateDevice

/-- Puts in the arguments. -/
def setArgs (d : TemplateDevice) (v : Json) : Except ShapeError TemplateDevice :=
  return { d with args := ← Decoder.any.map v }

/-- Puts in whether the device must be chosen. -/
def setRequired (d : TemplateDevice) (v : Json) : Except ShapeError TemplateDevice :=
  return { d with required := ← Decoder.bool v }

/-- Reads a device. -/
def decode : Decoder TemplateDevice :=
  Decoder.struct "TemplateDevice"
    (fun d key v => match key with
      | "args" => d.setArgs v
      | "required" => d.setRequired v
      | _ => .ok d)
    [setArgs, setRequired] {}

/-- The device as a value. -/
def toJson (d : TemplateDevice) : Json :=
  .object [("args", .object d.args), ("required", .bool d.required)]

end TemplateDevice

/-- The devices on offer for each role, roles and devices in the order they are declared. -/
abbrev TemplateCatalog := List (String × List (String × TemplateDevice))

namespace TemplateCatalog

/-- Reads a catalog. -/
def decode : Decoder TemplateCatalog := (TemplateDevice.decode.map).map

/-- The catalog as a value. -/
def toJson (c : TemplateCatalog) : Json :=
  .object (c.map fun role => (role.1, .object (role.2.map fun d => (d.1, d.2.toJson))))

end TemplateCatalog

/-! ### Edges -/

/-- One item of a list of components. -/
inductive ComponentEdge where
  | reference (text : String)
  | positioned (component : String)
  | inline (doc : Members)
  deriving Inhabited

namespace ComponentEdge

/-- The names under which a positioned component is given. -/
def isComponentKey (key : String) : Bool :=
  key == "component" || key == "component_reference" || key == "ref"

/-- Reads an edge.  An object is positioned when exactly one of its members names a component by a
text, and a descriptor in place otherwise. -/
def decode : Decoder ComponentEdge
  | .string text => .ok (.reference text)
  | .object members =>
    match members.filter fun m => isComponentKey m.1 with
    | [(_, .string component)] => .ok (.positioned component)
    | _ => .ok (.inline members)
  | _ => .error (.noVariant "ComponentEdge")

/-- The edge as a value. -/
def toJson : ComponentEdge → Json
  | .reference text => .string text
  | .positioned component => .object [("component", .string component)]
  | .inline doc => .object doc

end ComponentEdge

end DispatchTables
