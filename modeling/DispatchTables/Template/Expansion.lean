import DispatchTables.Failure
import DispatchTables.Reference
import DispatchTables.Symbol

/-!
# Template expansion

A component may declare roles and, for each, devices that can fill it.  The arguments of a
reference pick devices; each takes the first role that offers it and is still free.  What the chosen
devices bring along becomes a configuration record.

## Main Definitions

* `Expansion`: the claims and the fields of a configuration record.
* `claimRoles`: gives each argument its role.
* `configFields`: the fields that the claimed devices bring.
* `expand`: all of it, for one reference.
-/

namespace DispatchTables

/-- A role and the device that fills it. -/
structure RoleClaim where
  role : String
  device : String
  deriving DecidableEq, Inhabited

/-- A field of a configuration record. -/
structure ConfigField where
  name : String
  type : NativeType
  value : Json
  role : String
  deriving Inhabited

/-- A component made specific by template arguments. -/
structure Expansion where
  component : String
  structName : String
  instanceName : String
  claims : List RoleClaim
  fields : List ConfigField
  deriving Inhabited

namespace TemplateCatalog

/-- Whether a role has a device that must be chosen. -/
def isRequired (devices : List (String × TemplateDevice)) : Bool :=
  devices.any fun d => d.2.required

/-- Whether any role must be filled. -/
def hasRequiredRoles (catalog : TemplateCatalog) : Bool := catalog.any fun role => isRequired role.2

/-- The roles that offer a device, in declared order. -/
def offering (catalog : TemplateCatalog) (device : String) : List String :=
  (catalog.filter fun role => role.2.any fun d => d.1 == device).map (·.1)

/-- The device that a claim stands for. -/
def device? (catalog : TemplateCatalog) (claim : RoleClaim) : Option TemplateDevice := do
  (← catalog.lookup claim.role).lookup claim.device

end TemplateCatalog

/-! ### Claims -/

/-- Whether a role has been claimed. -/
def isClaimed (claims : List RoleClaim) (role : String) : Bool := claims.any fun c => c.role == role

/-- Gives each device the first role that offers it and has not been claimed, after the claims
already made. -/
def claimRoles (component : String) (catalog : TemplateCatalog) :
    List RoleClaim → List String → Except Failure (List RoleClaim)
  | claims, [] => .ok claims
  | claims, device :: rest =>
    match catalog.offering device with
    | [] => .error (.unknownDevice component device)
    | first :: more =>
      match (first :: more).find? fun role => !isClaimed claims role with
      | some role => claimRoles component catalog (claims ++ [⟨role, device⟩]) rest
      | none => .error (.duplicateRole component first device)

/-- The first role, in declared order, that must be filled and is not. -/
def unfilledRole? (catalog : TemplateCatalog) (claims : List RoleClaim) : Option String :=
  (catalog.find? fun role =>
    TemplateCatalog.isRequired role.2 && !isClaimed claims role.1).map (·.1)

/-! ### Fields -/

/-- The name of the field for an argument.  When a field has it already, the role goes in front. -/
def fieldName (fields : List ConfigField) (role argument : String) : String :=
  let name := cIdentifier argument
  if fields.any fun f => f.name == name then lowerSymbol role ++ "_" ++ name else name

/-- Adds the fields for the arguments of one claimed device. -/
def addArguments (component : String) (claim : RoleClaim) :
    List ConfigField → List (String × Json) → Except Failure (List ConfigField)
  | fields, [] => .ok fields
  | fields, (argument, value) :: rest =>
    match NativeType.of? value with
    | none =>
      .error (.unsupportedArgument component claim.device argument (NativeType.rejection value))
    | some type =>
      let field := ⟨fieldName fields claim.role argument, type, value, claim.role⟩
      addArguments component claim (fields ++ [field]) rest

/-- Adds the fields for the claimed devices, in the order of the claims. -/
def configFields (component : String) (catalog : TemplateCatalog) :
    List ConfigField → List RoleClaim → Except Failure (List ConfigField)
  | fields, [] => .ok fields
  | fields, claim :: rest => do
    let args := ((catalog.device? claim).map TemplateDevice.args).getD []
    configFields component catalog (← addArguments component claim fields args) rest

/-! ### Expansion -/

/-- The name of the record type: the component and its arguments in ascending order. -/
def structName (component : String) (reference : Reference) : String :=
  cIdentifier component ++
    String.join (reference.sortedArgs.map fun arg => "_" ++ cIdentifier arg) ++ "_config_t"

/-- The component made specific by the arguments of a reference. -/
def expand (component : String) (catalog : TemplateCatalog) (reference : Reference) :
    Except Failure Expansion := do
  let claims ← claimRoles component catalog [] reference.args
  match unfilledRole? catalog claims with
  | some role => .error (.missingRole component role)
  | none =>
    let fields ← configFields component catalog [] claims
    return {
      component
      structName := structName component reference
      instanceName := cIdentifier component ++ "_config"
      claims
      fields }

namespace Expansion

/-- The expansion as a value. -/
def toJson (e : Expansion) : Json :=
  .object [("component", .string e.component), ("struct_name", .string e.structName),
    ("instance_name", .string e.instanceName),
    ("claims", .array (e.claims.map fun c =>
      .object [("role", .string c.role), ("device", .string c.device)])),
    ("fields", .array (e.fields.map fun f =>
      .object [("name", .string f.name), ("ty", .string f.type.word), ("value", f.value),
        ("role", .string f.role)]))]

end Expansion

end DispatchTables
