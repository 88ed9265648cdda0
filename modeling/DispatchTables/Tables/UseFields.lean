import DispatchTables.Failure
import DispatchTables.Symbol
import DispatchTables.Traversal.Basic

/-!
# Use fields

Components may set variables of the generated code, and add preprocessor lines to it.  The first
component that sets a variable declares it; later ones assign to it, and must give it values that
its type takes.

## Main Definitions

* `UseFieldPlan`: lines, declarations and assignments.
* `UseFieldPlan.add`: what one entry of `use_fields` adds.
* `planUseFields`: the plan for the rows of a table.
-/

namespace DispatchTables

/-- A variable with the value that a component gives it. -/
structure UseField where
  symbol : String
  type : NativeType
  value : Json
  component : String
  deriving Inhabited

/-- What the `use_fields` of all rows come to. -/
structure UseFieldPlan where
  directives : List String := []
  declarations : List UseField := []
  assignments : List UseField := []
  deriving Inhabited

/-- One entry of the `use_fields` of a component. -/
structure UseFieldEntry where
  component : String
  key : String
  value : Json
  deriving Inhabited

/-- All entries, in the order of the rows. -/
def useFieldEntries (rows : List DispatchEntry) : List UseFieldEntry :=
  rows.flatMap fun row => row.useFields.map fun f => ⟨row.name, f.1, f.2⟩

/-- What stands on both sides of the number in the key of a preprocessor line. -/
def directiveMark : List Char := ['#', '#', '#']

/-- Whether a key marks a preprocessor line: a number between two marks. -/
def isDirectiveKey (key : String) : Bool :=
  let cs := key.toList
  let between := (cs.drop directiveMark.length).take (cs.length - 2 * directiveMark.length)
  directiveMark.isPrefixOf cs && directiveMark.isSuffixOf cs && !between.isEmpty &&
    between.all Char.isDigit

namespace UseFieldPlan

/-- The declaration of a symbol. -/
def declaration? (plan : UseFieldPlan) (symbol : String) : Option UseField :=
  plan.declarations.find? fun d => d.symbol == symbol

/-- Adds a preprocessor line, which stands in the code once. -/
def addDirective (plan : UseFieldPlan) (line : String) : UseFieldPlan :=
  if plan.directives.contains line then plan
  else { plan with directives := plan.directives ++ [line] }

/-- Adds a variable of a known type: declares it, or assigns to it. -/
def addVariable (plan : UseFieldPlan) (e : UseFieldEntry) (type : NativeType) :
    Except Failure UseFieldPlan :=
  match plan.declaration? e.key with
  | none =>
    .ok { plan with
      declarations := plan.declarations ++ [⟨e.key, type, e.value, e.component⟩] }
  | some first =>
    if first.type.accepts type then
      .ok { plan with
        assignments := plan.assignments ++ [⟨e.key, first.type, e.value, e.component⟩] }
    else .error (.useFieldMismatch e.key first.type type first.component e.component)

/-- Adds one entry. -/
def add (plan : UseFieldPlan) (e : UseFieldEntry) : Except Failure UseFieldPlan :=
  if isDirectiveKey e.key then
    match e.value.asString? with
    | some line => .ok (plan.addDirective line)
    | none => .error (.unsupportedUseField e.key e.component .directiveNotText)
  else if isCIdentifier e.key then
    match NativeType.of? e.value with
    | some type => plan.addVariable e type
    | none =>
      .error (.unsupportedUseField e.key e.component (.rejected (NativeType.rejection e.value)))
  else .error (.unsupportedUseField e.key e.component .notIdentifier)

end UseFieldPlan

/-- The plan for the rows of a table; the first entry that does not fit is the failure. -/
def planUseFields (rows : List DispatchEntry) : Except Failure UseFieldPlan :=
  (useFieldEntries rows).foldlM UseFieldPlan.add {}

end DispatchTables
