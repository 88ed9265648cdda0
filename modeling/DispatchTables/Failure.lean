import DispatchTables.Diagnostic
import DispatchTables.Files.Fault
import DispatchTables.Json.SyntaxError
import DispatchTables.Pins.Suggestion
import DispatchTables.Template.NativeType

/-!
# Failures

Every condition that stops a compilation, or makes one descriptor unusable, by its cause.

## Main Definitions

* `Failure`: the conditions.
* `Failure.message`, `Failure.code`, `Failure.hint`: what is said of them.
* `Failure.toDiagnostic`: the failure as a diagnostic.
-/

namespace DispatchTables

/-- Why the text of a file is no document. -/
inductive DocumentFault where
  | syntaxError (e : Json.SyntaxError)
  | notObject

/-- The words for a fault. -/
def DocumentFault.text : DocumentFault → String
  | syntaxError e => e.message
  | notObject => "top-level value is not an object"

/-- Why a document, or what is at hand, does not serve. -/
inductive ShapeFault where
  | mismatch (e : ShapeError)
  | chipAsBot
  | controllerNotChip
  | allowListNotNames
  | inputMissing (pass : String)
  | nestedTooDeeply

/-- The words for a fault. -/
def ShapeFault.text : ShapeFault → String
  | mismatch e => e.message
  | chipAsBot => "a chip spec cannot be compiled as a bot"
  | controllerNotChip => "controller is not a chip spec (no 'exposed_pins')"
  | allowListNotNames => "'allowed_components' must be a list of component names"
  | inputMissing pass => "pass '" ++ pass ++ "' ran before its input existed"
  | nestedTooDeeply => "components are nested too deeply"

/-- Why an entry of `use_fields` cannot be used. -/
inductive UseFieldFault where
  | directiveNotText
  | notIdentifier
  | rejected (reason : Rejection)
  deriving DecidableEq

/-- The words for a fault. -/
def UseFieldFault.text : UseFieldFault → String
  | directiveNotText => "directive values must be strings"
  | notIdentifier => "symbol is not a C identifier"
  | rejected reason => reason.text

/-- Why a file could not be used; a walk over a directory says where it failed. -/
inductive AccessFault where
  | plain (fault : FileFault)
  | walking (path : String) (fault : FileFault)
  deriving DecidableEq

/-- The words for a fault. -/
def AccessFault.text : AccessFault → String
  | plain fault => fault.text
  | walking path fault => "IO error for operation on " ++ path ++ ": " ++ fault.text

/-- A chip that has too few pins: how many were required, the first pin beyond the last and the
device it was for. -/
structure Overrun where
  chip : String
  required : Nat
  available : Nat
  offendingIndex : Nat
  component : String
  deriving DecidableEq, Inhabited

/-- What stops a compilation. -/
inductive Failure where
  | notFound (reference : String)
  | malformed (path : String) (fault : DocumentFault)
  | invalidReference (text : String)
  | missingField (descriptor field : String)
  | invalidShape (descriptor : String) (fault : ShapeFault)
  | duplicateRole (component role device : String)
  | missingRole (component role : String)
  | unknownDevice (component device : String)
  | unsupportedArgument (component device key : String) (reason : Rejection)
  | budgetExceeded (overrun : Overrun) (suggestions : List Suggestion)
  | useFieldMismatch (symbol : String) (declared found : NativeType) (first component : String)
  | unsupportedUseField (symbol component : String) (fault : UseFieldFault)
  | emptyTable (bot : String)
  | access (path : String) (fault : AccessFault)

namespace Failure

/-- What a failure says. -/
def message : Failure → String
  | notFound reference => "descriptor not found: '" ++ reference ++ "'"
  | malformed path fault => path ++ ": malformed JSON: " ++ fault.text
  | invalidReference text => "invalid component reference '" ++ text ++ "'"
  | missingField descriptor field =>
    "descriptor '" ++ descriptor ++ "' is missing required field '" ++ field ++ "'"
  | invalidShape descriptor fault =>
    "descriptor '" ++ descriptor ++ "' has an invalid shape: " ++ fault.text
  | duplicateRole component role device =>
    "template role '" ++ role ++ "' of '" ++ component ++ "' is claimed twice (by '" ++ device ++
      "')"
  | missingRole component role =>
    "component '" ++ component ++ "' requires template role '" ++ role ++
      "' but no argument satisfies it"
  | unknownDevice component device =>
    "'" ++ device ++ "' is not a template device declared by '" ++ component ++ "'"
  | unsupportedArgument component device key reason =>
    "template arg '" ++ key ++ "' of device '" ++ device ++ "' on '" ++ component ++
      "' is not supported: " ++ reason.text
  | budgetExceeded overrun _ =>
    "pin budget exceeded on '" ++ overrun.chip ++ "': " ++ Nat.repr overrun.required ++
      " pins required, " ++ Nat.repr overrun.available ++
      " exposed (first overflow at pin index " ++ Nat.repr overrun.offendingIndex ++
      ", component '" ++ overrun.component ++ "')"
  | useFieldMismatch symbol declared found first component =>
    "use_fields symbol '" ++ symbol ++ "' is declared as " ++ declared.describe ++ " by '" ++
      first ++ "' but '" ++ component ++ "' assigns " ++ found.describe
  | unsupportedUseField symbol component fault =>
    "use_fields entry '" ++ symbol ++ "' of '" ++ component ++ "' is not supported: " ++ fault.text
  | emptyTable bot => "no dispatch entries remain for '" ++ bot ++ "'"
  | access path fault => path ++ ": " ++ fault.text

/-- The code of a failure. -/
def code : Failure → Code
  | notFound .. => .notFound
  | malformed .. => .malformedJson
  | invalidReference .. => .invalidReference
  | missingField .. => .missingField
  | invalidShape .. => .invalidShape
  | duplicateRole .. => .duplicateRole
  | missingRole .. => .missingRole
  | unknownDevice .. => .unknownDevice
  | unsupportedArgument .. => .unsupportedArgument
  | budgetExceeded .. => .budgetExceeded
  | useFieldMismatch .. => .useFieldMismatch
  | unsupportedUseField .. => .unsupportedUseField
  | emptyTable .. => .emptyTable
  | access .. => .fileFault

/-- What to do about a failure, where there is something to do. -/
def hint : Failure → Option String
  | budgetExceeded _ [] => some "no known chip exposes enough pins"
  | budgetExceeded _ suggestions =>
    some ("alternative chips: " ++ ", ".intercalate (suggestions.map Suggestion.display))
  | missingField .. => some "every component descriptor must declare a unique \"name\""
  | duplicateRole _ role _ => some ("pass at most one device for role '" ++ role ++ "'")
  | missingRole _ role => some ("add a template argument naming a '" ++ role ++ "' device")
  | emptyTable _ => some "check the environment allow-list against the bot's components"
  | _ => none

/-- The failure as an error diagnostic. -/
def toDiagnostic (f : Failure) : Diagnostic :=
  ⟨.error, some f.code, none, f.message, f.hint, []⟩

end Failure

end DispatchTables
