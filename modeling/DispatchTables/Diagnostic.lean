/-!
# Diagnostics

What a compilation has to say: errors and warnings, each with a stable code, the thing it is about,
the chain of causes that led there and advice.

## Main Definitions

* `Code`: the stable codes.
* `Diagnostic`: one message.
* `Diagnostic.display`: the message as shown.
-/

namespace DispatchTables

/-- The conditions that have a code of their own. -/
inductive Code where
  | notFound
  | malformedJson
  | invalidReference
  | missingField
  | invalidShape
  | duplicateRole
  | missingRole
  | unknownDevice
  | unsupportedArgument
  | budgetExceeded
  | useFieldMismatch
  | unsupportedUseField
  | emptyTable
  | fileFault
  | ambiguousReference
  | unresolvedTemplate
  | inheritanceCycle
  | malformedInheritance
  | componentCycle
  | componentSkipped
  | droppedEntry
  | pinLacksFunction
  | noController
  | unknownAllowed
  | unsharedPin
  | chipSkipped
  deriving DecidableEq, Inhabited

/-- The text of a code: a letter for its level and a number that is never given another meaning. -/
def Code.text : Code → String
  | notFound => "E0100"
  | malformedJson => "E0101"
  | invalidReference => "E0102"
  | missingField => "E0200"
  | invalidShape => "E0201"
  | duplicateRole => "E0300"
  | missingRole => "E0301"
  | unknownDevice => "E0302"
  | unsupportedArgument => "E0303"
  | budgetExceeded => "E0400"
  | useFieldMismatch => "E0500"
  | unsupportedUseField => "E0501"
  | emptyTable => "E0502"
  | fileFault => "E0900"
  | ambiguousReference => "W0100"
  | unresolvedTemplate => "W0200"
  | inheritanceCycle => "W0201"
  | malformedInheritance => "W0202"
  | componentCycle => "W0300"
  | componentSkipped => "W0301"
  | droppedEntry => "W0400"
  | pinLacksFunction => "W0401"
  | noController => "W0402"
  | unknownAllowed => "W0403"
  | unsharedPin => "W0404"
  | chipSkipped => "W0500"

/-- Whether a diagnostic stops the compilation. -/
inductive Level where
  | error
  | warning
  deriving DecidableEq, Inhabited

/-- The word for a level. -/
def Level.text : Level → String
  | error => "error"
  | warning => "warning"

/-- One link in the chain that led to a diagnostic. -/
structure Cause where
  message : String
  subject : Option String := none
  deriving DecidableEq, Inhabited

/-- One message of a compilation. -/
structure Diagnostic where
  level : Level
  code : Option Code := none
  subject : Option String := none
  message : String
  hint : Option String := none
  causes : List Cause := []
  deriving DecidableEq, Inhabited

namespace Diagnostic

/-- A warning about a subject. -/
def warn (code : Code) (subject message : String) : Diagnostic :=
  ⟨.warning, some code, some subject, message, none, []⟩

/-- The same with a cause added at the end of the chain. -/
def because (d : Diagnostic) (message : String) : Diagnostic :=
  { d with causes := d.causes ++ [⟨message, none⟩] }

/-- The same with advice. -/
def advise (d : Diagnostic) (hint : String) : Diagnostic := { d with hint := some hint }

/-- Whether the diagnostic is an error. -/
def isError (d : Diagnostic) : Bool := d.level == .error

/-- A text followed by a colon, if it is there. -/
def label : Option String → String
  | some text => text ++ ": "
  | none => ""

/-- The message as shown: level and code, subject, message, then a line for each cause and one for
the advice. -/
def display (d : Diagnostic) : String :=
  let code := match d.code with
    | some code => "[" ++ code.text ++ "]"
    | none => ""
  let causes := d.causes.map fun c => "\n  via " ++ label c.subject ++ c.message
  let hint := match d.hint with
    | some hint => "\n  hint: " ++ hint
    | none => ""
  d.level.text ++ code ++ ": " ++ label d.subject ++ d.message ++ String.join causes ++ hint

end Diagnostic

end DispatchTables
