import DispatchTables.Json.Basic
import DispatchTables.Text.Blank
import DispatchTables.Text.Lowercase

/-!
# Kinds of descriptors

A descriptor is a bot, a part of one, a template, or a chip.  Its kind is what it says of itself,
else what it looks like, else the directory it is in.

## Main Definitions

* `Kind`: the six kinds.
* `Kind.ofWord?`: the kind that a word names.
* `Kind.detect`: the kind of a document under a key.
-/

namespace DispatchTables

/-- What a descriptor describes. -/
inductive Kind where
  | bot
  | subsystem
  | component
  | hardware
  | template
  | chipSpec
  deriving DecidableEq, Inhabited

namespace Kind

/-- The word for a kind. -/
def word : Kind → String
  | bot => "bot"
  | subsystem => "subsystem"
  | component => "component"
  | hardware => "hardware"
  | template => "template"
  | chipSpec => "chip_spec"

/-- A word as it is compared: without blanks around it, in small letters, with underscores. -/
def plainWord (text : String) : String :=
  String.ofList ((Text.lowercase (Text.trimBlank text)).toList.map fun c =>
    if c = '-' then '_' else c)

/-- The kind that a word names. -/
def ofWord? (text : String) : Option Kind :=
  match plainWord text with
  | "bot" | "bots" => some bot
  | "subsystem" | "subsystems" | "assembly" | "subsystem_assembly" => some subsystem
  | "component" | "components" => some component
  | "hardware" => some hardware
  | "template" | "templates" => some template
  | "chip" | "chip_spec" | "chips" | "controller" => some chipSpec
  | _ => none

/-- The kind that a directory is for. -/
def ofDirectory? : String → Option Kind
  | "bots" => some bot
  | "subsystems" | "assemblies" => some subsystem
  | "components" => some component
  | "hardware" => some hardware
  | "templates" => some template
  | "chips" | "controllers" => some chipSpec
  | _ => none

/-- The directories of a key, the nearest first. -/
def directories (key : String) : List String :=
  ((key.toList.splitOn '/').map String.ofList).reverse.drop 1

/-- The kind that a member names, if it is a text that names one. -/
def ofMember? (doc : Members) (member : String) : Option Kind := do
  ofWord? (← (← doc.get? member).asString?)

/-- The kind of a document: its `kind`, the pins of a chip, the nearest directory that is for a
kind, its `type`, the subsystems of a bot, and else a component. -/
def detect (key : String) (doc : Members) : Kind :=
  (ofMember? doc "kind").getD <|
    if doc.has "exposed_pins" then chipSpec
    else ((directories key).findSome? ofDirectory?).getD <|
      (ofMember? doc "type").getD <|
        if doc.has "subsystems" || doc.has "subsystem_assemblies" then bot else component

end Kind

end DispatchTables
