import DispatchTables.Tables.Basic

/-!
# Invocations

What the arguments of the command say is to be done.

## Main Definitions

* `Product`: what the command can yield.
* `Invocation`: what is to be done.
* `Reply`: what is said when nothing is to be done.
* `Invocation.ofArguments`: reads arguments.

## Design Notes

Options may stand anywhere among the other arguments, with their value in the next argument or after
an equals sign.  After two dashes alone nothing is an option.

Arguments are read from left to right, and the first that asks for help or that is wrong ends the
reading: after an argument that is wrong nothing can be asked for, and what follows a call for help
does not matter.
-/

namespace DispatchTables

/-- What the command can yield: generated files, the rows of the tables, the pins, the bot after
inheritance, the problems of all descriptors, or what tables would be made from. -/
inductive Product where
  | tables
  | dispatch
  | pins
  | resolved
  | check
  | buildInfo
  deriving DecidableEq, Inhabited

namespace Product

/-- The product that a word names. -/
def ofWord? : String → Option Product
  | "tables" => some tables
  | "dispatch" => some dispatch
  | "pins" => some pins
  | "resolved" => some resolved
  | "check" => some check
  | "build-info" => some buildInfo
  | _ => none

/-- The title of a product. -/
def title : Product → String
  | tables => "Tables"
  | dispatch => "Dispatch"
  | pins => "Pins"
  | resolved => "Resolved"
  | check => "Check"
  | buildInfo => "BuildInfo"

end Product

/-- What is to be done. -/
structure Invocation where
  bot : String
  outputDirectory : Option String := none
  environment : Option String := none
  root : String := "."
  chip : Option String := none
  product : Product := .tables
  names : TableNames := {}
  verbose : Bool := false
  deriving DecidableEq, Inhabited

/-- Why arguments say nothing that can be done. -/
inductive UsageError where
  | unknownOption (text : String)
  | missingValue (option : String)
  | repeatedOption (option : String)
  | unknownProduct (text : String)
  | emptyPath (argument : String)
  | missingBot
  | tooMany (text : String)
  deriving DecidableEq

/-- The words for an error. -/
def UsageError.text : UsageError → String
  | unknownOption text => "there is no option '" ++ text ++ "'"
  | missingValue option => "option '" ++ option ++ "' needs a value"
  | repeatedOption option => "option '" ++ option ++ "' is given twice"
  | unknownProduct text => "there is nothing called '" ++ text ++ "' to emit"
  | emptyPath argument => "the path for '" ++ argument ++ "' is empty"
  | missingBot => "<bot_name> is required"
  | tooMany text => "there is no use for the argument '" ++ text ++ "'"

/-- What is said when nothing is to be done: how the command is used or which version it has, if the
arguments ask for that, or what is wrong with them. -/
inductive Reply where
  | help
  | version
  | misuse (e : UsageError)
  deriving DecidableEq

/-- Arguments, told apart. -/
structure Arguments where
  options : List (String × String) := []
  verbose : Bool := false
  plain : List String := []
  deriving DecidableEq, Inhabited

namespace Arguments

/-- The options that take a value. -/
def valued : List String :=
  ["--root", "--chip", "--emit", "--header-name", "--source-name", "--log-level"]

/-- Whether an argument is an option, or is written like one. -/
def isOption (text : String) : Bool := text.toList.head? == some '-' && text != "-"

/-- What an argument asks to be told about the command, if it does.  A letter may have others behind
it, which are not read. -/
def asks? (text : String) : Option Reply :=
  match text.toList with
  | '-' :: 'h' :: _ => some .help
  | '-' :: 'V' :: _ => some .version
  | _ =>
    if text = "--help" then some .help
    else if text = "--version" then some .version
    else none

/-- Adds an option with its value. -/
def setOption (a : Arguments) (option value : String) : Except Reply Arguments :=
  if !valued.contains option then .error (.misuse (.unknownOption option))
  else if (a.options.lookup option).isSome then .error (.misuse (.repeatedOption option))
  else if option = "--root" ∧ value = "" then .error (.misuse (.emptyPath option))
  else if option = "--emit" ∧ Product.ofWord? value = none then
    .error (.misuse (.unknownProduct value))
  else .ok { a with options := a.options ++ [(option, value)] }

/-- Adds an argument that is no option: the bot, the output directory and the environment, in
turn. -/
def addPlain (a : Arguments) (text : String) : Except Reply Arguments :=
  if 3 ≤ a.plain.length then .error (.misuse (.tooMany text))
  else if a.plain.length = 1 ∧ text = "" then .error (.misuse (.emptyPath "<output_dir>"))
  else .ok { a with plain := a.plain ++ [text] }

/-- An option and its value, written with an equals sign between them. -/
def splitOption? (text : String) : Option (String × String) :=
  match text.toList.dropWhile (· != '=') with
  | [] => none
  | _ :: value => some (String.ofList (text.toList.takeWhile (· != '=')), String.ofList value)

/-- Tells arguments apart, given those before. -/
def read : List String → Arguments → Except Reply Arguments
  | [], a => .ok a
  | "--" :: rest, a => rest.foldlM addPlain a
  | text :: rest, a =>
    match asks? text with
    | some reply => .error reply
    | none =>
      if text = "--verbose" then
        if a.verbose then .error (.misuse (.repeatedOption text))
        else read rest { a with verbose := true }
      else if isOption text then
        match splitOption? text, rest with
        | some (option, value), rest => do read rest (← a.setOption option value)
        | none, [] => .error (.misuse (.missingValue text))
        | none, value :: rest =>
          if isOption value then .error (.misuse (.missingValue text))
          else do read rest (← a.setOption text value)
      else do read rest (← a.addPlain text)

end Arguments

namespace Invocation

/-- What arguments, told apart, say is to be done; `defaultRoot` is the root when they name none. -/
def ofParts (a : Arguments) (defaultRoot : Option String) : Except Reply Invocation :=
  let root := (a.options.lookup "--root").or defaultRoot
  if root = some "" then .error (.misuse (.emptyPath "--root"))
  else match a.plain with
    | [] => .error (.misuse .missingBot)
    | bot :: more =>
      let default : Invocation := { bot }
      .ok { default with
        outputDirectory := more[0]?
        environment := more[1]?
        root := root.getD default.root
        chip := a.options.lookup "--chip"
        product := ((a.options.lookup "--emit").bind Product.ofWord?).getD default.product
        names := ⟨(a.options.lookup "--header-name").getD default.names.header,
          (a.options.lookup "--source-name").getD default.names.source⟩
        verbose := a.verbose }

/-- What arguments say is to be done. -/
def ofArguments (arguments : List String) (defaultRoot : Option String) :
    Except Reply Invocation := do
  ofParts (← Arguments.read arguments {}) defaultRoot

end Invocation

end DispatchTables
