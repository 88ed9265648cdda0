import DispatchTables.Pins.Allocation
import DispatchTables.Symbol

/-!
# Pin macros

The shared pins of a bus are known to the generated code by macros, named after the bus and the
function of the pin.  The other pins are listed in comments.

## Main Definitions

* `pinSymbol`: the macro that a shared pin asks for.
* `pinMacro`: the macro it gets, told apart from those of the pins before it.
* `pinLines`: the lines of a header for the pins of a report.
-/

namespace DispatchTables

/-- The name of a pin's function in its macro; a pin without a function goes by its index. -/
def pinFunctionSymbol (a : PinAssignment) : String :=
  if a.function.isEmpty then "PIN" ++ Nat.repr a.index else upperSymbol a.function

/-- The macro that a shared pin asks for: bus and function, the bus once if the function begins with
it. -/
def pinSymbol (a : PinAssignment) : String :=
  let bus := upperSymbol a.bus ++ "_"
  let function := pinFunctionSymbol a
  if bus.toList.isPrefixOf function.toList then function else bus ++ function

/-- A name as it is told apart from `count` equal ones before it: the first stays as it is, the
others are numbered. -/
def numberedName (name : String) (count : Nat) : String :=
  if count = 0 then name else name ++ "_" ++ Nat.repr count

/-- The number of shared pins in a list that ask for a macro. -/
def countAsking (symbol : String) (before : List PinAssignment) : Nat :=
  (before.filter fun b => b.shared && pinSymbol b == symbol).length

/-- The macro of a shared pin, given the pins before it. -/
def pinMacro (before : List PinAssignment) (a : PinAssignment) : String :=
  numberedName (pinSymbol a) (countAsking (pinSymbol a) before) ++ "_PIN"

/-- What the pin of a single device is for; a pin without a function selects the device. -/
def ownFunction (a : PinAssignment) : String :=
  if a.function.isEmpty then "select" else a.function

/-- The line for a pin, given the pins before it. -/
def pinLine (before : List PinAssignment) (a : PinAssignment) : String :=
  if a.shared then "#define " ++ pinMacro before a ++ " " ++ a.pin
  else "// " ++ a.device ++ " " ++ ownFunction a ++ ": " ++ a.pin

/-- The lines for pins, given the pins before them. -/
def pinLinesAfter (before : List PinAssignment) : List PinAssignment → List String
  | [] => []
  | a :: rest => pinLine before a :: pinLinesAfter (before ++ [a]) rest

/-- The lines for the pins of a report, in its order. -/
def pinLines (r : PinReport) : List String := pinLinesAfter [] r.assignments

end DispatchTables
