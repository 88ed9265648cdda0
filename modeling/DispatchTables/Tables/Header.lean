import DispatchTables.Tables.Basic
import DispatchTables.Tables.PinMacros

/-!
# The generated header

The header declares everything that the source defines: the size and the types of the tables, pin
macros, configuration records, variables, functions and the tables themselves.

## Main Definitions

* `headerLines`: the lines of the header, part by part.
-/

namespace DispatchTables

/-- The macro that keeps a header from being read twice. -/
def TableNames.guardSymbol (names : TableNames) : String := upperSymbol names.header

namespace TableInput

/-- The guard, the includes and the size of the tables. -/
def preambleLines (t : TableInput) : List String :=
  banner t.root t.provenance ++
  paragraph ["#ifndef " ++ t.names.guardSymbol, "#define " ++ t.names.guardSymbol] ++
  paragraph ["#include <stdbool.h>", "#include <stdint.h>"] ++
  paragraph ["#define DISPATCH_TABLE_SIZE " ++ Nat.repr t.rows.length]

/-- The types of the functions in the tables. -/
def typeLines : List String :=
  paragraph ["typedef void (*dispatch_init_fn)(void);", "typedef void (*dispatch_act_fn)(void);"]

/-- The pins, when some were given out. -/
def pinSection (t : TableInput) : List String :=
  match t.pins with
  | none => []
  | some report =>
    if report.assignments.isEmpty then []
    else paragraph (("// Pin assignments (chip: " ++ report.chip ++ ")") :: pinLines report)

/-- The declaration of a configuration record. -/
def configDeclaration (c : Expansion) : List String :=
  paragraph (["typedef struct \x7b"] ++
    (c.fields.map fun f => "    " ++ f.type.cType ++ " " ++ f.name ++ ";") ++
    ["\x7d " ++ c.structName ++ ";",
      "extern const " ++ c.structName ++ " " ++ c.instanceName ++ ";"])

/-- The declarations of the variables. -/
def variableDeclarations (t : TableInput) : List String :=
  optionalParagraph (t.useFields.declarations.map fun d =>
    "extern " ++ d.type.cType ++ " " ++ d.symbol ++ ";")

/-- The functions of the rows, each once, in the order they are named. -/
def functions (t : TableInput) : List String :=
  (t.rows.flatMap fun e => [e.initFunction, e.actFunction]).foldl
    (fun seen f => if seen.contains f then seen else seen ++ [f]) []

/-- The declarations of the functions. -/
def functionDeclarations (t : TableInput) : List String :=
  paragraph (t.functions.map fun f => "void " ++ f ++ "(void);")

/-- The declarations of the tables and of the function that makes the assignments. -/
def tableDeclarations : List String :=
  paragraph ["extern const dispatch_init_fn dispatch_init_table[DISPATCH_TABLE_SIZE];",
    "extern const dispatch_act_fn dispatch_act_table[DISPATCH_TABLE_SIZE];",
    "extern const uint32_t dispatch_hit_count_table[DISPATCH_TABLE_SIZE];"] ++
  paragraph ["void dispatch_apply_use_fields(void);"]

/-- The lines of the header. -/
def headerLines (t : TableInput) : List String :=
  t.preambleLines ++ typeLines ++ t.pinSection ++ t.configs.flatMap configDeclaration ++
    t.variableDeclarations ++ t.functionDeclarations ++ tableDeclarations ++
    ["#endif // " ++ t.names.guardSymbol]

end TableInput

end DispatchTables
