import DispatchTables.Tables.Basic

/-!
# The generated source

The source defines what the header declares: preprocessor lines, variables, configuration records,
the three tables, which run in parallel, and the function that makes the assignments.

## Main Definitions

* `tableLines`: one table.
* `sourceLines`: the lines of the source, part by part.
-/

namespace DispatchTables.TableInput

/-- A value set by a component, with the component's name. -/
def setLine (f : UseField) : String :=
  f.symbol ++ " = " ++ cLiteral f.type f.value ++ "; // " ++ f.component

/-- The definitions of the variables. -/
def variableDefinitions (t : TableInput) : List String :=
  optionalParagraph (t.useFields.declarations.map fun d => d.type.cType ++ " " ++ setLine d)

/-- The definition of a configuration record. -/
def configDefinition (c : Expansion) : List String :=
  paragraph (["const " ++ c.structName ++ " " ++ c.instanceName ++ " = \x7b"] ++
    (c.fields.map fun f => "    ." ++ f.name ++ " = " ++ cLiteral f.type f.value ++ ",") ++
    ["\x7d;"])

/-- A table: its type, its name, and one line for each row. -/
def tableLines (type name : String) (line : DispatchEntry → String) (rows : List DispatchEntry) :
    List String :=
  paragraph (["const " ++ type ++ " " ++ name ++ "[DISPATCH_TABLE_SIZE] = \x7b"] ++
    (rows.map fun e => "    " ++ line e) ++ ["\x7d;"])

/-- The three tables. -/
def tableDefinitions (t : TableInput) : List String :=
  tableLines "dispatch_init_fn" "dispatch_init_table" (fun e => e.initFunction ++ ",") t.rows ++
  tableLines "dispatch_act_fn" "dispatch_act_table" (fun e => e.actFunction ++ ",") t.rows ++
  tableLines "uint32_t" "dispatch_hit_count_table"
    (fun e => Nat.repr e.hitCount ++ ", // " ++ e.name) t.rows

/-- The function that makes the assignments. -/
def assignmentFunction (t : TableInput) : List String :=
  ["void dispatch_apply_use_fields(void)", "\x7b"] ++
    (t.useFields.assignments.map fun a => "    " ++ setLine a) ++ ["\x7d"]

/-- The lines of the source. -/
def sourceLines (t : TableInput) : List String :=
  banner t.root none ++ paragraph ["#include \"" ++ t.names.header ++ "\""] ++
    optionalParagraph t.useFields.directives ++ t.variableDefinitions ++
    t.configs.flatMap configDefinition ++ t.tableDefinitions ++ t.assignmentFunction

end DispatchTables.TableInput
