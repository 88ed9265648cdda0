import DispatchTables.Proofs.Tables.UseFields
import DispatchTables.Proofs.Template.Names
import DispatchTables.Proofs.Traversal.Origins
import DispatchTables.Tables.Generation

/-!
# Names in generated code

Generated code is made of text that is always the same, of values and comments, and of names that
stand where C asks for identifiers.  Told apart in pieces, the code is the same line by line, and
its names can be listed.  Each has been made an identifier or checked to be one, but for the
functions that documents declare, which are taken as they are written.

Names have their places in prototypes and tables of functions, in the types, records and fields of
configurations, in variables, in the macros of pins and in the guard of the header.  What is the
same in every file (the names of the tables, the types of values) is text here, and so are comments
and the lines that use fields put in as directives.

Which names there are is said for an arbitrary property of names.  The theorem about them uses it
twice, once for being an identifier and once for being one or declared.

## Main Definitions

* `Piece`, `Pieces`: lines of code in which the names are told apart.
* `TableInput.headerPieces`, `TableInput.sourcePieces`: the generated files in pieces.
* `Trail.declared`: the functions that the documents of a traversal declare.

## Main Statements

* `lines_headerPieces`, `lines_sourcePieces`: the pieces are the files.
* `names_valid_iff`: the names are identifiers if the declared functions are.
* `declared_name_invalid`: a declared function may be none.
-/

namespace DispatchTables

/-! ### Pieces in pieces -/

/-- A piece of a line: text, or a name in the place of an identifier. -/
inductive Piece where
  | plain (text : String)
  | name (name : String)

namespace Piece

/-- The text of a piece. -/
def text : Piece → String
  | plain t => t
  | name n => n

/-- The name in a piece. -/
def name? : Piece → Option String
  | plain _ => none
  | name n => some n

@[simp] theorem filterMap_plain (text : String) (line : List Piece) :
    (plain text :: line).filterMap name? = line.filterMap name? := rfl

@[simp] theorem filterMap_name (name : String) (line : List Piece) :
    (Piece.name name :: line).filterMap name? = name :: line.filterMap name? := rfl

end Piece

/-- Lines of code in pieces. -/
abbrev Pieces := List (List Piece)

namespace Pieces

/-- The lines as they are written. -/
def lines (code : Pieces) : List String := code.map fun line => String.join (line.map Piece.text)

/-- The names, in order. -/
def names (code : Pieces) : List String := code.flatMap fun line => line.filterMap Piece.name?

/-- Lines without names. -/
def plain (lines : List String) : Pieces := lines.map fun line => [.plain line]

/-- Lines with an empty one after them. -/
def paragraph (code : Pieces) : Pieces := code ++ [[]]

/-- Lines with an empty one after them, or nothing at all. -/
def optionalParagraph (code : Pieces) : Pieces := if code.isEmpty then [] else code.paragraph

@[simp] theorem lines_nil : lines [] = [] := rfl

@[simp] theorem lines_cons (line : List Piece) (code : Pieces) :
    lines (line :: code) = String.join (line.map Piece.text) :: lines code := rfl

@[simp] theorem lines_append (code more : Pieces) :
    lines (code ++ more) = lines code ++ lines more :=
  List.map_append

@[simp] theorem lines_plain (text : List String) : lines (plain text) = text := by
  simp [lines, plain, Function.comp_def, Piece.text]

@[simp] theorem lines_paragraph (code : Pieces) :
    lines code.paragraph = DispatchTables.paragraph (lines code) := by
  simp [paragraph, DispatchTables.paragraph]

@[simp] theorem lines_optionalParagraph (code : Pieces) :
    lines code.optionalParagraph = DispatchTables.optionalParagraph (lines code) := by
  unfold optionalParagraph DispatchTables.optionalParagraph
  cases code <;> simp

theorem lines_map {α : Type} (line : α → List Piece) (xs : List α) :
    lines (xs.map line) = xs.map fun x => String.join ((line x).map Piece.text) := by
  simp [lines]

theorem lines_flatMap {α : Type} (code : α → Pieces) (xs : List α) :
    lines (xs.flatMap code) = xs.flatMap fun x => lines (code x) := by
  simp [lines, List.map_flatMap]

/-- All names have some property. -/
def NamesAre (p : String → Prop) (code : Pieces) : Prop := ∀ name ∈ names code, p name

variable {p : String → Prop}

@[simp] theorem namesAre_nil : NamesAre p [] := by simp [NamesAre, names]

@[simp] theorem namesAre_cons (line : List Piece) (code : Pieces) :
    NamesAre p (line :: code) ↔
      (∀ name ∈ line.filterMap Piece.name?, p name) ∧ NamesAre p code := by
  rw [NamesAre, names, List.flatMap_cons, List.forall_mem_append]
  rfl

@[simp] theorem namesAre_append (code more : Pieces) :
    NamesAre p (code ++ more) ↔ NamesAre p code ∧ NamesAre p more := by
  rw [NamesAre, names, List.flatMap_append, List.forall_mem_append]
  rfl

@[simp] theorem namesAre_plain (text : List String) : NamesAre p (plain text) := by
  simp [NamesAre, names, plain, List.flatMap_map, Piece.name?]

@[simp] theorem namesAre_paragraph (code : Pieces) :
    NamesAre p code.paragraph ↔ NamesAre p code := by
  simp [paragraph]

@[simp] theorem namesAre_optionalParagraph (code : Pieces) :
    NamesAre p code.optionalParagraph ↔ NamesAre p code := by
  unfold optionalParagraph
  cases code <;> simp

theorem namesAre_map {α : Type} (line : α → List Piece) (xs : List α) :
    NamesAre p (xs.map line) ↔ ∀ x ∈ xs, ∀ name ∈ (line x).filterMap Piece.name?, p name := by
  induction xs with
  | nil => simp
  | cons x rest ih => rw [List.map_cons, namesAre_cons, ih, List.forall_mem_cons]

theorem namesAre_flatMap {α : Type} (code : α → Pieces) (xs : List α) :
    NamesAre p (xs.flatMap code) ↔ ∀ x ∈ xs, NamesAre p (code x) := by
  induction xs with
  | nil => simp
  | cons x rest ih => rw [List.flatMap_cons, namesAre_append, ih, List.forall_mem_cons]

end Pieces

/-! ### The files in pieces -/

/-- The line for a pin. -/
def pinPieces (before : List PinAssignment) (a : PinAssignment) : List Piece :=
  if a.shared then [.plain "#define ", .name (pinMacro before a), .plain " ", .plain a.pin]
  else [.plain (pinLine before a)]

/-- The lines for pins, given the pins before them. -/
def pinPiecesAfter (before : List PinAssignment) : List PinAssignment → Pieces
  | [] => []
  | a :: rest => pinPieces before a :: pinPiecesAfter (before ++ [a]) rest

theorem lines_pinPiecesAfter (before assignments : List PinAssignment) :
    Pieces.lines (pinPiecesAfter before assignments) = pinLinesAfter before assignments := by
  induction assignments generalizing before with
  | nil => rfl
  | cons a rest ih =>
    have line : String.join ((pinPieces before a).map Piece.text) = pinLine before a := by
      unfold pinPieces pinLine
      split <;> simp [Piece.text, String.append_assoc]
    rw [pinPiecesAfter, Pieces.lines_cons, line, ih]
    rfl

namespace TableInput

/-- The pins, when some were given out. -/
def pinParagraph (t : TableInput) : Pieces :=
  match t.pins with
  | none => []
  | some report =>
    if report.assignments.isEmpty then []
    else Pieces.paragraph (Pieces.plain ["// Pin assignments (chip: " ++ report.chip ++ ")"] ++
      pinPiecesAfter [] report.assignments)

/-- The declaration of a configuration record. -/
def recordDeclaration (x : Expansion) : Pieces :=
  Pieces.paragraph (Pieces.plain ["typedef struct \x7b"] ++
    (x.fields.map fun f => [.plain "    ", .plain f.type.cType, .plain " ", .name f.name,
      .plain ";"]) ++
    [[.plain "\x7d ", .name x.structName, .plain ";"],
      [.plain "extern const ", .name x.structName, .plain " ", .name x.instanceName, .plain ";"]])

/-- The definition of a configuration record. -/
def recordDefinition (x : Expansion) : Pieces :=
  Pieces.paragraph ([[.plain "const ", .name x.structName, .plain " ", .name x.instanceName,
      .plain " = \x7b"]] ++
    (x.fields.map fun f => [.plain "    .", .name f.name, .plain " = ",
      .plain (cLiteral f.type f.value), .plain ","]) ++ Pieces.plain ["\x7d;"])

/-- A value set by a component. -/
def setPieces (f : UseField) : List Piece :=
  [.name f.symbol, .plain " = ", .plain (cLiteral f.type f.value), .plain "; // ",
    .plain f.component]

/-- A table of functions. -/
def functionTable (type name : String) (function : DispatchEntry → String)
    (rows : List DispatchEntry) : Pieces :=
  Pieces.paragraph (
    Pieces.plain ["const " ++ type ++ " " ++ name ++ "[DISPATCH_TABLE_SIZE] = \x7b"] ++
    (rows.map fun e => [.plain "    ", .name (function e), .plain ","]) ++ Pieces.plain ["\x7d;"])

/-- **The header in pieces.** -/
def headerPieces (t : TableInput) : Pieces :=
  Pieces.plain (banner t.root t.provenance) ++
  Pieces.paragraph [[.plain "#ifndef ", .name t.names.guardSymbol],
    [.plain "#define ", .name t.names.guardSymbol]] ++
  Pieces.plain (DispatchTables.paragraph ["#include <stdbool.h>", "#include <stdint.h>"] ++
    DispatchTables.paragraph ["#define DISPATCH_TABLE_SIZE " ++ Nat.repr t.rows.length] ++
    typeLines) ++
  t.pinParagraph ++ t.configs.flatMap recordDeclaration ++
  Pieces.optionalParagraph (t.useFields.declarations.map fun d =>
    [.plain "extern ", .plain d.type.cType, .plain " ", .name d.symbol, .plain ";"]) ++
  Pieces.paragraph (t.functions.map fun f => [.plain "void ", .name f, .plain "(void);"]) ++
  Pieces.plain tableDeclarations ++ [[.plain "#endif // ", .name t.names.guardSymbol]]

/-- **The source in pieces.** -/
def sourcePieces (t : TableInput) : Pieces :=
  Pieces.plain (banner t.root none ++
    DispatchTables.paragraph ["#include \"" ++ t.names.header ++ "\""] ++
    DispatchTables.optionalParagraph t.useFields.directives) ++
  Pieces.optionalParagraph (t.useFields.declarations.map fun d =>
    [.plain d.type.cType, .plain " "] ++ setPieces d) ++
  t.configs.flatMap recordDefinition ++
  functionTable "dispatch_init_fn" "dispatch_init_table" (·.initFunction) t.rows ++
  functionTable "dispatch_act_fn" "dispatch_act_table" (·.actFunction) t.rows ++
  Pieces.plain (tableLines "uint32_t" "dispatch_hit_count_table"
    (fun e => Nat.repr e.hitCount ++ ", // " ++ e.name) t.rows) ++
  Pieces.plain ["void dispatch_apply_use_fields(void)", "\x7b"] ++
  (t.useFields.assignments.map fun a => .plain "    " :: setPieces a) ++ Pieces.plain ["\x7d"]

theorem lines_recordDeclaration (x : Expansion) :
    Pieces.lines (recordDeclaration x) = configDeclaration x := by
  simp [recordDeclaration, configDeclaration, Pieces.lines_map, Piece.text, String.append_assoc]

theorem lines_recordDefinition (x : Expansion) :
    Pieces.lines (recordDefinition x) = configDefinition x := by
  simp [recordDefinition, configDefinition, Pieces.lines_map, Piece.text, String.append_assoc]

theorem join_setPieces (f : UseField) :
    String.join ((setPieces f).map Piece.text) = setLine f := by
  simp [setPieces, setLine, Piece.text, String.append_assoc]

theorem lines_functionTable (type name : String) (function : DispatchEntry → String)
    (rows : List DispatchEntry) :
    Pieces.lines (functionTable type name function rows) =
      tableLines type name (fun e => function e ++ ",") rows := by
  simp [functionTable, tableLines, Pieces.lines_map, Piece.text, String.append_assoc]

theorem lines_pinParagraph (t : TableInput) : Pieces.lines t.pinParagraph = t.pinSection := by
  unfold pinParagraph pinSection
  cases t.pins with
  | none => rfl
  | some report =>
    dsimp only
    split
    · rfl
    · rw [Pieces.lines_paragraph, Pieces.lines_append, Pieces.lines_plain, lines_pinPiecesAfter]
      rfl

/-- **The pieces of the header are the header.** -/
theorem lines_headerPieces (t : TableInput) : Pieces.lines t.headerPieces = t.headerLines := by
  simp [headerPieces, headerLines, preambleLines, variableDeclarations, functionDeclarations,
    lines_pinParagraph, lines_recordDeclaration, Pieces.lines_map, Pieces.lines_flatMap, Piece.text,
    String.append_assoc]

/-- **The pieces of the source are the source.** -/
theorem lines_sourcePieces (t : TableInput) : Pieces.lines t.sourcePieces = t.sourceLines := by
  simp [sourcePieces, sourceLines, variableDefinitions, tableDefinitions, assignmentFunction,
    lines_functionTable, lines_recordDefinition, Pieces.lines_map, Pieces.lines_flatMap, Piece.text,
    join_setPieces, String.append_assoc]

/-! ### Which names there are -/

/-- The names of a configuration record, of its type and of its fields. -/
def recordNames (x : Expansion) : List String :=
  x.structName :: x.instanceName :: x.fields.map ConfigField.name

theorem mem_functions_iff {t : TableInput} {f : String} :
    f ∈ t.functions ↔ ∃ e ∈ t.rows, f = e.initFunction ∨ f = e.actFunction := by
  -- The fold takes a function once; which ones it has taken so far is part of the induction.
  have kept : ∀ fs seen : List String,
      f ∈ fs.foldl (fun seen f => if seen.contains f then seen else seen ++ [f]) seen ↔
        f ∈ seen ∨ f ∈ fs := by
    intro fs
    induction fs with
    | nil => simp
    | cons g rest ih =>
      intro seen
      rw [List.foldl_cons, ih]
      split
      · rename_i old
        have : g ∈ seen := by simpa using old
        grind
      · simp [or_assoc]
  rw [functions, kept]
  simp

variable {p : String → Prop}

theorem namesAre_recordDeclaration (x : Expansion) :
    Pieces.NamesAre p (recordDeclaration x) ↔ ∀ name ∈ recordNames x, p name := by
  simp [recordDeclaration, recordNames, Pieces.namesAre_map]
  tauto

theorem namesAre_recordDefinition (x : Expansion) :
    Pieces.NamesAre p (recordDefinition x) ↔ ∀ name ∈ recordNames x, p name := by
  simp [recordDefinition, recordNames, Pieces.namesAre_map, and_assoc]

theorem namesAre_functionTable (type name : String) (function : DispatchEntry → String)
    (rows : List DispatchEntry) :
    Pieces.NamesAre p (functionTable type name function rows) ↔ ∀ e ∈ rows, p (function e) := by
  simp [functionTable, Pieces.namesAre_map]

/-- **The names in the header.** -/
theorem namesAre_headerPieces (t : TableInput) :
    Pieces.NamesAre p t.headerPieces ↔
      p t.names.guardSymbol ∧ Pieces.NamesAre p t.pinParagraph ∧
        (∀ x ∈ t.configs, ∀ name ∈ recordNames x, p name) ∧
        (∀ d ∈ t.useFields.declarations, p d.symbol) ∧
        ∀ f ∈ t.functions, p f := by
  simp [headerPieces, Pieces.namesAre_map, Pieces.namesAre_flatMap, namesAre_recordDeclaration]
  tauto

/-- **The names in the source.** -/
theorem namesAre_sourcePieces (t : TableInput) :
    Pieces.NamesAre p t.sourcePieces ↔
      (∀ d ∈ t.useFields.declarations, p d.symbol) ∧
        (∀ x ∈ t.configs, ∀ name ∈ recordNames x, p name) ∧
        (∀ e ∈ t.rows, p e.initFunction) ∧ (∀ e ∈ t.rows, p e.actFunction) ∧
        ∀ a ∈ t.useFields.assignments, p a.symbol := by
  simp [sourcePieces, setPieces, Pieces.namesAre_map, Pieces.namesAre_flatMap,
    namesAre_recordDefinition, namesAre_functionTable]

end TableInput

/-! ### Pins -/

/-- **The macro of a pin is an identifier.** -/
theorem isSymbol_pinMacro (before : List PinAssignment) (a : PinAssignment) :
    IsSymbol (pinMacro before a) := by
  have underscore : ∀ c ∈ "_".toList, isSymbolChar c = true :=
    List.all_eq_true.mp (by decide +kernel)
  have function : IsSymbol (pinFunctionSymbol a) := by
    unfold pinFunctionSymbol
    split
    · exact IsSymbol.append (by decide +kernel) (isSymbolChar_of_mem_repr a.index)
    · exact isSymbol_upperSymbol a.function
  have asked : IsSymbol (pinSymbol a) := by
    unfold pinSymbol
    dsimp only
    split
    · exact function
    · exact ((isSymbol_upperSymbol a.bus).append underscore).append function.letters
  have numbered : IsSymbol (numberedName (pinSymbol a) (countAsking (pinSymbol a) before)) := by
    unfold numberedName
    split
    · exact asked
    · exact (asked.append underscore).append (isSymbolChar_of_mem_repr _)
  exact numbered.append (List.all_eq_true.mp (by decide +kernel))

theorem isSymbol_pinPiecesAfter (before assignments : List PinAssignment) :
    Pieces.NamesAre IsSymbol (pinPiecesAfter before assignments) := by
  induction assignments generalizing before with
  | nil => exact Pieces.namesAre_nil
  | cons a rest ih =>
    rw [pinPiecesAfter, Pieces.namesAre_cons]
    refine ⟨?_, ih _⟩
    unfold pinPieces
    split
    · simpa using isSymbol_pinMacro before a
    · simp

theorem isSymbol_pinParagraph (t : TableInput) : Pieces.NamesAre IsSymbol t.pinParagraph := by
  unfold TableInput.pinParagraph
  cases t.pins with
  | none => exact Pieces.namesAre_nil
  | some report =>
    dsimp only
    split
    · exact Pieces.namesAre_nil
    · simpa using isSymbol_pinPiecesAfter [] report.assignments

/-! ### Variables -/

theorem plans_of_planned {rows : List DispatchEntry} {plan : UseFieldPlan}
    (planned : planUseFields rows = .ok plan) : Plans (useFieldEntries rows) plan := by
  have run := foldlM_add plans_nil (useFieldEntries rows)
  rw [List.nil_append] at run
  rw [planUseFields] at planned
  simpa only [planned] using run

theorem mem_of_setting {es : List UseFieldEntry} {e : UseFieldEntry}
    (mem : e ∈ declaring es ++ (assigning es).map Prod.snd) : e ∈ es := by
  have own : e ∈ (declaring es ++ (assigning es).map Prod.snd).filter (fun d => d.key == e.key) :=
    List.mem_filter.mpr ⟨mem, beq_self_eq_true e.key⟩
  rw [filter_declaring_assigning] at own
  exact (List.mem_filter.mp own).1

/-- What is declared or set is so by an entry. -/
theorem Plans.exists_entry {es : List UseFieldEntry} {plan : UseFieldPlan} (plans : Plans es plan) :
    ∀ d ∈ plan.declarations ++ plan.assignments, ∃ e ∈ variableEntries es, e.key = d.symbol := by
  intro d mem
  have noted : (d.symbol, d.value) ∈
      (plan.declarations ++ plan.assignments).map fun u => (u.symbol, u.value) :=
    List.mem_map_of_mem mem
  rw [plans.settings] at noted
  obtain ⟨e, setting, same⟩ := List.mem_map.mp noted
  exact ⟨e, mem_of_setting setting, (Prod.mk.inj same).1⟩

/-- **The variables of a plan are identifiers**: others are refused. -/
theorem isSymbol_of_planned {rows : List DispatchEntry} {plan : UseFieldPlan}
    (planned : planUseFields rows = .ok plan) :
    ∀ d ∈ plan.declarations ++ plan.assignments, IsSymbol d.symbol := by
  intro d mem
  have plans := plans_of_planned planned
  obtain ⟨e, sets, key⟩ := plans.exists_entry d mem
  obtain ⟨entry, noLine⟩ := List.mem_filter.mp sets
  obtain ⟨before, after, split⟩ := List.append_of_mem entry
  -- An entry of a plan fits behind those before it, so its key has not been refused.
  rw [← key, ← isCIdentifier_iff]
  by_contra refused
  exact plans.fits before e after _ split
    (.name (by simpa using noLine) (Bool.eq_false_iff.mpr refused))

/-! ### Which names may be no identifiers -/

/-- **Only functions may be no identifiers**, when the names of records and variables are. -/
theorem TableInput.namesAre_iff {p : String → Prop} (t : TableInput)
    (symbols : ∀ name, IsSymbol name → p name)
    (records : ∀ x ∈ t.configs, ∀ name ∈ recordNames x, IsSymbol name)
    (fields : ∀ d ∈ t.useFields.declarations ++ t.useFields.assignments, IsSymbol d.symbol) :
    Pieces.NamesAre p (t.headerPieces ++ t.sourcePieces) ↔
      ∀ e ∈ t.rows, ∀ f ∈ [e.initFunction, e.actFunction], p f := by
  rw [List.forall_mem_append] at fields
  have inRecords : ∀ x ∈ t.configs, ∀ name ∈ recordNames x, p name := fun x mem name own =>
    symbols name (records x mem name own)
  have declared : ∀ d ∈ t.useFields.declarations, p d.symbol := fun d mem =>
    symbols _ (fields.1 d mem)
  have assigned : ∀ d ∈ t.useFields.assignments, p d.symbol := fun d mem =>
    symbols _ (fields.2 d mem)
  rw [Pieces.namesAre_append, namesAre_headerPieces, namesAre_sourcePieces]
  constructor
  · rintro ⟨-, -, -, inits, acts, -⟩ e mem f own
    simp only [List.mem_cons, List.not_mem_nil, or_false] at own
    rcases own with rfl | rfl
    · exact inits e mem
    · exact acts e mem
  · intro rows
    refine ⟨⟨symbols _ (isSymbol_upperSymbol _), ?_, inRecords, declared, ?_⟩, declared, inRecords,
      fun e mem => rows e mem _ (by simp), fun e mem => rows e mem _ (by simp), assigned⟩
    · exact fun name mem => symbols name (isSymbol_pinParagraph t name mem)
    · intro f mem
      obtain ⟨e, inRows, own⟩ := mem_functions_iff.mp mem
      exact rows e inRows f (by simpa using own)

/-! ### The names in the files of a traversal -/

variable {files : FileTree} {c c' : Context} {root : Resolved} {bot : BotRecord} {t : Traversal}

/-- The functions that the documents of a trail declare, of the nodes that have rows. -/
def Trail.declared (trail : Trail) : List String := trail.rowed.flatMap Followed.declared

/-- **The functions of the rows** are those that are declared, and identifiers. -/
theorem Tale.functions (tale : Tale files root bot c c' t) :
    (∀ row ∈ t.entries, ∀ f ∈ [row.initFunction, row.actFunction],
      IsSymbol f ∨ f ∈ tale.trail.declared) ∧
    ∀ f ∈ tale.trail.declared, ∃ row ∈ t.entries, f = row.initFunction ∨ f = row.actFunction := by
  have named : ∀ (name : String) {behind : String}, (∀ c ∈ behind.toList, isSymbolChar c = true) →
      IsSymbol (cIdentifier name ++ behind) := fun name _ letters =>
    (isSymbol_cIdentifier name).append letters
  constructor
  · intro row mem f own
    obtain ⟨s, rowed, yields⟩ := tale.exists_yields mem
    obtain ⟨init, act, -⟩ := functions_of_yields yields
    have declared : ∀ f ∈ s.declared, f ∈ tale.trail.declared := fun f mem =>
      List.mem_flatMap.mpr ⟨s, rowed, mem⟩
    simp only [List.mem_cons, List.not_mem_nil, or_false] at own
    rcases own with rfl | rfl
    · rcases init with inDocument | derived
      · exact .inr (declared _ inDocument)
      · exact .inl (derived ▸ named row.name (List.all_eq_true.mp (by decide +kernel)))
    · rcases act with inDocument | derived
      · exact .inr (declared _ inDocument)
      · exact .inl (derived ▸ named row.name (List.all_eq_true.mp (by decide +kernel)))
  · intro f mem
    obtain ⟨s, rowed, own⟩ := List.mem_flatMap.mp mem
    obtain ⟨row, inEntries, yields⟩ := tale.exists_row rowed
    exact ⟨row, inEntries, (functions_of_yields yields).2.2 f own⟩

/-- The names of the configuration records of a traversal are identifiers. -/
theorem Tale.isSymbol_recordNames (tale : Tale files root bot c c' t) :
    ∀ x ∈ t.entries.filterMap DispatchEntry.config, ∀ name ∈ TableInput.recordNames x,
      IsSymbol name := by
  intro x mem name own
  obtain ⟨row, inEntries, configured⟩ := List.mem_filterMap.mp mem
  obtain ⟨s, -, yields⟩ := tale.exists_yields inEntries
  cases yields with
  | @row leg e config _ expands =>
    obtain ⟨reference, expanded⟩ := expands x configured
    have fields := isSymbol_fields expanded
    obtain ⟨claims, brought, -, -, rfl⟩ := expand_eq_ok expanded
    simp only [TableInput.recordNames, List.mem_cons, List.mem_map] at own
    rcases own with rfl | rfl | ⟨f, inFields, rfl⟩
    · exact isSymbol_structName _ _
    · exact (isSymbol_cIdentifier _).append (List.all_eq_true.mp (by decide +kernel))
    · exact fields f inFields

/-- **What is accepted has a plan**, and the files are made from it. -/
theorem generateTables_eq_ok {pins : Option PinReport} {names : TableNames}
    {provenance : Option Provenance} {tables : TableFiles}
    (accepted : generateTables t pins names provenance = .ok tables) :
    ∃ plan, planUseFields t.entries = .ok plan ∧ tables = (
      let input : TableInput := ⟨names, provenance, pins, t.root, t.entries, plan⟩
      ⟨names, joinLines input.headerLines, joinLines input.sourceLines⟩) := by
  unfold generateTables at accepted
  split at accepted
  · cases accepted
  · obtain ⟨plan, planned, accepted⟩ := bind_eq_ok accepted
    cases accepted
    exact ⟨plan, planned, rfl⟩

/-- **The names in generated code are identifiers if the declared functions are**, and only then:
whatever the bot, its pins and the names of the files are, the only names in the place of
identifiers that may be none are functions that documents declare for nodes that have rows. -/
theorem names_valid_iff {pins : Option PinReport} {names : TableNames}
    {provenance : Option Provenance} {tables : TableFiles}
    (h : traverse files c root = (.ok t, c'))
    (accepted : generateTables t pins names provenance = .ok tables) :
    ∃ input : TableInput,
      input.names = names ∧ input.pins = pins ∧ input.rows = t.entries ∧
      planUseFields t.entries = .ok input.useFields ∧
      tables.header = joinLines (Pieces.lines input.headerPieces) ∧
      tables.source = joinLines (Pieces.lines input.sourcePieces) ∧
      (∃ bot, Nonempty (Tale files root bot c c' t)) ∧
      ∀ bot (tale : Tale files root bot c c' t),
        (∀ name ∈ Pieces.names (input.headerPieces ++ input.sourcePieces),
          IsSymbol name ∨ name ∈ tale.trail.declared) ∧
        ((∀ name ∈ Pieces.names (input.headerPieces ++ input.sourcePieces), IsSymbol name) ↔
          ∀ name ∈ tale.trail.declared, IsSymbol name) := by
  obtain ⟨plan, planned, rfl⟩ := generateTables_eq_ok accepted
  refine ⟨⟨names, provenance, pins, t.root, t.entries, plan⟩, rfl, rfl, rfl, planned, ?_, ?_,
    traverse_tale h, fun bot tale => ?_⟩
  · rw [TableInput.lines_headerPieces]
  · rw [TableInput.lines_sourcePieces]
  · have only : ∀ {p : String → Prop}, (∀ name, IsSymbol name → p name) → (_ ↔ _) :=
      fun {p} symbols => TableInput.namesAre_iff (p := p)
        ⟨names, provenance, pins, t.root, t.entries, plan⟩ symbols tale.isSymbol_recordNames
        (isSymbol_of_planned planned)
    obtain ⟨undeclared, declared⟩ := tale.functions
    refine ⟨(only fun _ => .inl).mpr undeclared, (only fun _ => id).trans ⟨?_, ?_⟩⟩
    · intro valid f mem
      obtain ⟨row, inEntries, own⟩ := declared f mem
      exact valid row inEntries f (by simpa using own)
    · intro valid row mem f own
      exact (undeclared row mem f own).elim id (valid f)

/-- A bot with a component that declares a function whose name has a blank in it. -/
def spaced : List (String × Members) := [
  ("bot", [("name", .string "bot"), ("components", referenceList ["eye"])]),
  ("eye", [("name", .string "eye"),
    ("software", .object [("init_function", .string "my init")])])]

theorem tables_spaced : ∃ t c tables, walkOf spaced = (.ok t, c) ∧
    generateTables t none {} none = .ok tables ∧
    ∃ row, t.entries = [row] ∧ row.initFunction = "my init" := by
  obtain ⟨t, c, walked⟩ := exists_of_isOk (x := walkOf spaced) (by decide +kernel)
  have yields : (walkOf spaced).1.toOption.map (fun t =>
      ((generateTables t none {} none).isOk, t.entries.map (·.initFunction))) =
        some (true, ["my init"]) := by
    decide +kernel
  rw [walked] at yields
  obtain ⟨accepted, inits⟩ := Prod.mk.inj (Option.some.inj yields)
  obtain ⟨tables, generated⟩ : ∃ tables, generateTables t none {} none = .ok tables := by
    cases out : generateTables t none {} none with
    | error e =>
      rw [out] at accepted
      cases accepted
    | ok tables => exact ⟨tables, rfl⟩
  obtain ⟨row, rest, entries, init, none⟩ := List.map_eq_cons_iff.mp inits
  obtain rfl := List.map_eq_nil_iff.mp none
  exact ⟨t, c, tables, walked, generated, row, entries, init⟩

theorem names_valid_iff_spaced : ∃ t c tables, walkOf spaced = (.ok t, c) ∧
    generateTables t none {} none = .ok tables ∧
    ∃ input : TableInput, input.rows = t.entries ∧
      tables.header = joinLines (Pieces.lines input.headerPieces) ∧
      ∃ bot, ∃ tale : Tale noFiles (startOf spaced).1 bot (startOf spaced).2 c t,
        ((∀ name ∈ Pieces.names (input.headerPieces ++ input.sourcePieces), IsSymbol name) ↔
          ∀ name ∈ tale.trail.declared, IsSymbol name) := by
  obtain ⟨t, c, tables, walked, generated, -⟩ := tables_spaced
  obtain ⟨input, -, -, rows, -, header, -, ⟨bot, ⟨tale⟩⟩, valid⟩ := names_valid_iff walked generated
  exact ⟨t, c, tables, walked, generated, input, rows, header, bot, tale, (valid bot tale).2⟩

/-- **A declared function may be no identifier**, and still it is declared in the header as it
is written. -/
theorem declared_name_invalid : ∃ t c tables, walkOf spaced = (.ok t, c) ∧
    generateTables t none {} none = .ok tables ∧
    ∃ input : TableInput, tables.header = joinLines (Pieces.lines input.headerPieces) ∧
      "void my init(void);" ∈ Pieces.lines input.headerPieces ∧
      "my init" ∈ Pieces.names input.headerPieces ∧ ¬ IsSymbol "my init" := by
  obtain ⟨t, c, tables, walked, generated, row, entries, init⟩ := tables_spaced
  obtain ⟨plan, planned, rfl⟩ := generateTables_eq_ok generated
  generalize isInput : TableInput.mk {} none none t.root t.entries plan = input
  have function : "my init" ∈ input.functions := by
    rw [← isInput, TableInput.mem_functions_iff]
    exact ⟨row, by simp [entries], .inl init.symm⟩
  have named : Pieces.NamesAre (· ∈ Pieces.names input.headerPieces) input.headerPieces :=
    fun _ mem => mem
  refine ⟨t, c, _, walked, generated, input, ?_, ?_, ?_, by decide +kernel⟩
  · rw [TableInput.lines_headerPieces, ← isInput]
  · have declaration : "void my init(void);" ∈ input.functionDeclarations :=
      List.mem_append_left _ (List.mem_map.mpr ⟨_, function, by decide +kernel⟩)
    rw [TableInput.lines_headerPieces]
    simp [TableInput.headerLines, declaration]
  · exact ((TableInput.namesAre_headerPieces input).mp named).2.2.2.2 _ function

end DispatchTables
