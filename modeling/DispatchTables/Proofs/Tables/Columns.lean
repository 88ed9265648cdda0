import DispatchTables.Proofs.Tables.Tokens
import DispatchTables.Tables.Generation

/-!
# The tables as they are read

Names of components are texts of any kind, and stand in comments between the rows of the table of
hit counts.  As long as they stay in their lines, what is read there are the rows and nothing else;
a name that does not takes the next row with it, or adds one.

## Main Definitions

* `TableInput.linesAhead`, `TableInput.linesAheadOfHits`: what stands ahead of the tables, and ahead
  of the last of them.
* `Introduces`: a text after which tables of some names can be read.
* `numbersOf`: the numbers that an array is defined with in a file.

## Main Statements

* `reads_tableLines`: a table is complete code if its rows are.
* `initializer?_table`: the elements of a table are its cells.
* `hitCounts_read`: the table of hit counts holds the hit counts of the rows, in their order, and
  the other two tables are parallel to it.
-/

namespace DispatchTables

/-! ### Tables -/

theorem toList_joinLines (lines : List String) :
    (joinLines lines).toList = lines.flatMap fun l => l.toList ++ ['\n'] := by
  simp [joinLines, String.toList_join, List.flatMap_map, String.toList_append]

theorem joinLines_append (lines more : List String) :
    joinLines (lines ++ more) = joinLines lines ++ joinLines more := by
  apply String.toList_inj.mp
  simp [toList_joinLines, String.toList_append]

/-- The tokens that open a table. -/
def openingTokens (type name : String) : List Token :=
  [.word "const", .word type, .word name, .mark '[', .word "DISPATCH_TABLE_SIZE", .mark ']',
    .mark '=', .mark '\x7b']

theorem reads_opening {type name : String} (isType : IsWord type) (isName : IsWord name) :
    Reads (("const " ++ type ++ " " ++ name ++ "[DISPATCH_TABLE_SIZE] = \x7b").toList ++ ['\n'])
      (openingTokens type name) := by
  have chars : ("const " ++ type ++ " " ++ name ++ "[DISPATCH_TABLE_SIZE] = \x7b").toList =
      "const ".toList ++ (type.toList ++ ' ' :: (name.toList ++ '[' ::
        "DISPATCH_TABLE_SIZE] = \x7b".toList)) := by
    simp [String.toList_append]
  have const : scan (.code []) "const ".toList = ([.word "const"], .code []) := by decide
  have size : scan (.code []) ("DISPATCH_TABLE_SIZE] = \x7b".toList ++ ['\n']) =
      ([.word "DISPATCH_TABLE_SIZE", .mark ']', .mark '=', .mark '\x7b'], .code []) := by decide
  have gap : ∀ word : List Char, Place.read (.code word) ' ' = (closeWord word, .code []) :=
    fun _ => rfl
  have bracket : ∀ word : List Char,
      Place.read (.code word) '[' = (closeWord word ++ [.mark '['], .code []) := fun _ => rfl
  rw [chars]
  apply reads_line
  · simp [isType.oneLine, isName.oneLine]
  · rw [List.getLast?_append_of_ne_nil _ (by simp), List.getLast?_append_of_ne_nil _ (by simp),
      ← List.cons_append, List.getLast?_append_of_ne_nil _ (by simp)]
    decide
  · simp only [List.append_assoc, List.cons_append, scan_append, const, scan_word isType.letters,
      scan_word isName.letters, scan, gap, bracket, List.nil_append, isType.closeWord,
      isName.closeWord, size]
    rfl

/-- The tokens of cells, each with a comma behind it. -/
def cellTokens (cells : List String) : List Token :=
  cells.flatMap fun cell => [.word cell, .mark ',']

/-- The tokens of a table with some cells. -/
def tableTokens (type name : String) (cells : List String) : List Token :=
  openingTokens type name ++ cellTokens cells ++ [.mark '\x7d', .mark ';']

/-- **A table is complete code** if its rows are, and holds the cells that are read from them. -/
theorem reads_tableLines {type name : String} {line : DispatchEntry → String}
    {rows : List DispatchEntry} {cells : List String} (isType : IsWord type) (isName : IsWord name)
    (body : Reads (rows.flatMap fun e => ("    " ++ line e).toList ++ ['\n']) (cellTokens cells)) :
    Reads (joinLines (TableInput.tableLines type name line rows)).toList
      (tableTokens type name cells) := by
  have closing : Reads ("\x7d;".toList ++ ['\n']) [.mark '\x7d', .mark ';'] :=
    ⟨by decide, by decide⟩
  have empty : Reads ("".toList ++ ['\n']) [] := ⟨by decide, by decide⟩
  have table := ((reads_opening isType isName).append body).append (closing.append empty)
  rw [toList_joinLines]
  simpa [TableInput.tableLines, paragraph, tableTokens, List.flatMap_map] using table

/-- So it is in particular if each row is read as a cell. -/
theorem reads_rows {line cell : DispatchEntry → String} {rows : List DispatchEntry}
    (cells : ∀ e ∈ rows, Reads (("    " ++ line e).toList ++ ['\n']) [.word (cell e), .mark ',']) :
    Reads (rows.flatMap fun e => ("    " ++ line e).toList ++ ['\n'])
      (cellTokens (rows.map cell)) := by
  rw [cellTokens, List.flatMap_map]
  exact reads_flatMap cells

/-! ### Elements -/

theorem elements_cells (cells : List String) :
    elements [] (cellTokens cells) = cells.map fun cell => [.word cell] := by
  induction cells with
  | nil => rfl
  | cons cell rest ih =>
    rw [cellTokens] at ih
    simp [cellTokens, elements, ih]

/-- **The elements of a table** are its cells, whatever follows it, if its name has not come up
before. -/
theorem initializer?_table {type name : String} {ahead : List Token} (new : .word name ∉ ahead)
    (other : name ≠ "const" ∧ name ≠ type) (cells : List String) (behind : List Token) :
    initializer? name (ahead ++ tableTokens type name cells ++ behind) =
      some (cells.map fun cell => [.word cell]) := by
  have found : (ahead ++ tableTokens type name cells ++ behind).dropWhile (· != .word name) =
      .word name :: .mark '[' :: .word "DISPATCH_TABLE_SIZE" :: .mark ']' :: .mark '=' ::
        .mark '\x7b' :: (cellTokens cells ++ (.mark '\x7d' :: .mark ';' :: behind)) := by
    rw [List.append_assoc, List.dropWhile_append_of_pos]
    · simp [tableTokens, openingTokens, other.1.symm, other.2.symm]
    · intro t mem
      simpa using fun same : t = .word name => new (same ▸ mem)
  have body : (cellTokens cells ++ (.mark '\x7d' :: .mark ';' :: behind)).takeWhile
      (· != .mark '\x7d') = cellTokens cells := by
    rw [List.takeWhile_append_of_pos]
    · simp
    · intro t mem
      obtain ⟨cell, -, inCell⟩ := List.mem_flatMap.mp mem
      rcases List.mem_pair.mp inCell with rfl | rfl
      · rfl
      · decide
  unfold initializer?
  rw [found]
  exact congrArg some ((congrArg (elements []) body).trans (elements_cells cells))

/-- **The words of a table** are read in any text that it is part of, if what is ahead of it is
complete code in which its name does not come up. -/
theorem columnOf_table {type name ahead table : String} {ts : List Token} {cells : List String}
    (behind : String) (reads : Reads ahead.toList ts) (new : .word name ∉ ts)
    (other : name ≠ "const" ∧ name ≠ type)
    (tableReads : Reads table.toList (tableTokens type name cells)) :
    columnOf name (ahead ++ table ++ behind) = some cells := by
  have words : (cells.map fun cell => [Token.word cell]).mapM word? = some cells := by
    clear tableReads
    induction cells with
    | nil => rfl
    | cons cell rest ih =>
      rw [List.map_cons, List.mapM_cons, ih]
      rfl
  rw [columnOf, String.append_assoc, reads.tokensOf, tableReads.tokensOf, ← List.append_assoc,
    initializer?_table new other, Option.bind_some, words]

/-- The number that a word is, if it is written in digits. -/
def number? (word : String) : Option Nat :=
  if word.toList.all Char.isDigit then some (Nat.ofDigitChars 10 word.toList 0) else none

/-- The numbers that an array is defined with in a file. -/
def numbersOf (name text : String) : Option (List Nat) :=
  (columnOf name text).bind (·.mapM number?)

theorem number?_repr (n : Nat) : number? (Nat.repr n) = some n := by
  have digits : (Nat.repr n).toList.all Char.isDigit = true := by
    rw [List.all_eq_true, Nat.toList_repr]
    intro c mem
    exact Nat.isDigit_of_mem_toDigits (by decide) (by decide) mem
  rw [number?, if_pos digits, Nat.toList_repr, Nat.ofDigitChars_ten_toDigits]

theorem mapM_number?_repr (ns : List Nat) : (ns.map Nat.repr).mapM number? = some ns := by
  induction ns with
  | nil => rfl
  | cons n rest ih => simp [List.mapM_cons, number?_repr, ih]

/-! ### The source -/

namespace TableInput

/-- The lines ahead of the tables. -/
def linesAhead (t : TableInput) : List String :=
  banner t.root none ++ paragraph ["#include \"" ++ t.names.header ++ "\""] ++
    optionalParagraph t.useFields.directives ++ t.variableDefinitions ++
    t.configs.flatMap configDefinition

/-- The lines of the table of first calls. -/
def initLines (t : TableInput) : List String :=
  tableLines "dispatch_init_fn" "dispatch_init_table" (fun e => e.initFunction ++ ",") t.rows

/-- The lines of the table of later calls. -/
def actLines (t : TableInput) : List String :=
  tableLines "dispatch_act_fn" "dispatch_act_table" (fun e => e.actFunction ++ ",") t.rows

/-- The lines of the table of hit counts. -/
def hitLines (t : TableInput) : List String :=
  tableLines "uint32_t" "dispatch_hit_count_table"
    (fun e => Nat.repr e.hitCount ++ ", // " ++ e.name) t.rows

/-- The lines ahead of the table of hit counts. -/
def linesAheadOfHits (t : TableInput) : List String := t.linesAhead ++ t.initLines ++ t.actLines

theorem sourceLines_eq (t : TableInput) :
    t.sourceLines = t.linesAheadOfHits ++ t.hitLines ++ t.assignmentFunction := by
  simp [sourceLines, tableDefinitions, linesAheadOfHits, linesAhead, initLines, actLines, hitLines]

end TableInput

/-- A text after which tables of some names can be read: it is complete code, and the names do not
come up in it. -/
def Introduces (names : List String) (text : String) : Prop :=
  ∃ ts, Reads text.toList ts ∧ ∀ name ∈ names, .word name ∉ ts

instance (names : List String) (text : String) : Decidable (Introduces names text) :=
  decidable_of_iff ((scan (.code []) (spliced text.toList)).2 = .code [] ∧
      text.toList.getLast? ≠ some '\\' ∧ ∀ name ∈ names, .word name ∉ tokensOf text) <| by
    constructor
    · rintro ⟨complete, apart, new⟩
      exact ⟨tokensOf text, ⟨Prod.ext rfl complete, apart⟩, new⟩
    · rintro ⟨ts, reads, new⟩
      have tokens : tokensOf text = ts := congrArg Prod.fst reads.scans
      exact ⟨congrArg Prod.snd reads.scans, reads.apart, tokens ▸ new⟩

/-- Whether a text names a function, and none of the tables. -/
def NamesFunction (f : String) : Prop :=
  isCIdentifier f = true ∧
    f ∉ ["dispatch_init_table", "dispatch_act_table", "dispatch_hit_count_table"]

instance (f : String) : Decidable (NamesFunction f) := inferInstanceAs (Decidable (_ ∧ _))

theorem reads_initLines {t : TableInput} (functions : ∀ e ∈ t.rows, NamesFunction e.initFunction) :
    Reads (joinLines t.initLines).toList
      (tableTokens "dispatch_init_fn" "dispatch_init_table" (t.rows.map (·.initFunction))) :=
  reads_tableLines (by decide +kernel) (by decide +kernel) <| reads_rows fun e mem =>
    reads_cell (isWord_of_isCIdentifier (functions e mem).1)

theorem reads_actLines {t : TableInput} (functions : ∀ e ∈ t.rows, NamesFunction e.actFunction) :
    Reads (joinLines t.actLines).toList
      (tableTokens "dispatch_act_fn" "dispatch_act_table" (t.rows.map (·.actFunction))) :=
  reads_tableLines (by decide +kernel) (by decide +kernel) <| reads_rows fun e mem =>
    reads_cell (isWord_of_isCIdentifier (functions e mem).1)

/-- The numbers in the table of hit counts are those that are read from its rows, whatever follows
the table. -/
theorem numbersOf_body {t : TableInput} {ns : List Nat}
    (body : Reads (t.rows.flatMap fun e =>
      ("    " ++ (Nat.repr e.hitCount ++ ", // " ++ e.name)).toList ++ ['\n'])
      (cellTokens (ns.map Nat.repr)))
    (ahead : Introduces ["dispatch_hit_count_table"] (joinLines t.linesAheadOfHits)) :
    numbersOf "dispatch_hit_count_table" (joinLines t.sourceLines) = some ns := by
  obtain ⟨ts, reads, new⟩ := ahead
  have table : Reads (joinLines t.hitLines).toList
      (tableTokens "uint32_t" "dispatch_hit_count_table" (ns.map Nat.repr)) :=
    reads_tableLines (by decide +kernel) (by decide +kernel) body
  have column := columnOf_table (joinLines t.assignmentFunction) reads
    (new _ List.mem_cons_self) (by decide) table
  rw [← joinLines_append, ← joinLines_append, ← t.sourceLines_eq] at column
  rw [numbersOf, column, Option.bind_some, mapM_number?_repr]

/-- The hit counts are read if the names stay in their lines. -/
theorem numbersOf_hits {t : TableInput} (comments : ∀ e ∈ t.rows, StaysInLine e.name)
    (ahead : Introduces ["dispatch_hit_count_table"] (joinLines t.linesAheadOfHits)) :
    numbersOf "dispatch_hit_count_table" (joinLines t.sourceLines) =
      some (t.rows.map (·.hitCount)) := by
  refine numbersOf_body ?_ ahead
  rw [List.map_map]
  exact reads_rows fun e mem => reads_comment (isWord_repr e.hitCount) (comments e mem)

/-- The words of a table are those that open it and its cells. -/
theorem not_mem_tableTokens {type name word : String} {cells : List String}
    (inOpening : .word word ∉ openingTokens type name) (inCells : word ∉ cells) :
    .word word ∉ tableTokens type name cells := by
  simp [tableTokens, cellTokens, inOpening, inCells]

/-- The functions are read from their tables, whatever follows these. -/
theorem columnOf_functions {t : TableInput}
    (functions : ∀ e ∈ t.rows, NamesFunction e.initFunction ∧ NamesFunction e.actFunction)
    (ahead : Introduces ["dispatch_init_table", "dispatch_act_table"] (joinLines t.linesAhead)) :
    columnOf "dispatch_init_table" (joinLines t.sourceLines) =
        some (t.rows.map (·.initFunction)) ∧
      columnOf "dispatch_act_table" (joinLines t.sourceLines) =
        some (t.rows.map (·.actFunction)) := by
  obtain ⟨ts, reads, new⟩ := ahead
  have inits := reads_initLines fun e mem => (functions e mem).1
  have acts := reads_actLines fun e mem => (functions e mem).2
  have source : joinLines t.sourceLines =
      joinLines t.linesAhead ++ joinLines t.initLines ++ joinLines t.actLines ++
        (joinLines t.hitLines ++ joinLines t.assignmentFunction) := by
    rw [t.sourceLines_eq, TableInput.linesAheadOfHits]
    simp only [joinLines_append, String.append_assoc]
  constructor
  · rw [source, String.append_assoc]
    exact columnOf_table _ reads (new _ (by simp)) (by decide) inits
  · -- no function of the first table is called like the second
    have named : "dispatch_act_table" ∉ t.rows.map (·.initFunction) := by
      intro mem
      obtain ⟨e, inRows, same⟩ := List.mem_map.mp mem
      exact (functions e inRows).1.2 (by rw [same]; simp)
    have both : Reads (joinLines t.linesAhead ++ joinLines t.initLines).toList
        (ts ++ tableTokens "dispatch_init_fn" "dispatch_init_table"
          (t.rows.map (·.initFunction))) := by
      rw [String.toList_append]
      exact reads.append inits
    have fresh : .word "dispatch_act_table" ∉ tableTokens "dispatch_init_fn" "dispatch_init_table"
        (t.rows.map (·.initFunction)) := not_mem_tableTokens (by decide) named
    rw [source]
    refine columnOf_table _ both ?_ (by decide) acts
    rw [List.mem_append, not_or]
    exact ⟨new _ (by simp), fresh⟩

/-- The files that are generated for rows whose use fields have been planned. -/
theorem generateTables_eq {t : Traversal} (pins : Option PinReport) (names : TableNames)
    (provenance : Option Provenance) {plan : UseFieldPlan} (rows : t.entries ≠ [])
    (planned : planUseFields t.entries = .ok plan) :
    generateTables t pins names provenance =
      let input : TableInput := ⟨names, provenance, pins, t.root, t.entries, plan⟩
      .ok ⟨names, joinLines input.headerLines, joinLines input.sourceLines⟩ := by
  unfold generateTables
  rw [if_neg (by simpa using rows), planned]
  rfl

/-- **The tables run in parallel.**  Wherever tables are generated, if the names of the components
stay in the comments that they are put into and if what is ahead of the table of hit counts is
complete code, then this table is read as the hit counts of the rows, in their order: as many as the
size that the header defines.  The other two tables are read as the functions of the rows if what is
ahead of them is complete code and the functions are identifiers. -/
theorem hitCounts_read {t : Traversal} {pins : Option PinReport} {names : TableNames}
    {provenance : Option Provenance} {plan : UseFieldPlan} {files : TableFiles}
    (planned : planUseFields t.entries = .ok plan)
    (accepted : generateTables t pins names provenance = .ok files)
    (comments : ∀ e ∈ t.entries, StaysInLine e.name)
    (ahead : Introduces ["dispatch_hit_count_table"] (joinLines
      (TableInput.linesAheadOfHits ⟨names, provenance, pins, t.root, t.entries, plan⟩))) :
    numbersOf "dispatch_hit_count_table" files.source = some (t.entries.map (·.hitCount)) ∧
    (∃ lines, files.header = joinLines lines ∧
      "#define DISPATCH_TABLE_SIZE " ++ Nat.repr t.entries.length ∈ lines) ∧
    ((∀ e ∈ t.entries, NamesFunction e.initFunction ∧ NamesFunction e.actFunction) →
      Introduces ["dispatch_init_table", "dispatch_act_table"] (joinLines
        (TableInput.linesAhead ⟨names, provenance, pins, t.root, t.entries, plan⟩)) →
      columnOf "dispatch_init_table" files.source = some (t.entries.map (·.initFunction)) ∧
      columnOf "dispatch_act_table" files.source = some (t.entries.map (·.actFunction))) := by
  have rows : t.entries ≠ [] := by
    intro none
    rw [generateTables, none] at accepted
    cases accepted
  obtain ⟨input, isInput, generated⟩ : ∃ input : TableInput,
      input = ⟨names, provenance, pins, t.root, t.entries, plan⟩ ∧
        files = ⟨names, joinLines input.headerLines, joinLines input.sourceLines⟩ :=
    ⟨_, rfl, Except.ok.inj (accepted.symm.trans (generateTables_eq _ _ _ rows planned))⟩
  have header : files.header = joinLines input.headerLines := by rw [generated]
  have source : files.source = joinLines input.sourceLines := by rw [generated]
  have sameRows : t.entries = input.rows := by rw [isInput]
  have sized :
      "#define DISPATCH_TABLE_SIZE " ++ Nat.repr input.rows.length ∈ input.headerLines := by
    simp [TableInput.headerLines, TableInput.preambleLines, paragraph]
  rw [← isInput] at ahead ⊢
  rw [sameRows] at comments ⊢
  rw [source]
  exact ⟨numbersOf_hits comments ahead, ⟨input.headerLines, header, sized⟩, columnOf_functions⟩

/-! ### What is ahead of the tables -/

namespace TableInput

/-- The lines that any source begins with. -/
def frontLines (t : TableInput) : List String :=
  banner t.root none ++ paragraph ["#include \"" ++ t.names.header ++ "\""]

/-- They are comments, and the name of the header between quotes. -/
theorem reads_frontLines {t : TableInput} (root : StaysInLine t.root)
    (header : IsPlain t.names.header) :
    Reads (joinLines t.frontLines).toList [.mark '#', .word "include", .quoted] := by
  have generated : Reads ("// Generated by generate_tables. Do not edit.".toList ++ ['\n']) [] :=
    ⟨by decide, by decide⟩
  have bot : Reads (("// bot: " ++ t.root).toList ++ ['\n']) [] :=
    reads_commentLine (by decide) (by decide) root
  have empty : Reads ("".toList ++ ['\n']) [] := ⟨by decide, by decide⟩
  have included : Reads (("#include \"" ++ t.names.header ++ "\"").toList ++ ['\n'])
      [.mark '#', .word "include", .quoted] := by
    have chars : ("#include \"" ++ t.names.header ++ "\"").toList =
        "#include \"".toList ++ (t.names.header.toList ++ ['"']) := by
      simp [String.toList_append]
    have opened : scan (.code []) "#include \"".toList =
        ([.mark '#', .word "include"], .quote '"') := by decide
    rw [chars]
    apply reads_line
    · simpa using fun mem => (header '\n' mem).2.2 rfl
    · rw [← List.append_assoc, List.getLast?_append_of_ne_nil _ (by simp)]
      decide
    · rw [List.append_assoc, scan_append, opened, List.append_assoc, scan_append,
        scan_quote header]
      decide
  rw [toList_joinLines]
  simpa [frontLines, banner, paragraph] using
    generated.append (bot.append (empty.append (included.append empty)))

end TableInput

/-- What is ahead of the table of hit counts, if what is ahead of all tables is complete code and
the functions are identifiers. -/
theorem introduces_hits_of_reads {t : TableInput} {ts : List Token}
    (reads : Reads (joinLines t.linesAhead).toList ts)
    (new : .word "dispatch_hit_count_table" ∉ ts)
    (functions : ∀ e ∈ t.rows, NamesFunction e.initFunction ∧ NamesFunction e.actFunction) :
    Introduces ["dispatch_hit_count_table"] (joinLines t.linesAheadOfHits) := by
  have inits := reads_initLines fun e mem => (functions e mem).1
  have acts := reads_actLines fun e mem => (functions e mem).2
  have ahead := (reads.append inits).append acts
  rw [← String.toList_append, ← String.toList_append, ← joinLines_append, ← joinLines_append]
    at ahead
  refine ⟨_, ahead, ?_⟩
  intro name mem
  obtain rfl := List.mem_singleton.mp mem
  have otherInit : "dispatch_hit_count_table" ∉ t.rows.map (·.initFunction) := by
    intro mem
    obtain ⟨e, inRows, same⟩ := List.mem_map.mp mem
    exact (functions e inRows).1.2 (by rw [same]; simp)
  have otherAct : "dispatch_hit_count_table" ∉ t.rows.map (·.actFunction) := by
    intro mem
    obtain ⟨e, inRows, same⟩ := List.mem_map.mp mem
    exact (functions e inRows).2.2 (by rw [same]; simp)
  rw [List.mem_append, List.mem_append, not_or, not_or]
  exact ⟨⟨new, not_mem_tableTokens (by decide) otherInit⟩,
    not_mem_tableTokens (by decide) otherAct⟩

/-! ### Rows without use fields -/

/-- What stands ahead of the tables when nothing is set and nothing is configured. -/
theorem reads_linesAhead {t : TableInput} (root : StaysInLine t.root)
    (header : IsPlain t.names.header) (noUses : t.useFields = {}) (noConfigs : t.configs = []) :
    Reads (joinLines t.linesAhead).toList [.mark '#', .word "include", .quoted] := by
  have lines : t.linesAhead = t.frontLines := by
    simp [TableInput.linesAhead, TableInput.frontLines, optionalParagraph,
      TableInput.variableDefinitions, noUses, noConfigs]
  rw [lines]
  exact TableInput.reads_frontLines root header

/-- What is ahead of the table of hit counts then, if the functions are identifiers. -/
theorem introduces_hits {t : TableInput} (root : StaysInLine t.root)
    (header : IsPlain t.names.header) (noUses : t.useFields = {}) (noConfigs : t.configs = [])
    (functions : ∀ e ∈ t.rows, NamesFunction e.initFunction ∧ NamesFunction e.actFunction) :
    Introduces ["dispatch_hit_count_table"] (joinLines t.linesAheadOfHits) :=
  introduces_hits_of_reads (reads_linesAhead root header noUses noConfigs) (by decide) functions

/-- Whether a row sets and configures nothing, stays in its line, and names its functions. -/
def IsBare (e : DispatchEntry) : Prop :=
  (e.useFields.isEmpty = true ∧ e.config.isNone = true) ∧ StaysInLine e.name ∧
    NamesFunction e.initFunction ∧ NamesFunction e.actFunction

instance (e : DispatchEntry) : Decidable (IsBare e) := inferInstanceAs (Decidable (_ ∧ _))

/-- A row of a component that names its functions after itself. -/
def plainRow (name function : String) (hitCount : Nat) : DispatchEntry :=
  ⟨name, function ++ "_init", function ++ "_act", hitCount, "", [], none⟩

/-- A bot with some rows. -/
def botOfRows (rows : List DispatchEntry) : Traversal := ⟨"bot", none, rows, []⟩

/-- The input for the rows of a bot that sets and configures nothing. -/
def plainInput (rows : List DispatchEntry) : TableInput := ⟨{}, none, none, "bot", rows, {}⟩

/-- Names that would end a comment, or open one, elsewhere. -/
def boldRows : List DispatchEntry :=
  [plainRow "/* \"one\\\"" "one" 1, plainRow "*/ \\ 2," "two" 20]

theorem hitCounts_read_boldRows : ∃ files,
    generateTables (botOfRows boldRows) none {} none = .ok files ∧
    (∀ e ∈ boldRows, StaysInLine e.name) ∧
    Introduces ["dispatch_hit_count_table"] (joinLines (plainInput boldRows).linesAheadOfHits) ∧
    numbersOf "dispatch_hit_count_table" files.source = some [1, 20] := by
  have planned : planUseFields (botOfRows boldRows).entries = .ok {} := rfl
  have accepted := generateTables_eq none {} none (by decide) planned
  have comments : ∀ e ∈ (botOfRows boldRows).entries, StaysInLine e.name := by decide
  have functions : ∀ e ∈ boldRows, NamesFunction e.initFunction ∧ NamesFunction e.actFunction := by
    decide
  have ahead := introduces_hits (t := plainInput boldRows) (by decide) (by decide +kernel) rfl rfl
    functions
  exact ⟨_, accepted, comments, ahead, (hitCounts_read planned accepted comments ahead).1⟩

/-- **A row is lost** behind a name that ends with a backslash: of two rows the first is read. -/
theorem numbersOf_swallowed {t : TableInput} {first second : DispatchEntry} (name : String)
    (rows : t.rows = [first, second]) (slashed : first.name = name ++ "\\")
    (oneLine : '\n' ∉ name.toList) (safe : StaysInLine second.name)
    (ahead : Introduces ["dispatch_hit_count_table"] (joinLines t.linesAheadOfHits)) :
    numbersOf "dispatch_hit_count_table" (joinLines t.sourceLines) = some [first.hitCount] := by
  refine numbersOf_body ?_ ahead
  have inLine : '\n' ∉ ("    " ++ (Nat.repr second.hitCount ++ ", // " ++ second.name)).toList := by
    have digits := (isWord_repr second.hitCount).oneLine
    rw [Nat.toList_repr] at digits
    simp [String.toList_append, digits, safe.oneLine]
  have apart : ("    " ++ (Nat.repr second.hitCount ++ ", // " ++ second.name)).toList.getLast? ≠
      some '\\' := by
    rw [String.toList_append, String.toList_append, String.toList_append,
      List.getLast?_append_of_ne_nil _ (by simp), List.append_assoc,
      List.getLast?_append_of_ne_nil _ (by simp)]
    exact apart_append (by decide) safe.apart
  have swallowed := reads_swallowed (isWord_repr first.hitCount) oneLine inLine apart
  rw [rows]
  simpa [slashed, cellTokens] using swallowed

/-- Two rows, the first of a component whose name ends with a backslash. -/
def slashedRows : List DispatchEntry := [plainRow "one\\" "one" 1, plainRow "two" "two" 2]

theorem hitCounts_misread : ∃ files,
    generateTables (botOfRows slashedRows) none {} none = .ok files ∧
    slashedRows.map (·.hitCount) = [1, 2] ∧
    numbersOf "dispatch_hit_count_table" files.source = some [1] := by
  have planned : planUseFields (botOfRows slashedRows).entries = .ok {} := rfl
  have accepted := generateTables_eq none {} none (by decide) planned
  have ahead := introduces_hits (t := plainInput slashedRows) (by decide) (by decide +kernel) rfl
    rfl (by decide)
  have misread := numbersOf_swallowed (t := plainInput slashedRows) "one" rfl
    (by decide) (by decide) (by decide) ahead
  exact ⟨_, accepted, rfl, misread⟩

end DispatchTables
