import DispatchTables.Proofs.Json.Compact
import DispatchTables.Proofs.Tables.Columns
import DispatchTables.Proofs.Tables.Literals
import DispatchTables.Proofs.Tables.Pieces

/-!
# What introduces the tables

Ahead of the tables stand values from documents: what variables are set to, and what records hold.
Their literals do no harm, whatever the values are.  Quotes that a literal opens are closed in it,
and outside of quotes there is no underscore, so that no table is named there.  Harm can come from
names and lines alone, which are printed as documents give them.

## Main Definitions

* `Inert`: code in which nothing is left open and no table is named.
* `Clear`: such code up to the end of a token, with names in it.
* `DispatchEntry.IsOrderly`: a row whose names and lines do no harm.

## Main Statements

* `inert_cLiteral`: literals are inert.
* `introduces_linesAhead`: what is ahead of the tables is complete code without their names.
* `tables_read`: the tables hold what orderly rows say.
-/

namespace DispatchTables

variable {cs cs' : List Char}

/-! ### Literals -/

/-- Code within a line that leaves nothing open but a word.  There is no underscore in the words it
completes, nor in the one that it ends in, if there is none in the word that it goes on with. -/
structure Inert (cs : List Char) : Prop where
  oneLine : '\n' ∉ cs
  reads : ∀ word, '_' ∉ word → ∃ ts word', scan (.code word) cs = (ts, .code word') ∧
    '_' ∉ word' ∧ ∀ text, .word text ∈ ts → '_' ∉ text.toList

theorem Inert.nil : Inert [] :=
  ⟨List.not_mem_nil, fun word free => ⟨[], word, rfl, free, by simp⟩⟩

theorem Inert.append (h : Inert cs) (h' : Inert cs') : Inert (cs ++ cs') where
  oneLine := by simp [h.oneLine, h'.oneLine]
  reads word free := by
    obtain ⟨ts, between, scans, freeBetween, words⟩ := h.reads word free
    obtain ⟨ts', word', scans', free', words'⟩ := h'.reads between freeBetween
    refine ⟨ts ++ ts', word', by rw [scan_append, scans, scans'], free', fun text mem => ?_⟩
    exact (List.mem_append.mp mem).elim (words text) (words' text)

/-- A word that ends is the one that has been read. -/
theorem toList_of_mem_closeWord {word : List Char} {text : String}
    (mem : .word text ∈ closeWord word) : text.toList = word := by
  unfold closeWord at mem
  split at mem
  · cases mem
  · cases List.mem_singleton.mp mem
    exact String.toList_ofList

/-- What may stand in code by itself: it opens neither quotes nor a comment. -/
def isInertChar (c : Char) : Bool := !(['_', '/', '"', '\'', '\n'].contains c)

theorem inert_char {c : Char} (h : isInertChar c = true) : Inert [c] := by
  obtain ⟨underscore, slash, quote, apostrophe, newline⟩ :
      c ≠ '_' ∧ c ≠ '/' ∧ c ≠ '"' ∧ c ≠ '\'' ∧ c ≠ '\n' := by simpa [isInertChar] using h
  refine ⟨by simpa using newline.symm, fun word free => ?_⟩
  have closed : ∀ text, .word text ∈ closeWord word → '_' ∉ text.toList := fun text mem => by
    rwa [toList_of_mem_closeWord mem]
  have reads : scan (.code word) [c] =
      if isSymbolChar c then ([], .code (word ++ [c]))
      else if isGap c then (closeWord word, .code [])
      else (closeWord word ++ [.mark c], .code []) := by
    simp [scan, Place.read, readCode, slash, quote, apostrophe]
  rw [reads]
  split_ifs
  · exact ⟨[], word ++ [c], rfl, by simp [free, underscore.symm], by simp⟩
  · exact ⟨_, [], rfl, List.not_mem_nil, closed⟩
  · refine ⟨_, [], rfl, List.not_mem_nil, fun text mem => ?_⟩
    rcases List.mem_append.mp mem with early | mark
    · exact closed text early
    · cases List.mem_singleton.mp mark

theorem inert_of_chars (h : ∀ c ∈ cs, isInertChar c = true) : Inert cs := by
  induction cs with
  | nil => exact .nil
  | cons c rest ih =>
    obtain ⟨first, others⟩ := List.forall_mem_cons.mp h
    exact (inert_char first).append (ih others)

/-- Numbers are inert. -/
theorem inert_of_number (h : ∀ c ∈ cs, isNumberChar c = true) : Inert cs := by
  refine inert_of_chars fun c mem => ?_
  have number := h c mem
  have other (mark : Char) (none_ : isNumberChar mark = false) : c ≠ mark := by
    rintro rfl
    rw [none_] at number
    cases number
  simp [isInertChar, other '_' rfl, other '/' rfl, other '"' rfl, other '\'' rfl, other '\n' rfl]

/-! ### Strings -/

/-- What may stand between quotes. -/
structure Quotable (cs : List Char) : Prop where
  oneLine : '\n' ∉ cs
  scans : scan (.quote '"') cs = ([], .quote '"')

instance (cs : List Char) : Decidable (Quotable cs) :=
  decidable_of_iff ('\n' ∉ cs ∧ scan (.quote '"') cs = ([], .quote '"'))
    ⟨fun h => ⟨h.1, h.2⟩, fun h => ⟨h.oneLine, h.scans⟩⟩

/-- A character that needs no escape. -/
theorem quotable_plain {c : Char} (plain : c ≠ '"' ∧ c ≠ '\\' ∧ c ≠ '\n') : Quotable [c] :=
  ⟨by simpa using plain.2.2.symm, scan_quote (by simpa using plain)⟩

theorem quotable_flatMap {written : Char → List Char} (each : ∀ c, Quotable (written c))
    (text : List Char) : Quotable (text.flatMap written) := by
  induction text with
  | nil => exact ⟨List.not_mem_nil, rfl⟩
  | cons c rest ih =>
    rw [List.flatMap_cons]
    exact ⟨by simp only [List.mem_append, (each c).oneLine, ih.oneLine, or_self, not_false_eq_true],
      by rw [scan_append, (each c).scans, ih.scans]; rfl⟩

/-- Quotes that are closed are inert, whatever stands between them. -/
theorem Quotable.inert (h : Quotable cs) : Inert ('"' :: (cs ++ ['"'])) where
  oneLine := by simp [h.oneLine]
  reads word free := by
    have opens : Place.read (.code word) '"' = (closeWord word, .quote '"') := rfl
    have closes : scan (.quote '"') ['"'] = ([.quoted], .code []) := rfl
    refine ⟨closeWord word ++ [.quoted], [], ?_, List.not_mem_nil, fun text mem => ?_⟩
    · rw [scan, opens, scan_append, h.scans, closes]
      rfl
    · rcases List.mem_append.mp mem with early | quoted
      · rwa [toList_of_mem_closeWord early]
      · cases List.mem_singleton.mp quoted

theorem quotable_cStringChar (c : Char) : Quotable (cStringChar c) := by
  by_cases control : c.toNat < 0x20
  · exact forall_control (p := fun c => Quotable (cStringChar c)) (by decide +kernel) control
  · unfold cStringChar
    split_ifs with quote slash newline
    · decide
    · decide
    · decide
    · decide
    · decide
    · exact quotable_plain ⟨quote, slash, newline⟩

theorem quotable_escapeChar (c : Char) : Quotable (Json.escapeChar c) := by
  have escaped : ∀ c ∈ escapedChars, Quotable (Json.escapeChar c) :=
    Text.forall_mem_of_all (by decide +kernel)
  by_cases mem : c ∈ escapedChars
  · exact escaped c mem
  · rw [escapeChar_of_not_mem mem]
    refine quotable_plain ⟨?_, ?_, ?_⟩ <;> (rintro rfl; exact mem (by decide +kernel))

/-! ### Values -/

theorem inert_commaTexts {α : Type} {text : α → List Char} {xs : List α}
    (each : ∀ x ∈ xs, Inert (text x)) : Inert (commaTexts text xs) := by
  induction xs with
  | nil => exact .nil
  | cons x rest ih =>
    obtain ⟨first, others⟩ := List.forall_mem_cons.mp each
    rw [commaTexts_cons]
    exact (inert_char (c := ',') rfl).append (first.append (ih others))

/-- Parts between brackets are inert if each is. -/
theorem inert_listTexts {α : Type} {text : α → List Char} {xs : List α} {opening closing : Char}
    (brackets : isInertChar opening = true ∧ isInertChar closing = true)
    (each : ∀ x ∈ xs, Inert (text x)) : Inert (opening :: (listTexts text xs ++ [closing])) := by
  have inside : Inert (listTexts text xs) := by
    cases xs with
    | nil => exact .nil
    | cons x rest =>
      obtain ⟨first, others⟩ := List.forall_mem_cons.mp each
      exact first.append (inert_commaTexts others)
  exact (inert_char brackets.1).append (inside.append (inert_char brackets.2))

theorem inert_stringText (s : String) : Inert (Json.stringText s).toList := by
  rw [toList_stringText]
  exact (quotable_flatMap quotable_escapeChar s.toList).inert

/-- **A value in its compact form is inert.** -/
theorem inert_chars (v : Json) : Inert v.chars := by
  induction v using Json.inductionOn with
  | null => exact inert_of_chars (List.all_eq_true.mp (by decide +kernel))
  | bool b => cases b <;> exact inert_of_chars (List.all_eq_true.mp (by decide +kernel))
  | number n => exact inert_of_number n.text_run.1
  | string s => exact inert_stringText s
  | array items ih =>
    rw [Json.chars_array]
    exact inert_listTexts ⟨rfl, rfl⟩ ih
  | object members ih =>
    rw [Json.chars_object]
    refine inert_listTexts ⟨rfl, rfl⟩ fun m mem => ?_
    exact (inert_stringText m.1).append ((inert_char (c := ':') rfl).append (ih m mem))

/-- **Literals are inert**, of whatever type and value. -/
theorem inert_cLiteral (type : NativeType) (value : Json) : Inert (cLiteral type value).toList := by
  unfold cLiteral
  split
  · rw [toList_cString]
    exact (quotable_flatMap quotable_cStringChar _).inert
  · rename_i n
    rw [cFloat, String.toList_append]
    exact (inert_of_number n.toDouble.plainText_run).append (inert_char (c := 'f') rfl)
  · exact inert_chars _

/-- A text that opens a comment, names a table and ends with a backslash is just quoted. -/
example : scan (.code []) (cLiteral .text (.string "/* dispatch_act_table\\")).toList =
    ([.quoted], .code []) := by
  decide +kernel

/-! ### Lines -/

/-- The names of the tables. -/
def tableNames : List String :=
  ["dispatch_init_table", "dispatch_act_table", "dispatch_hit_count_table"]

/-- A word that may stand ahead of the tables. -/
def IsNew (name : String) : Prop := IsWord name ∧ name ∉ tableNames

instance (name : String) : Decidable (IsNew name) := inferInstanceAs (Decidable (_ ∧ _))

/-- Code within a line, up to the end of a token, that names no table. -/
structure Clear (cs : List Char) : Prop where
  oneLine : '\n' ∉ cs
  apart : cs.getLast? ≠ some '\\'
  reads : ∃ ts, scan (.code []) cs = (ts, .code []) ∧ ∀ name ∈ tableNames, .word name ∉ ts

instance (cs : List Char) : Decidable (Clear cs) :=
  decidable_of_iff ('\n' ∉ cs ∧ cs.getLast? ≠ some '\\' ∧ (scan (.code []) cs).2 = .code [] ∧
      ∀ name ∈ tableNames, .word name ∉ (scan (.code []) cs).1) <| by
    constructor
    · rintro ⟨oneLine, apart, complete, new⟩
      exact ⟨oneLine, apart, _, Prod.ext rfl complete, new⟩
    · rintro ⟨oneLine, apart, ts, scans, new⟩
      rw [scans]
      exact ⟨oneLine, apart, rfl, new⟩

theorem Clear.append (h : Clear cs) (h' : Clear cs') : Clear (cs ++ cs') where
  oneLine := by simp [h.oneLine, h'.oneLine]
  apart := apart_append h.apart h'.apart
  reads := by
    obtain ⟨ts, scans, new⟩ := h.reads
    obtain ⟨ts', scans', new'⟩ := h'.reads
    refine ⟨ts ++ ts', by rw [scan_append, scans, scans'], fun name mem => ?_⟩
    rw [List.mem_append, not_or]
    exact ⟨new name mem, new' name mem⟩

/-- Whether a character is a mark of its own, behind which a new token begins. -/
def Separates (mark : Char) : Prop := mark ≠ '\n' ∧ mark ≠ '\\' ∧ ∀ word,
  Place.read (.code word) mark = (closeWord word ++ [.mark mark], .code [])

/-- A literal and the mark behind it. -/
theorem Inert.clear (h : Inert cs) {mark : Char} (ends : Separates mark) :
    Clear (cs ++ [mark]) where
  oneLine := by simp [h.oneLine, ends.1.symm]
  apart := by simpa using ends.2.1
  reads := by
    obtain ⟨ts, word, scans, free, words⟩ := h.reads [] List.not_mem_nil
    refine ⟨ts ++ (closeWord word ++ [.mark mark]), ?_, fun name isTable named => ?_⟩
    · rw [scan_append, scans, scan, ends.2.2]
      simp [scan]
    · have underscored : ∀ name ∈ tableNames, '_' ∈ name.toList := by decide +kernel
      rcases List.mem_append.mp named with inside | behind
      · exact words name inside (underscored name isTable)
      · rcases List.mem_append.mp behind with last | isMark
        · exact free (toList_of_mem_closeWord last ▸ underscored name isTable)
        · cases List.mem_singleton.mp isMark

/-- A name, with a blank behind it. -/
theorem IsNew.clear {name : String} (new : IsNew name) : Clear (name.toList ++ [' ']) where
  oneLine := by simp [new.1.oneLine]
  apart := by simp
  reads := by
    have blank : Place.read (.code name.toList) ' ' = (closeWord name.toList, .code []) := rfl
    refine ⟨[.word name], ?_, fun table isTable named => ?_⟩
    · rw [scan_append, scan_word new.1.letters]
      simp only [List.nil_append, scan, blank, new.1.closeWord]
      rfl
    · cases List.mem_singleton.mp named
      exact new.2 isTable

theorem Introduces.append {names : List String} {text more : String} (h : Introduces names text)
    (h' : Introduces names more) : Introduces names (text ++ more) := by
  obtain ⟨ts, reads, new⟩ := h
  obtain ⟨ts', reads', new'⟩ := h'
  refine ⟨ts ++ ts', by rw [String.toList_append]; exact reads.append reads', ?_⟩
  intro name mem
  rw [List.mem_append, not_or]
  exact ⟨new name mem, new' name mem⟩

/-- Lines are complete code if each of them is. -/
theorem introduces_joinLines {names : List String} {lines : List String}
    (each : ∀ line ∈ lines, Introduces names (line ++ "\n")) :
    Introduces names (joinLines lines) := by
  induction lines with
  | nil => exact ⟨[], .nil, fun _ _ => List.not_mem_nil⟩
  | cons line rest ih =>
    obtain ⟨first, others⟩ := List.forall_mem_cons.mp each
    have lines : joinLines (line :: rest) = line ++ "\n" ++ joinLines rest :=
      String.toList_inj.mp (by simp [toList_joinLines, String.toList_append])
    rw [lines]
    exact first.append (ih others)

/-- A line that is clear to its end. -/
theorem Clear.introduces {line : String} (h : Clear line.toList) :
    Introduces tableNames (line ++ "\n") := by
  obtain ⟨ts, scans, new⟩ := h.reads
  have ends : scan (.code []) ['\n'] = ([], .code []) := by decide
  refine ⟨ts, ?_, new⟩
  rw [String.toList_append]
  refine reads_line h.oneLine h.apart ?_
  rw [scan_append, scans, ends, List.append_nil]

/-- A line that is clear up to a comment. -/
theorem Clear.introduces_commented {line comment : String} (h : Clear line.toList)
    (safe : StaysInLine comment) :
    Introduces tableNames (line ++ " // " ++ comment ++ "\n") := by
  obtain ⟨ts, scans, new⟩ := h.reads
  have opened : scan (.code []) " // ".toList = ([], .line) := by decide
  refine ⟨ts, ?_, new⟩
  simp only [String.toList_append]
  apply reads_line
  · simp [h.oneLine, safe.oneLine]
  · have slashes : (line.toList ++ " // ".toList).getLast? ≠ some '\\' := by simp
    exact apart_append slashes safe.apart
  · rw [List.append_assoc, List.append_assoc, scan_append, scans, scan_append, opened, scan_append,
      scan_line safe.oneLine]
    simp [scan, Place.read]

/-! ### What is ahead of the tables -/

theorem separates_comma : Separates ',' := ⟨by decide, by decide, fun _ => rfl⟩

theorem separates_semicolon : Separates ';' := ⟨by decide, by decide, fun _ => rfl⟩

/-- A name that is given a value. -/
theorem IsNew.clear_set {name : String} (new : IsNew name) {mark : Char} (ends : Separates mark)
    (type : NativeType) (value : Json) :
    Clear (name.toList ++ " = ".toList ++ (cLiteral type value).toList ++ [mark]) := by
  have equals : Clear "= ".toList := by decide
  simpa using new.clear.append (equals.append ((inert_cLiteral type value).clear ends))

namespace TableInput

/-- The declaration of a variable. -/
theorem introduces_variable {d : UseField} (new : IsNew d.symbol) (safe : StaysInLine d.component) :
    Introduces tableNames (d.type.cType ++ " " ++ setLine d ++ "\n") := by
  have type : Clear (d.type.cType ++ " ").toList := by cases d.type <;> decide +kernel
  have set := type.append (new.clear_set separates_semicolon d.type d.value)
  have clear : Clear (d.type.cType ++ " " ++ d.symbol ++ " = " ++ cLiteral d.type d.value ++
      ";").toList := by
    simpa [String.toList_append] using set
  have text : d.type.cType ++ " " ++ setLine d = d.type.cType ++ " " ++ d.symbol ++ " = " ++
      cLiteral d.type d.value ++ ";" ++ " // " ++ d.component := by
    apply String.toList_inj.mp
    simp [setLine, String.toList_append]
  rw [text]
  exact clear.introduces_commented safe

/-- The definition of a record. -/
theorem introduces_record {x : Expansion} (new : ∀ name ∈ recordNames x, IsNew name) :
    Introduces tableNames (joinLines (configDefinition x)) := by
  obtain ⟨struct, record, fields⟩ : IsNew x.structName ∧ IsNew x.instanceName ∧
      ∀ f ∈ x.fields, IsNew f.name := by simpa [recordNames] using new
  refine introduces_joinLines fun line mem => Clear.introduces ?_
  simp only [configDefinition, paragraph, List.mem_append, List.mem_cons, List.mem_map,
    List.not_mem_nil, or_false] at mem
  rcases mem with ((rfl | ⟨f, inFields, rfl⟩) | rfl) | rfl
  · have const : Clear "const ".toList := by decide
    have brace : Clear "= \x7b".toList := by decide
    simpa [String.toList_append] using
      const.append (struct.clear.append (record.clear.append brace))
  · have point : Clear "    .".toList := by decide
    simpa [String.toList_append] using
      point.append ((fields f inFields).clear_set separates_comma f.type f.value)
  · decide
  · decide

/-- **What is ahead of the tables** is complete code in which they are not named, if that is so of
the preprocessor lines, and the names in comments stay in their lines. -/
theorem introduces_linesAhead {t : TableInput} (root : StaysInLine t.root)
    (header : IsPlain t.names.header)
    (directives : ∀ line ∈ t.useFields.directives, Introduces tableNames (line ++ "\n"))
    (declared : ∀ d ∈ t.useFields.declarations, IsNew d.symbol ∧ StaysInLine d.component)
    (records : ∀ x ∈ t.configs, ∀ name ∈ recordNames x, IsNew name) :
    Introduces tableNames (joinLines t.linesAhead) := by
  have front : Introduces tableNames (joinLines t.frontLines) :=
    ⟨_, reads_frontLines root header, by decide⟩
  have paragraphs {lines : List String}
      (each : ∀ line ∈ lines, Introduces tableNames (line ++ "\n")) :
      Introduces tableNames (joinLines (optionalParagraph lines)) := by
    refine introduces_joinLines fun line mem => ?_
    unfold optionalParagraph paragraph at mem
    split at mem
    · cases mem
    · rcases List.mem_append.mp mem with own | last
      · exact each line own
      · cases List.mem_singleton.mp last
        exact Clear.introduces (by decide)
  have variables_ : Introduces tableNames (joinLines t.variableDefinitions) := by
    refine paragraphs fun line mem => ?_
    obtain ⟨d, own, rfl⟩ := List.mem_map.mp mem
    exact introduces_variable (declared d own).1 (declared d own).2
  have recorded : Introduces tableNames (joinLines (t.configs.flatMap configDefinition)) := by
    generalize t.configs = configs at records
    induction configs with
    | nil => exact introduces_joinLines (by simp)
    | cons x rest ih =>
      obtain ⟨first, others⟩ := List.forall_mem_cons.mp records
      rw [List.flatMap_cons, joinLines_append]
      exact (introduces_record first).append (ih others)
  have lines : t.linesAhead = t.frontLines ++ optionalParagraph t.useFields.directives ++
      t.variableDefinitions ++ t.configs.flatMap configDefinition := rfl
  rw [lines, joinLines_append, joinLines_append, joinLines_append]
  exact ((front.append (paragraphs directives)).append variables_).append recorded

end TableInput

/-! ### Orderly rows -/

/-- **A row that does no harm.**  Its name stays in its comments, its functions are identifiers, its
preprocessor lines are complete code, and nothing in it is called like a table. -/
structure DispatchEntry.IsOrderly (e : DispatchEntry) : Prop where
  name : StaysInLine e.name
  functions : NamesFunction e.initFunction ∧ NamesFunction e.actFunction
  directives : ∀ f ∈ e.useFields, ∀ line, isDirectiveKey f.1 = true → f.2.asString? = some line →
    Introduces tableNames (line ++ "\n")
  fields : ∀ f ∈ e.useFields, f.1 ∉ tableNames
  records : ∀ x ∈ e.config, ∀ name ∈ TableInput.recordNames x, IsNew name

section Orderly

variable {rows : List DispatchEntry} {plan : UseFieldPlan}

theorem mem_useFieldEntries {e : UseFieldEntry} (mem : e ∈ useFieldEntries rows) :
    ∃ row ∈ rows, e.component = row.name ∧ (e.key, e.value) ∈ row.useFields := by
  obtain ⟨row, inRows, own⟩ := List.mem_flatMap.mp mem
  obtain ⟨f, inFields, rfl⟩ := List.mem_map.mp own
  exact ⟨row, inRows, rfl, inFields⟩

/-- The preprocessor lines of a plan are lines of its rows. -/
theorem introduces_directives (orderly : ∀ e ∈ rows, e.IsOrderly)
    (planned : planUseFields rows = .ok plan) :
    ∀ line ∈ plan.directives, Introduces tableNames (line ++ "\n") := by
  intro line mem
  rw [(plans_of_planned planned).lines, List.mem_eraseDups] at mem
  obtain ⟨e, own, text⟩ := List.mem_filterMap.mp mem
  obtain ⟨entry, isLine⟩ := List.mem_filter.mp own
  obtain ⟨row, inRows, -, inFields⟩ := mem_useFieldEntries entry
  exact (orderly row inRows).directives _ inFields line isLine text

/-- The variables of a plan are those of its rows, and each is declared by one of them. -/
theorem isNew_declarations (orderly : ∀ e ∈ rows, e.IsOrderly)
    (planned : planUseFields rows = .ok plan) :
    ∀ d ∈ plan.declarations, IsNew d.symbol ∧ StaysInLine d.component := by
  intro d mem
  have plans := plans_of_planned planned
  have symbol : IsSymbol d.symbol := isSymbol_of_planned planned d (List.mem_append_left _ mem)
  obtain ⟨e, declares, type, -, rfl⟩ := exists_of_forall₂ plans.declares.flip mem
  have entry : e ∈ useFieldEntries rows :=
    (List.mem_filter.mp (mem_of_setting (List.mem_append_left _ declares))).1
  obtain ⟨row, inRows, named, inFields⟩ := mem_useFieldEntries entry
  refine ⟨⟨isWord_of_isCIdentifier (isCIdentifier_iff.mpr symbol), ?_⟩, ?_⟩
  · exact (orderly row inRows).fields _ inFields
  · exact named ▸ (orderly row inRows).name

end Orderly

/-- **The tables of orderly rows are read as they were meant**: whatever values the rows set and
configure, the table of hit counts holds their hit counts, and the others hold their functions. -/
theorem tables_read {t : Traversal} {pins : Option PinReport} {names : TableNames}
    {provenance : Option Provenance} {files : TableFiles} (root : StaysInLine t.root)
    (header : IsPlain names.header) (orderly : ∀ e ∈ t.entries, e.IsOrderly)
    (accepted : generateTables t pins names provenance = .ok files) :
    numbersOf "dispatch_hit_count_table" files.source = some (t.entries.map (·.hitCount)) ∧
      columnOf "dispatch_init_table" files.source = some (t.entries.map (·.initFunction)) ∧
      columnOf "dispatch_act_table" files.source = some (t.entries.map (·.actFunction)) := by
  obtain ⟨plan, planned, rfl⟩ := generateTables_eq_ok accepted
  dsimp only
  obtain ⟨input, isInput⟩ : ∃ input : TableInput,
      input = ⟨names, provenance, pins, t.root, t.entries, plan⟩ := ⟨_, rfl⟩
  have rows : t.entries = input.rows := by rw [isInput]
  have ahead : Introduces tableNames (joinLines input.linesAhead) := by
    refine TableInput.introduces_linesAhead (by rwa [isInput]) (by rwa [isInput]) ?_ ?_ ?_
    · rw [isInput]
      exact introduces_directives orderly planned
    · rw [isInput]
      exact isNew_declarations orderly planned
    · intro x mem
      rw [TableInput.configs, ← rows] at mem
      obtain ⟨e, inRows, configured⟩ := List.mem_filterMap.mp mem
      exact (orderly e inRows).records x configured
  rw [← isInput, rows]
  rw [rows] at orderly
  obtain ⟨ts, reads, new⟩ := ahead
  have functions : ∀ e ∈ input.rows, NamesFunction e.initFunction ∧ NamesFunction e.actFunction :=
    fun e mem => (orderly e mem).functions
  have hits := introduces_hits_of_reads reads (new _ (by decide)) functions
  have others : Introduces ["dispatch_init_table", "dispatch_act_table"]
      (joinLines input.linesAhead) :=
    ⟨ts, reads, List.forall_mem_cons.mpr ⟨new _ (by decide),
      List.forall_mem_singleton.mpr (new _ (by decide))⟩⟩
  exact ⟨numbersOf_hits (fun e mem => (orderly e mem).name) hits,
    columnOf_functions functions others⟩

/-- A row that sets and configures nothing is orderly. -/
theorem isOrderly_of_isBare {e : DispatchEntry} (bare : IsBare e) : e.IsOrderly := by
  obtain ⟨⟨noFields, noConfig⟩, name, functions⟩ := bare
  have none_ : e.useFields = [] := List.isEmpty_iff.mp noFields
  refine ⟨name, functions, ?_, ?_, ?_⟩
  · rw [none_]
    nofun
  · rw [none_]
    nofun
  · intro x configured
    rw [Option.isNone_iff_eq_none.mp noConfig] at configured
    cases configured

/-- **The hit counts of rows that set and configure nothing** are read back from the source. -/
theorem numbersOf_generated {t : Traversal} {pins : Option PinReport} {names : TableNames}
    {provenance : Option Provenance} {files : TableFiles} (root : StaysInLine t.root)
    (header : IsPlain names.header) (bare : ∀ e ∈ t.entries, IsBare e)
    (accepted : generateTables t pins names provenance = .ok files) :
    numbersOf "dispatch_hit_count_table" files.source = some (t.entries.map (·.hitCount)) :=
  (tables_read root header (fun e mem => isOrderly_of_isBare (bare e mem)) accepted).1

end DispatchTables
