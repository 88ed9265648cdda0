import DispatchTables.Proofs.Tables.Symbols
import Mathlib.Data.List.Basic

/-!
# Reading generated code

Code is read by the lexical rules of C, as far as they matter for tables: a backslash at the end of
a line joins it with the next, two slashes open a comment that ends with the line, and what stands
between quotes or in a comment of the other kind is no code.

## Main Definitions

* `spliced`: a text with its lines joined.
* `scan`: the tokens of a text, and the place in which the reader is left.
* `Reads`: a text is complete code, and these are its tokens.
* `initializer?`: the elements that an array of some name is defined with.

## Main Statements

* `Reads.append`: texts that are complete code can be read one by one.
* `reads_comment`: a comment after code, in a line that nothing joins with the next, is nothing.
-/

namespace DispatchTables

/-! ### The reader -/

/-- A piece of code: a name or a number, something between quotes, or a mark. -/
inductive Token where
  | word (text : String)
  | quoted
  | mark (c : Char)
  deriving DecidableEq

/-- Where a reader stands: in code behind the letters of a word, behind a slash, in a comment of
either kind, behind a star in it, in quotes, or behind a backslash there. -/
inductive Place where
  | code (word : List Char)
  | slash
  | line
  | block
  | star
  | quote (mark : Char)
  | escape (mark : Char)
  deriving DecidableEq

/-- A text with lines joined that a backslash ends. -/
def spliced : List Char → List Char
  | [] => []
  | '\\' :: '\n' :: rest => spliced rest
  | c :: rest => c :: spliced rest

/-- The word that ends here, if there is one. -/
def closeWord (word : List Char) : List Token :=
  if word.isEmpty then [] else [.word (String.ofList word)]

/-- Whether a character stands between tokens. -/
def isGap (c : Char) : Bool := c == ' ' || c == '\t' || c == '\n' || c == '\r'

/-- A character of code, behind the letters of a word. -/
def readCode (word : List Char) (c : Char) : List Token × Place :=
  if isSymbolChar c then ([], .code (word ++ [c]))
  else if c = '/' then (closeWord word, .slash)
  else if c = '"' || c = '\'' then (closeWord word, .quote c)
  else if isGap c then (closeWord word, .code [])
  else (closeWord word ++ [.mark c], .code [])

/-- One character: the tokens that it completes, and the place behind it.  Quotes that are not
closed end with their line. -/
def Place.read (p : Place) (c : Char) : List Token × Place :=
  match p with
  | .code word => readCode word c
  | .slash =>
    if c = '/' then ([], .line)
    else if c = '*' then ([], .block)
    else (.mark '/' :: (readCode [] c).1, (readCode [] c).2)
  | .line => ([], if c = '\n' then .code [] else .line)
  | .block => ([], if c = '*' then .star else .block)
  | .star => ([], if c = '/' then .code [] else if c = '*' then .star else .block)
  | .quote mark =>
    if c = '\\' then ([], .escape mark)
    else if c = mark || c = '\n' then ([.quoted], .code [])
    else ([], .quote mark)
  | .escape mark => ([], .quote mark)

/-- The tokens of a text that is read from a place on, and the place behind it. -/
def scan : Place → List Char → List Token × Place
  | p, [] => ([], p)
  | p, c :: rest => ((p.read c).1 ++ (scan (p.read c).2 rest).1, (scan (p.read c).2 rest).2)

/-- The tokens of a file. -/
def tokensOf (text : String) : List Token := (scan (.code []) (spliced text.toList)).1

/-- What stands between commas; a comma may follow the last element. -/
def elements : List Token → List Token → List (List Token)
  | [], [] => []
  | element, [] => [element]
  | element, t :: rest =>
    if t = .mark ',' then element :: elements [] rest else elements (element ++ [t]) rest

/-- The elements that the array of a name is defined with, where the name is first found. -/
def initializer? (name : String) (ts : List Token) : Option (List (List Token)) :=
  match ts.dropWhile (· != .word name) with
  | _ :: .mark '[' :: _ :: .mark ']' :: .mark '=' :: .mark '\x7b' :: rest =>
    some (elements [] (rest.takeWhile (· != .mark '\x7d')))
  | _ => none

/-- The word that an element is. -/
def word? : List Token → Option String
  | [.word text] => some text
  | _ => none

/-- The words that an array is defined with in a file. -/
def columnOf (name text : String) : Option (List String) :=
  (initializer? name (tokensOf text)).bind (·.mapM word?)

/-! ### Reading in parts -/

theorem scan_append (p : Place) (xs ys : List Char) :
    scan p (xs ++ ys) =
      ((scan p xs).1 ++ (scan (scan p xs).2 ys).1, (scan (scan p xs).2 ys).2) := by
  induction xs generalizing p with
  | nil => rfl
  | cons x xs ih => simp [scan, ih]

theorem spliced_cons {c : Char} {rest : List Char} (h : c = '\\' → rest.head? ≠ some '\n') :
    spliced (c :: rest) = c :: spliced rest := by
  cases rest with
  | nil => simp [spliced]
  | cons d rest =>
    rw [spliced]
    rintro r rfl same
    exact h rfl (by rw [same]; rfl)

theorem spliced_append {xs : List Char} (h : xs.getLast? ≠ some '\\') (ys : List Char) :
    spliced (xs ++ ys) = spliced xs ++ spliced ys := by
  fun_induction spliced xs with
  | case1 => rfl
  | case2 rest ih =>
    have rests : rest.getLast? ≠ some '\\' := by
      cases rest with
      | nil => simp
      | cons d rest => simpa using h
    simpa [spliced] using ih rests
  | case3 c rest other ih =>
    have rests : rest.getLast? ≠ some '\\' := by
      cases rest with
      | nil => simp
      | cons d rest => simpa using h
    rw [List.cons_append, spliced_cons, ih rests, List.cons_append]
    intro isSlash next
    subst isSlash
    cases rest with
    | nil => exact h rfl
    | cons d rest =>
      rw [List.cons_append, List.head?_cons, Option.some.injEq] at next
      exact other rest rfl (by rw [next])

/-- Nothing is joined in a text of one line. -/
theorem spliced_line {cs : List Char} (h : '\n' ∉ cs) : spliced cs = cs := by
  induction cs with
  | nil => rfl
  | cons c rest ih =>
    rw [List.mem_cons, not_or] at h
    rw [spliced_cons, ih h.2]
    intro _ next
    exact h.2 (List.mem_of_head? next)

/-- Nothing joins a text with the next if nothing joins its last part with it. -/
theorem apart_append {xs ys : List Char} (first : xs.getLast? ≠ some '\\')
    (second : ys.getLast? ≠ some '\\') : (xs ++ ys).getLast? ≠ some '\\' := by
  cases ys with
  | nil => simpa using first
  | cons c rest =>
    rw [List.getLast?_append_of_ne_nil _ (by simp)]
    exact second

/-- A text is complete code: the reader is in code again behind it, and nothing joins its last line
with the next. -/
structure Reads (cs : List Char) (ts : List Token) : Prop where
  scans : scan (.code []) (spliced cs) = (ts, .code [])
  apart : cs.getLast? ≠ some '\\'

theorem Reads.nil : Reads [] [] := ⟨rfl, by simp⟩

theorem Reads.append {cs cs' : List Char} {ts ts' : List Token} (h : Reads cs ts)
    (h' : Reads cs' ts') : Reads (cs ++ cs') (ts ++ ts') where
  scans := by rw [spliced_append h.apart, scan_append, h.scans, h'.scans]
  apart := apart_append h.apart h'.apart

/-- Texts that are complete code, one after another. -/
theorem reads_flatMap {α : Type} {text : α → List Char} {tokens : α → List Token} {xs : List α}
    (h : ∀ x ∈ xs, Reads (text x) (tokens x)) : Reads (xs.flatMap text) (xs.flatMap tokens) := by
  induction xs with
  | nil => exact .nil
  | cons x xs ih =>
    exact (h x List.mem_cons_self).append (ih fun y mem => h y (List.mem_cons_of_mem x mem))

/-- What is in complete code comes ahead of what follows it. -/
theorem Reads.tokensOf {ahead behind : String} {ts : List Token} (h : Reads ahead.toList ts) :
    tokensOf (ahead ++ behind) = ts ++ tokensOf behind := by
  rw [DispatchTables.tokensOf, String.toList_append, spliced_append h.apart, scan_append, h.scans]
  rfl

/-! ### Lines -/

/-- A text that may stand in a comment: nothing in it ends the line, and its end does not join the
line with the next. -/
structure StaysInLine (text : String) : Prop where
  oneLine : '\n' ∉ text.toList
  apart : text.toList.getLast? ≠ some '\\'

instance (text : String) : Decidable (StaysInLine text) :=
  decidable_of_iff ('\n' ∉ text.toList ∧ text.toList.getLast? ≠ some '\\')
    ⟨fun h => ⟨h.1, h.2⟩, fun h => ⟨h.oneLine, h.apart⟩⟩

/-- A text of letters, digits and underscores. -/
structure IsWord (text : String) : Prop where
  nonempty : text.toList ≠ []
  letters : ∀ c ∈ text.toList, isSymbolChar c = true

instance (text : String) : Decidable (IsWord text) :=
  decidable_of_iff (text.toList ≠ [] ∧ text.toList.all isSymbolChar = true)
    ⟨fun h => ⟨h.1, List.all_eq_true.mp h.2⟩, fun h => ⟨h.nonempty, List.all_eq_true.mpr h.letters⟩⟩

/-- A line is read as it is written, if nothing joins it with the next. -/
theorem reads_line {cs : List Char} {ts : List Token} (oneLine : '\n' ∉ cs)
    (apart : cs.getLast? ≠ some '\\') (scans : scan (.code []) (cs ++ ['\n']) = (ts, .code [])) :
    Reads (cs ++ ['\n']) ts where
  scans := by rw [spliced_append apart, spliced_line oneLine]; exact scans
  apart := by simp

theorem scan_word {word cs : List Char} (letters : ∀ c ∈ cs, isSymbolChar c = true) :
    scan (.code word) cs = ([], .code (word ++ cs)) := by
  induction cs generalizing word with
  | nil => simp [scan]
  | cons c rest ih =>
    have first : isSymbolChar c = true := letters c List.mem_cons_self
    have others := @ih (word ++ [c]) fun d mem => letters d (List.mem_cons_of_mem c mem)
    simp [scan, Place.read, readCode, first, others]

theorem scan_line {cs : List Char} (oneLine : '\n' ∉ cs) : scan .line cs = ([], .line) := by
  induction cs with
  | nil => rfl
  | cons c rest ih =>
    rw [List.mem_cons, not_or] at oneLine
    have other : c ≠ '\n' := fun same => oneLine.1 same.symm
    simp [scan, Place.read, other, ih oneLine.2]

theorem IsWord.oneLine {text : String} (h : IsWord text) : '\n' ∉ text.toList := by
  intro mem
  have isLetter := h.letters '\n' mem
  revert isLetter
  decide

theorem IsWord.closeWord {text : String} (h : IsWord text) :
    closeWord text.toList = [.word text] := by
  unfold DispatchTables.closeWord
  rw [if_neg (by simpa using h.nonempty), String.ofList_toList]

/-- What may stand between quotes as it is. -/
def IsPlain (text : String) : Prop := ∀ c ∈ text.toList, c ≠ '"' ∧ c ≠ '\\' ∧ c ≠ '\n'

instance (text : String) : Decidable (IsPlain text) :=
  List.decidableBAll (fun c => c ≠ '"' ∧ c ≠ '\\' ∧ c ≠ '\n') text.toList

theorem scan_quote {cs : List Char} (plain : ∀ c ∈ cs, c ≠ '"' ∧ c ≠ '\\' ∧ c ≠ '\n') :
    scan (.quote '"') cs = ([], .quote '"') := by
  induction cs with
  | nil => rfl
  | cons c rest ih =>
    obtain ⟨quote, slash, newline⟩ := plain c List.mem_cons_self
    have others := ih fun d mem => plain d (List.mem_cons_of_mem c mem)
    simp [scan, Place.read, quote, slash, newline, others]

/-- A line that is a comment. -/
theorem reads_commentLine {opening comment : String}
    (opens : scan (.code []) opening.toList = ([], .line)) (openLine : StaysInLine opening)
    (safe : StaysInLine comment) : Reads ((opening ++ comment).toList ++ ['\n']) [] := by
  rw [String.toList_append]
  apply reads_line
  · simp [openLine.oneLine, safe.oneLine]
  · exact apart_append openLine.apart safe.apart
  · rw [List.append_assoc, scan_append, opens, scan_append, scan_line safe.oneLine]
    rfl

/-- A word, indented, and a comma. -/
theorem scan_cell {text : String} (h : IsWord text) (rest : List Char) :
    scan (.code []) ("    ".toList ++ text.toList ++ ',' :: rest) =
      (.word text :: .mark ',' :: (scan (.code []) rest).1, (scan (.code []) rest).2) := by
  have indented : scan (.code []) "    ".toList = ([], .code []) := by decide
  have comma : Place.read (.code text.toList) ',' = ([.word text, .mark ','], .code []) := by
    have marks : readCode text.toList ',' = (DispatchTables.closeWord text.toList ++ [.mark ','],
        .code []) := rfl
    rw [Place.read, marks, h.closeWord]
    rfl
  rw [List.append_assoc, scan_append, indented, scan_append, scan_word h.letters, scan]
  dsimp only [List.nil_append]
  rw [comma]
  rfl

/-- A line with a word, a comma and a comment. -/
theorem reads_comment {text comment : String} (h : IsWord text) (safe : StaysInLine comment) :
    Reads (("    " ++ (text ++ ", // " ++ comment)).toList ++ ['\n'])
      [.word text, .mark ','] := by
  have chars : ("    " ++ (text ++ ", // " ++ comment)).toList =
      "    ".toList ++ text.toList ++ ',' :: (" // ".toList ++ comment.toList) := by
    simp [String.toList_append]
  rw [chars]
  apply reads_line
  · simp [h.oneLine, safe.oneLine]
  · rw [List.getLast?_append_of_ne_nil _ (by simp)]
    have opening : (',' :: " // ".toList).getLast? ≠ some '\\' := by decide
    exact apart_append opening safe.apart
  · have opened : scan (.code []) " // ".toList = ([], .line) := by decide
    rw [List.append_assoc, List.cons_append, scan_cell h, List.append_assoc, scan_append, opened,
      scan_append, scan_line safe.oneLine]
    rfl

/-- A backslash at the end of a line joins it with what follows. -/
theorem spliced_joined {cs : List Char} (oneLine : '\n' ∉ cs) (rest : List Char) :
    spliced (cs ++ '\\' :: '\n' :: rest) = cs ++ spliced rest := by
  induction cs with
  | nil => rw [List.nil_append, spliced, List.nil_append]
  | cons c cs ih =>
    rw [List.mem_cons, not_or] at oneLine
    rw [List.cons_append, spliced_cons, ih oneLine.2, List.cons_append]
    intro _ next
    cases cs with
    | nil => simp at next
    | cons d cs =>
      rw [List.cons_append, List.head?_cons, Option.some.injEq] at next
      exact oneLine.2 (by rw [next]; exact List.mem_cons_self)

/-- **A comment that a backslash ends** goes on in the next line, whatever is there. -/
theorem reads_swallowed {text comment : String} {next : List Char} (h : IsWord text)
    (oneLine : '\n' ∉ comment.toList) (nextLine : '\n' ∉ next) (apart : next.getLast? ≠ some '\\') :
    Reads (("    " ++ (text ++ ", // " ++ (comment ++ "\\"))).toList ++ ['\n'] ++ (next ++ ['\n']))
      [.word text, .mark ','] where
  scans := by
    have chars : ("    " ++ (text ++ ", // " ++ (comment ++ "\\"))).toList ++ ['\n'] ++
        (next ++ ['\n']) =
          ("    ".toList ++ text.toList ++ ',' :: (" // ".toList ++ comment.toList)) ++
            '\\' :: '\n' :: (next ++ ['\n']) := by
      simp [String.toList_append]
    have joined :
        '\n' ∉ "    ".toList ++ text.toList ++ ',' :: (" // ".toList ++ comment.toList) := by
      simp [h.oneLine, oneLine]
    have opened : scan (.code []) " // ".toList = ([], .line) := by decide
    rw [chars, spliced_joined joined, spliced_append apart, spliced_line nextLine,
      List.append_assoc, List.cons_append, scan_cell h, List.append_assoc, scan_append, opened,
      scan_append, scan_line oneLine, scan_append, scan_line nextLine]
    rfl
  apart := by
    rw [List.getLast?_append_of_ne_nil _ (by simp)]
    simp

/-- A line with a word and a comma. -/
theorem reads_cell {text : String} (h : IsWord text) :
    Reads (("    " ++ (text ++ ",")).toList ++ ['\n']) [.word text, .mark ','] := by
  have chars : ("    " ++ (text ++ ",")).toList = "    ".toList ++ text.toList ++ [','] := by
    simp [String.toList_append]
  rw [chars]
  apply reads_line
  · simp [h.oneLine]
  · rw [List.getLast?_append_of_ne_nil _ (by simp)]
    decide
  · rw [List.append_assoc, List.singleton_append, scan_cell h]
    rfl

/-! ### Words -/

/-- An identifier is a word. -/
theorem isWord_of_isCIdentifier {text : String} (h : isCIdentifier text = true) : IsWord text := by
  have symbol := isCIdentifier_iff.mp h
  refine ⟨?_, symbol.letters⟩
  obtain ⟨c, rest, chars, -⟩ := symbol
  rw [chars]
  exact List.cons_ne_nil c rest

/-- A number is a word. -/
theorem isWord_repr (n : Nat) : IsWord (Nat.repr n) where
  nonempty := by
    rw [Nat.toList_repr]
    exact Nat.toDigits_ne_nil
  letters := isSymbolChar_of_mem_repr n

end DispatchTables
