import DispatchTables.Proofs.Text.Runs
import DispatchTables.Reference
import Mathlib.Data.List.Basic

/-!
# The spellings of references

The grammar of references leaves the writer some freedom: blanks may stand around a reference, ahead
of its arguments and around each of them, and nowhere else.  A spelling is a choice of these blanks
together with a name and arguments.  References are read from their spellings and from no other
text, and a text has one spelling at most.

## Main Definitions

* `Blanks`, `Name`, `Word`: texts of one class, with what makes them so.
* `Padded`, `Group`, `Spelling`: an argument, the bracketed arguments and a reference as written.
* `Spelling.text`, `Spelling.reference`: the text of a spelling and what it says.
* `Spelling.tight`: the spelling without blanks.

## Main Statements

* `parse?_text`: what is spelled is read.
* `exists_spelling`: what is read is spelled.
* `Spelling.text_injective`: a text has one spelling.
* `Spelling.toList_display`: the display of a reference is its spelling without blanks.
* `parse?_grammar`: references are read by their grammar.
-/

namespace DispatchTables.Reference

open Text

/-! ### Characters of references -/

theorem not_isNameChar_of_isBlank {c : Char} (h : isBlank c = true) : isNameChar c = false := by
  have others : ∀ d ∈ ['_', '-', '.', '/', '\\'], (c == d) = false := by
    intro d mem
    refine beq_eq_false_iff_ne.mpr ?_
    rintro rfl
    have visible : ['_', '-', '.', '/', '\\'].all (fun d => !isBlank d) = true := by decide
    simpa [h] using List.all_eq_true.mp visible c mem
  simp [isNameChar, not_isAlphanumeric_of_isBlank h, others]

/-- A character that neither begins nor goes on with an identifier is in none. -/
theorem not_mem_of_isIdentifier {cs : List Char} (h : isIdentifier cs = true) {c : Char}
    (start : startsIdentifier c = false) (continues : continuesIdentifier c = false) :
    c ∉ cs := by
  intro mem
  cases cs with
  | nil => cases h
  | cons d rest =>
    obtain ⟨begins, goesOn⟩ := Bool.and_eq_true_iff.mp h
    rcases List.mem_cons.mp mem with rfl | later
    · rw [start] at begins
      cases begins
    · rw [List.all_eq_true.mp goesOn c later] at continues
      cases continues

/-! ### Spellings -/

/-- Blanks, or nothing. -/
@[ext] structure Blanks where
  chars : List Char
  blank : AllBlank chars

/-- No blanks. -/
def Blanks.none : Blanks := ⟨[], allBlank_nil⟩

/-- The name of a component. -/
@[ext] structure Name where
  chars : List Char
  nonempty : chars ≠ []
  letters : ∀ c ∈ chars, isNameChar c = true

/-- An identifier. -/
@[ext] structure Word where
  chars : List Char
  identifier : isIdentifier chars = true

/-- An argument with the blanks around it. -/
@[ext] structure Padded where
  before : Blanks
  word : Word
  after : Blanks

/-- Arguments between brackets, one at least, with the blanks ahead of the opening one. -/
@[ext] structure Group where
  gap : Blanks
  first : Padded
  more : List Padded

/-- **A reference as it is written.** -/
@[ext] structure Spelling where
  before : Blanks
  name : Name
  group : Option Group
  after : Blanks

/-- The characters of an argument. -/
def Padded.chars (p : Padded) : List Char := p.before.chars ++ p.word.chars ++ p.after.chars

namespace Group

/-- The arguments. -/
def args (g : Group) : List Padded := g.first :: g.more

/-- The characters between the brackets. -/
def list (g : Group) : List Char := [','].intercalate (g.args.map Padded.chars)

/-- The characters of the arguments with their brackets. -/
def chars (g : Group) : List Char := g.gap.chars ++ '<' :: (g.list ++ ['>'])

end Group

namespace Spelling

/-- The characters behind the name, up to the blanks at the end. -/
def tail (s : Spelling) : List Char := s.group.elim [] Group.chars

/-- The characters of a spelling. -/
def chars (s : Spelling) : List Char := s.before.chars ++ (s.name.chars ++ s.tail) ++ s.after.chars

/-- The text of a spelling. -/
def text (s : Spelling) : String := String.ofList s.chars

/-- What a spelling says. -/
def reference (s : Spelling) : Reference :=
  ⟨String.ofList s.name.chars,
    (s.group.elim [] Group.args).map fun p => String.ofList p.word.chars⟩

end Spelling

theorem Word.nonempty (w : Word) : w.chars ≠ [] := by
  intro empty
  have identifier := w.identifier
  rw [empty] at identifier
  cases identifier

theorem Word.not_isBlank (w : Word) {c : Char} (mem : c ∈ w.chars) : isBlank c = false := by
  refine Bool.eq_false_iff.mpr fun blank => ?_
  exact not_mem_of_isIdentifier w.identifier (not_startsIdentifier_of_isBlank blank)
    (not_continuesIdentifier_of_isBlank blank) mem

theorem Name.not_isBlank (n : Name) {c : Char} (mem : c ∈ n.chars) : isBlank c = false := by
  refine Bool.eq_false_iff.mpr fun blank => ?_
  have letter := n.letters c mem
  rw [not_isNameChar_of_isBlank blank] at letter
  cases letter

theorem Blanks.not_mem (b : Blanks) {c : Char} (visible : isBlank c = false) : c ∉ b.chars := by
  intro mem
  rw [b.blank c mem] at visible
  cases visible

theorem Blanks.stopsAt (b : Blanks) {p : Char → Bool}
    (apart : ∀ c, isBlank c = true → p c = false) :
    StopsAt p b.chars := fun c head => apart c (b.blank c (List.mem_of_head? head))

/-- Where all characters are of another class, a run stops. -/
theorem stopsAt_of_forall {p : Char → Bool} {cs : List Char} (h : ∀ c ∈ cs, p c = false) :
    StopsAt p cs := fun c head => h c (List.mem_of_head? head)

/-! ### Arguments -/

/-- Brackets and commas stand in no argument. -/
theorem Padded.not_mem (p : Padded) {c : Char} (mark : c ∈ [',', '<', '>']) : c ∉ p.chars := by
  have visible : [',', '<', '>'].all (fun c => !isBlank c && !startsIdentifier c &&
      !continuesIdentifier c) = true := by decide +kernel
  have classes := List.all_eq_true.mp visible c mark
  simp only [Bool.and_eq_true, Bool.not_eq_true'] at classes
  obtain ⟨⟨seen, start⟩, continues⟩ := classes
  simp [Padded.chars, p.before.not_mem seen, p.after.not_mem seen,
    not_mem_of_isIdentifier p.word.identifier start continues]

theorem argument?_chars (p : Padded) :
    argument? p.chars = some (String.ofList p.word.chars) := by
  have begins : StopsAt isBlank p.word.chars := stopsAt_of_forall fun c mem =>
    p.word.not_isBlank mem
  have ends : StopsAt isBlank p.word.chars.reverse := stopsAt_of_forall fun c mem =>
    p.word.not_isBlank (List.mem_reverse.mp mem)
  unfold argument? Padded.chars
  rw [trimBlankChars_padded p.before.blank p.after.blank begins ends, if_pos p.word.identifier]

theorem exists_padded {piece : List Char} {arg : String} (h : argument? piece = some arg) :
    ∃ p : Padded, p.chars = piece ∧ String.ofList p.word.chars = arg := by
  unfold argument? at h
  dsimp only at h
  split at h
  · rename_i identifier
    obtain ⟨before, after, blankBefore, blankAfter, same⟩ := exists_padding piece
    exact ⟨⟨⟨before, blankBefore⟩, ⟨_, identifier⟩, ⟨after, blankAfter⟩⟩, same.symm,
      Option.some.inj h⟩
  · cases h

theorem mapM_argument?_chars (ps : List Padded) :
    (ps.map Padded.chars).mapM argument? = some (ps.map fun p => String.ofList p.word.chars) := by
  induction ps with
  | nil => rfl
  | cons p rest ih => simp [List.mapM_cons, argument?_chars, ih]

theorem exists_paddeds {pieces : List (List Char)} {args : List String}
    (h : pieces.mapM argument? = some args) :
    ∃ ps : List Padded, ps.map Padded.chars = pieces ∧
      ps.map (fun p => String.ofList p.word.chars) = args := by
  induction pieces generalizing args with
  | nil =>
    cases h
    exact ⟨[], rfl, rfl⟩
  | cons piece rest ih =>
    rw [List.mapM_cons] at h
    obtain ⟨arg, read, h⟩ := Option.bind_eq_some_iff.mp h
    obtain ⟨others, readOthers, h⟩ := Option.bind_eq_some_iff.mp h
    cases h
    obtain ⟨p, rfl, rfl⟩ := exists_padded read
    obtain ⟨ps, rfl, rfl⟩ := ih readOthers
    exact ⟨p :: ps, rfl, rfl⟩

/-- Two spellings of an argument differ. -/
theorem Padded.chars_injective : Function.Injective Padded.chars := by
  intro p q same
  have begins : ∀ p : Padded, StopsAt isBlank (p.word.chars ++ p.after.chars) := fun p =>
    (stopsAt_of_forall fun c mem => p.word.not_isBlank mem).append p.word.nonempty _
  have visible : ∀ w : Word, ∀ c ∈ w.chars, (!isBlank c) = true := fun w c mem => by
    rw [w.not_isBlank mem, Bool.not_false]
  have ends : ∀ b : Blanks, StopsAt (fun c => !isBlank c) b.chars := fun b =>
    b.stopsAt fun c blank => by rw [blank, Bool.not_true]
  unfold Padded.chars at same
  rw [List.append_assoc, List.append_assoc] at same
  obtain ⟨before, same⟩ := run_unique p.before.blank (begins p) q.before.blank (begins q) same
  obtain ⟨word, after⟩ := run_unique (visible p.word) (ends p.after) (visible q.word)
    (ends q.after) same
  exact Padded.ext (Blanks.ext before) (Word.ext word) (Blanks.ext after)

/-! ### Groups -/

theorem Group.not_mem_list (g : Group) : '>' ∉ g.list := by
  have inArgs : ∀ ps : List Padded, '>' ∉ [','].intercalate (ps.map Padded.chars) := by
    intro ps
    induction ps with
    | nil => simp
    | cons p rest ih =>
      cases rest with
      | nil => simpa [List.intercalate_singleton] using p.not_mem (by simp)
      | cons q rest =>
        rw [List.map_cons, List.map_cons] at *
        simpa [List.intercalate_cons_cons, p.not_mem (c := '>') (by simp)] using ih
  exact inArgs g.args

theorem splitOn_list (g : Group) : g.list.splitOn ',' = g.args.map Padded.chars := by
  refine List.splitOn_intercalate ',' ?_ (by simp [Group.args])
  intro cs mem
  obtain ⟨p, -, rfl⟩ := List.mem_map.mp mem
  exact p.not_mem (by simp)

theorem visible_close {cs : List Char} (h : '>' ∉ cs) : ∀ c ∈ cs, (c != '>') = true := by
  intro c mem
  rw [bne_iff_ne]
  rintro rfl
  exact h mem

theorem arguments?_list (g : Group) :
    arguments? (g.list ++ ['>']) = some (g.args.map fun p => String.ofList p.word.chars) := by
  have stop : StopsAt (· != '>') ['>'] := stopsAt_cons rfl []
  have run := visible_close g.not_mem_list
  unfold arguments?
  rw [dropWhile_run run stop, takeWhile_run run stop, splitOn_list]
  exact mapM_argument?_chars g.args

theorem exists_list {inside : List Char} {args : List String}
    (h : arguments? inside = some args) :
    ∃ (p : Padded) (more : List Padded) (after : Blanks),
      inside = [','].intercalate ((p :: more).map Padded.chars) ++ '>' :: after.chars ∧
      (p :: more).map (fun p => String.ofList p.word.chars) = args := by
  unfold arguments? at h
  split at h
  · rename_i after closes
    split at h
    · rename_i blank
      obtain ⟨ps, pieces, rfl⟩ := exists_paddeds h
      have list : [','].intercalate (ps.map Padded.chars) = inside.takeWhile (· != '>') := by
        rw [pieces, List.intercalate_splitOn]
      cases ps with
      | nil => exact absurd pieces.symm (List.splitOn_ne_nil _ _)
      | cons p more =>
        refine ⟨p, more, ⟨after, fun c mem => List.all_eq_true.mp blank c mem⟩, ?_, rfl⟩
        calc inside = inside.takeWhile (· != '>') ++ inside.dropWhile (· != '>') :=
              List.takeWhile_append_dropWhile.symm
          _ = _ := by rw [list, closes]
    · cases h
  · cases h

/-- What is read behind a name is a group with blanks behind it. -/
theorem exists_group {rest inside : List Char} {args : List String}
    (opened : dropBlank rest = '<' :: inside) (h : arguments? inside = some args) :
    ∃ (g : Group) (after : Blanks), rest = g.chars ++ after.chars ∧
      g.args.map (fun p => String.ofList p.word.chars) = args := by
  obtain ⟨p, more, after, list, named⟩ := exists_list h
  refine ⟨⟨⟨rest.takeWhile isBlank, allBlank_takeWhile rest⟩, p, more⟩, after, ?_, named⟩
  calc rest = rest.takeWhile isBlank ++ dropBlank rest := List.takeWhile_append_dropWhile.symm
    _ = rest.takeWhile isBlank ++ '<' ::
        ([','].intercalate ((p :: more).map Padded.chars) ++ '>' :: after.chars) := by
      rw [opened, list]
    _ = _ := by simp [Group.chars, Group.list, Group.args]

theorem Group.list_injective {g g' : Group} (same : g.list = g'.list) : g.args = g'.args := by
  have pieces := congrArg (List.splitOn ',') same
  rw [splitOn_list, splitOn_list] at pieces
  exact List.map_injective_iff.mpr Padded.chars_injective pieces

/-! ### Reading -/

namespace Spelling

variable (s : Spelling)

theorem core_ne_nil : s.name.chars ++ s.tail ≠ [] := by
  intro empty
  exact s.name.nonempty (List.append_eq_nil_iff.mp empty).1

theorem core_begins : StopsAt isBlank (s.name.chars ++ s.tail) :=
  (stopsAt_of_forall fun _ mem => s.name.not_isBlank mem).append s.name.nonempty _

theorem core_ends : StopsAt isBlank (s.name.chars ++ s.tail).reverse := by
  unfold tail
  cases s.group with
  | none =>
    rw [Option.elim_none, List.append_nil]
    exact stopsAt_of_forall fun c mem => s.name.not_isBlank (List.mem_reverse.mp mem)
  | some g =>
    have closes : (s.name.chars ++ g.chars).reverse =
        '>' :: (s.name.chars ++ (g.gap.chars ++ '<' :: g.list)).reverse := by
      simp [Group.chars]
    rw [Option.elim_some, closes]
    exact stopsAt_cons (by decide) _

/-- Behind the name there is nothing more of it, whatever blanks follow. -/
theorem name_ends (b : Blanks) : StopsAt isNameChar (s.tail ++ b.chars) := by
  have blanks : ∀ b : Blanks, StopsAt isNameChar b.chars := fun b =>
    b.stopsAt fun _ blank => not_isNameChar_of_isBlank blank
  unfold tail
  cases s.group with
  | none => exact blanks b
  | some g =>
    rw [Option.elim_some, Group.chars]
    by_cases gap : g.gap.chars = []
    · rw [gap]
      exact stopsAt_cons (by decide +kernel) _
    · rw [List.append_assoc]
      exact (blanks g.gap).append gap _

/-- **What is spelled is read.** -/
theorem parse?_text : parse? s.text = some s.reference := by
  have trimmed : trimBlankChars s.text.toList = s.name.chars ++ s.tail := by
    rw [text, String.toList_ofList]
    exact trimBlankChars_padded s.before.blank s.after.blank s.core_begins s.core_ends
  have stop : StopsAt isNameChar s.tail := by
    have ends := s.name_ends .none
    rwa [Blanks.none, List.append_nil] at ends
  have named : ¬ s.name.chars.isEmpty = true := by simpa using s.name.nonempty
  unfold parse?
  dsimp only
  rw [trimmed, takeWhile_run s.name.letters stop, dropWhile_run s.name.letters stop, if_neg named]
  unfold reference tail
  cases s.group with
  | none => rfl
  | some g =>
    have opened : dropBlank g.chars = '<' :: (g.list ++ ['>']) :=
      dropWhile_run g.gap.blank (stopsAt_cons (by decide) _)
    simp only [Option.elim_some]
    cases written : g.chars with
    | nil => simp [Group.chars] at written
    | cons c rest =>
      simp only [← written, opened, arguments?_list]
      rfl

/-- **What is read is spelled.** -/
theorem exists_spelling {text : String} {r : Reference} (h : parse? text = some r) :
    ∃ s : Spelling, s.text = text ∧ s.reference = r := by
  -- The blanks come from trimming, the name and the gap from the runs that the reader takes.
  obtain ⟨before, after, blankBefore, blankAfter, same⟩ := exists_padding text.toList
  unfold parse? at h
  dsimp only at h
  generalize trimBlankChars text.toList = cs at h same
  have split : cs = cs.takeWhile isNameChar ++ cs.dropWhile isNameChar :=
    List.takeWhile_append_dropWhile.symm
  have letters : ∀ c ∈ cs.takeWhile isNameChar, isNameChar c = true := fun c mem =>
    List.mem_takeWhile_imp mem
  generalize cs.takeWhile isNameChar = name at h split letters
  generalize cs.dropWhile isNameChar = rest at h split
  by_cases nameless : name = []
  · simp [nameless] at h
  · rw [if_neg (by simpa using nameless)] at h
    cases rest with
    | nil =>
      cases h
      refine ⟨⟨⟨before, blankBefore⟩, ⟨name, nameless, letters⟩, none, ⟨after, blankAfter⟩⟩,
        ?_, rfl⟩
      rw [← String.ofList_toList (s := text), same, split]
      rfl
    | cons c more =>
      dsimp only at h
      split at h
      · rename_i inside opened
        obtain ⟨args, read, h⟩ := Option.bind_eq_some_iff.mp h
        cases h
        obtain ⟨g, late, group, rfl⟩ := exists_group opened read
        -- Blanks behind the closing bracket stand ahead of those that were trimmed.
        refine ⟨⟨⟨before, blankBefore⟩, ⟨name, nameless, letters⟩, some g,
          ⟨late.chars ++ after, late.blank.append blankAfter⟩⟩, ?_, rfl⟩
        rw [← String.ofList_toList (s := text), same, split, group]
        simp [Spelling.text, Spelling.chars, tail]
      · cases h

/-! ### Uniqueness -/

/-- A group and what stands behind it are found again in a text. -/
theorem group_unique {g g' : Group} {cs cs' : List Char}
    (same : g.chars ++ cs = g'.chars ++ cs') : g = g' ∧ cs = cs' := by
  have opens : ∀ (g : Group) (cs : List Char), StopsAt isBlank ('<' :: (g.list ++ '>' :: cs)) :=
    fun g cs => stopsAt_cons (by decide) _
  have closes : ∀ cs : List Char, StopsAt (· != '>') ('>' :: cs) := fun cs =>
    stopsAt_cons rfl cs
  simp only [Group.chars, List.append_assoc, List.cons_append, List.nil_append] at same
  obtain ⟨gap, same⟩ := run_unique g.gap.blank (opens g cs) g'.gap.blank (opens g' cs') same
  obtain ⟨list, same⟩ := run_unique (visible_close g.not_mem_list) (closes cs)
    (visible_close g'.not_mem_list) (closes cs') (List.cons.inj same).2
  obtain ⟨first, more⟩ := List.cons.inj (Group.list_injective list)
  exact ⟨Group.ext (Blanks.ext gap) first more, (List.cons.inj same).2⟩

/-- Blanks hold no group. -/
theorem blanks_ne_group (b : Blanks) (g : Group) (cs : List Char) : b.chars ≠ g.chars ++ cs := by
  intro same
  refine b.not_mem (c := '<') (by decide) ?_
  rw [same]
  simp [Group.chars]

/-- **A text has one spelling at most.** -/
theorem text_injective : Function.Injective text := by
  intro s s' same
  have same := String.ofList_injective same
  -- Each part is a run that stops where the next one begins.
  have begins : ∀ s : Spelling, StopsAt isBlank (s.name.chars ++ (s.tail ++ s.after.chars)) := by
    intro s
    rw [← List.append_assoc]
    exact s.core_begins.append s.core_ne_nil _
  simp only [chars, List.append_assoc] at same
  obtain ⟨before, same⟩ := run_unique s.before.blank (begins s) s'.before.blank (begins s') same
  obtain ⟨name, same⟩ := run_unique s.name.letters (s.name_ends s.after) s'.name.letters
    (s'.name_ends s'.after) same
  obtain ⟨group, after⟩ : s.group = s'.group ∧ s.after.chars = s'.after.chars := by
    unfold tail at same
    cases left : s.group with
    | none =>
      cases right : s'.group with
      | none => exact ⟨rfl, by simpa [left, right] using same⟩
      | some g => exact absurd (by simpa [left, right] using same) (blanks_ne_group s.after g _)
    | some g =>
      cases right : s'.group with
      | none => exact absurd (by simpa [left, right] using same.symm) (blanks_ne_group s'.after g _)
      | some g' =>
        obtain ⟨rfl, rest⟩ := group_unique (by simpa [left, right] using same)
        exact ⟨rfl, rest⟩
  exact Spelling.ext (Blanks.ext before) (Name.ext name) group (Blanks.ext after)

end Spelling

/-! ### Without blanks -/

/-- An argument without the blanks around it. -/
def Padded.tight (p : Padded) : Padded := ⟨.none, p.word, .none⟩

/-- A group without blanks. -/
def Group.tight (g : Group) : Group := ⟨.none, g.first.tight, g.more.map Padded.tight⟩

/-- A spelling without blanks. -/
def Spelling.tight (s : Spelling) : Spelling := ⟨.none, s.name, s.group.map Group.tight, .none⟩

theorem Group.args_tight (g : Group) : g.tight.args = g.args.map Padded.tight := rfl

theorem Blanks.filter (b : Blanks) : b.chars.filter (!isBlank ·) = [] := by
  refine List.filter_eq_nil_iff.mpr fun c mem => ?_
  rw [b.blank c mem]
  decide

theorem filter_of_not_isBlank {cs : List Char} (h : ∀ c ∈ cs, isBlank c = false) :
    cs.filter (!isBlank ·) = cs :=
  List.filter_eq_self.mpr fun c mem => by rw [h c mem, Bool.not_false]

theorem Padded.filter (p : Padded) : p.chars.filter (!isBlank ·) = p.tight.chars := by
  simp only [Padded.chars, tight, List.filter_append, Blanks.filter, Blanks.none,
    filter_of_not_isBlank fun c mem => p.word.not_isBlank mem]

theorem filter_intercalate (ps : List Padded) :
    ([','].intercalate (ps.map Padded.chars)).filter (!isBlank ·) =
      [','].intercalate ((ps.map Padded.tight).map Padded.chars) := by
  have comma : (!isBlank ',') = true := by decide
  induction ps with
  | nil => rfl
  | cons p rest ih =>
    cases rest with
    | nil => simpa [List.intercalate_singleton] using p.filter
    | cons q rest =>
      simp only [List.map_cons, List.intercalate_cons_cons, List.filter_append, p.filter] at ih ⊢
      simp [comma, ih]

theorem Group.filter (g : Group) : g.chars.filter (!isBlank ·) = g.tight.chars := by
  have opens : (!isBlank '<') = true := by decide
  have closes : (!isBlank '>') = true := by decide
  have list : g.list.filter (!isBlank ·) = g.tight.list := filter_intercalate g.args
  simp [Group.chars, tight, Blanks.filter, Blanks.none, opens, closes, list]

namespace Spelling

variable (s : Spelling)

/-- **What is left of a text without its blanks** is the spelling without blanks. -/
theorem filter : s.chars.filter (!isBlank ·) = s.tight.chars := by
  have name := filter_of_not_isBlank fun c mem => s.name.not_isBlank mem
  cases group : s.group with
  | none => simp [chars, tail, tight, Blanks.filter, Blanks.none, name, group]
  | some g => simp [chars, tail, tight, Blanks.filter, Blanks.none, name, group, g.filter]

/-- Blanks say nothing. -/
theorem reference_tight : s.tight.reference = s.reference := by
  cases group : s.group with
  | none => simp [reference, tight, group]
  | some g => simp [reference, tight, group, Group.args_tight, Padded.tight, Function.comp_def]

/-- **The display of a reference** is its spelling without blanks. -/
theorem toList_display : s.reference.display.toList = s.tight.chars := by
  cases group : s.group with
  | none => simp [display, reference, chars, tail, tight, Blanks.none, group]
  | some g =>
    have args : (g.args.map fun p => String.ofList p.word.chars).isEmpty = false := rfl
    have words : g.tight.args.map Padded.chars = g.args.map fun p => p.word.chars := by
      simp [Group.args_tight, Padded.tight, Padded.chars, Blanks.none, Function.comp_def]
    have gap : g.tight.gap.chars = [] := rfl
    simp [display, reference, group, args, chars, tail, tight, Blanks.none, Group.chars, Group.list,
      words, gap, String.toList_intercalate, Function.comp_def]

end Spelling

/-! ### The grammar -/

/-- **References are read by their grammar.**  A text is read when it is spelled from a reference,
and only then; its spelling, and so what it says, is the only one it has.  The display of what has
been read is the text without its blanks, and reads as the same. -/
theorem parse?_grammar (text : String) (r : Reference) :
    (parse? text = some r ↔ ∃ s : Spelling, s.text = text ∧ s.reference = r) ∧
    (∀ s s' : Spelling, s.text = text → s'.text = text → s = s') ∧
    (parse? text = some r → parse? r.display = some r ∧
      r.display = String.ofList (text.toList.filter (!isBlank ·))) := by
  refine ⟨⟨Spelling.exists_spelling, ?_⟩, ?_, fun read => ?_⟩
  · rintro ⟨s, rfl, rfl⟩
    exact s.parse?_text
  · intro s s' spelled spelled'
    exact Spelling.text_injective (spelled.trans spelled'.symm)
  · obtain ⟨s, rfl, rfl⟩ := Spelling.exists_spelling read
    have shown : s.reference.display = s.tight.text := by
      rw [← String.ofList_toList (s := s.reference.display), s.toList_display]
      rfl
    constructor
    · rw [shown, s.tight.parse?_text, s.reference_tight]
    · rw [shown, Spelling.text, Spelling.text, String.toList_ofList, s.filter]

/-- A reference with blanks wherever they may stand. -/
theorem parse?_grammar_head :
    parse? " head\t< DISPLAY_A ,CAM > " = some ⟨"head", ["DISPLAY_A", "CAM"]⟩ ∧
      (∃ s : Spelling, s.text = " head\t< DISPLAY_A ,CAM > " ∧
        s.reference = ⟨"head", ["DISPLAY_A", "CAM"]⟩) ∧
      parse? "head<DISPLAY_A,CAM>" = some ⟨"head", ["DISPLAY_A", "CAM"]⟩ := by
  obtain ⟨⟨spelled, -⟩, -, again⟩ :=
    parse?_grammar " head\t< DISPLAY_A ,CAM > " ⟨"head", ["DISPLAY_A", "CAM"]⟩
  have read : parse? " head\t< DISPLAY_A ,CAM > " = some ⟨"head", ["DISPLAY_A", "CAM"]⟩ := by
    decide +kernel
  exact ⟨read, spelled read, (again read).1⟩

end DispatchTables.Reference
