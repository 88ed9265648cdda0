import DispatchTables.Proofs.Store.Resolving
import DispatchTables.Proofs.Text.Runs
import DispatchTables.Proofs.Text.SmallLetters
import Mathlib.Logic.Relation

/-!
# Normal forms of references

A reference can be written in many ways: with either slash, in any case, with dots, detours and
empty names between its slashes, with the extension of descriptor files or without.  All of them
have one normal form, and the names in it are plain: not empty, no dots, in small letters.

The normal form is found on a walk through the reference, one slash after the other.  A text before
a slash only matters by the names that it leaves behind, so what goes nowhere can be put between any
two slashes.  The extension alone is taken off the whole reference; it has no slash in it, so it
belongs to the last name.

## Main Definitions

* `passThrough`, `arrive`: the walk, up to a slash and to the end.
* `IsKeyName`: the names in a normal form.
* `Respells`: one change to how a reference is written.

## Main Statements

* `arrive_separator`: the walk goes on behind a slash.
* `isKeyName_of_mem_normalSegments`: the names of a normal form are plain.
* `normalize_respelled`: a reference has the same normal form however it is written.
-/

namespace DispatchTables

open Text

variable {reference : String} {text written before after cs : List Char} {c : Char}

/-! ### Texts without blanks around them -/

/-- **No blank stands around a text.** -/
structure Unpadded (cs : List Char) : Prop where
  begins : StopsAt isBlank cs
  ends : StopsAt isBlank cs.reverse

/-- Nothing is trimmed from a text without blanks around it. -/
theorem Unpadded.trim (h : Unpadded cs) : trimBlankChars cs = cs := by
  simpa using trimBlankChars_padded allBlank_nil allBlank_nil h.begins h.ends

/-- What is put in front of the rest of a text may be put in front of it otherwise, without
blanks. -/
theorem stopsAt_replace {old new : List Char} (h : StopsAt isBlank (before ++ old ++ after))
    (nonempty : new ≠ []) (visible : ∀ c ∈ new, isBlank c = false) :
    StopsAt isBlank (before ++ new ++ after) := by
  cases before with
  | cons c rest => exact stopsAt_cons (h c rfl) _
  | nil =>
    cases new with
    | nil => exact absurd rfl nonempty
    | cons c rest => exact stopsAt_cons (visible c List.mem_cons_self) _

/-- **A piece of a text may be replaced by one without blanks.** -/
theorem Unpadded.replace {old new : List Char} (h : Unpadded (before ++ old ++ after))
    (nonempty : new ≠ []) (visible : ∀ c ∈ new, isBlank c = false) :
    Unpadded (before ++ new ++ after) where
  begins := stopsAt_replace h.begins nonempty visible
  ends := by
    have ends := h.ends
    rw [List.reverse_append, List.reverse_append, ← List.append_assoc] at ends ⊢
    exact stopsAt_replace ends (by simpa using nonempty) (by simpa using visible)

/-- A piece without blanks may be put in. -/
theorem Unpadded.insert {new : List Char} (h : Unpadded (before ++ after)) (nonempty : new ≠ [])
    (visible : ∀ c ∈ new, isBlank c = false) : Unpadded (before ++ new ++ after) := by
  have around : Unpadded (before ++ [] ++ after) := by
    rwa [List.append_nil]
  exact around.replace nonempty visible

/-! ### The walk through a reference -/

/-- A text with backslashes as slashes. -/
def slashed (cs : List Char) : List Char := cs.map fun c => if c = '\\' then '/' else c

/-- Either slash. -/
def IsSeparator (c : Char) : Prop := c = '/' ∨ c = '\\'

theorem slashed_append (xs ys : List Char) : slashed (xs ++ ys) = slashed xs ++ slashed ys :=
  List.map_append

theorem slashed_separator (sep : IsSeparator c) (xs ys : List Char) :
    slashed (xs ++ c :: ys) = slashed xs ++ '/' :: slashed ys := by
  rw [slashed_append, slashed, slashed, slashed, List.map_cons]
  rcases sep with rfl | rfl <;> rfl

theorem slashed_of_not_mem (plain : '\\' ∉ cs) : slashed cs = cs := by
  refine (List.map_congr_left fun c mem => if_neg ?_).trans (List.map_id' cs)
  rintro rfl
  exact plain mem

theorem backslash_not_mem_slashed (cs : List Char) : '\\' ∉ slashed cs := by
  intro mem
  obtain ⟨c, -, same⟩ := List.mem_map.mp mem
  split at same
  · cases same
  · rename_i other
    exact other same

/-- The names so far, the nearest first, behind a text that a slash follows. -/
def passThrough (above : List (List Char)) (cs : List Char) : List (List Char) :=
  ((lowercaseFrom [] (slashed cs)).splitOn '/').foldl descend above

/-- The names at the end of a reference, the nearest first. -/
def arrive (above : List (List Char)) (cs : List Char) : List (List Char) :=
  ((stripExtension (lowercaseFrom [] (slashed cs))).splitOn '/').foldl descend above

/-- The names of a reference are those at the end of the walk through it. -/
theorem normalSegments_eq (reference : String) :
    normalSegments reference =
      (arrive [] (trimBlankChars reference.toList)).reverse.map String.ofList := rfl

/-- The extension of descriptor files. -/
def extension : List Char := ['.', 'j', 's', 'o', 'n']

theorem stripExtension_append (cs : List Char) : stripExtension (cs ++ extension) = cs := by
  have ends : extension.isSuffixOf (cs ++ extension) = true :=
    List.isSuffixOf_iff_suffix.mpr (List.suffix_append cs extension)
  exact (if_pos ends).trans (by simp [extension])

theorem stripExtension_of_not_suffix (other : ¬ extension <:+ cs) : stripExtension cs = cs :=
  if_neg fun ends => other (List.isSuffixOf_iff_suffix.mp ends)

/-- The extension of a text stands behind whatever is no part of it. -/
theorem extension_suffix_iff (foreign : c ∉ extension) (xs ys : List Char) :
    extension <:+ xs ++ c :: ys ↔ extension <:+ ys := by
  constructor
  · intro suffix
    rcases List.suffix_or_suffix_of_suffix suffix (List.suffix_append xs (c :: ys)) with
      within | beyond
    · rcases List.suffix_cons_iff.mp within with whole | later
      · exact absurd (whole ▸ List.mem_cons_self) foreign
      · exact later
    · exact absurd (beyond.subset List.mem_cons_self) foreign
  · intro suffix
    exact suffix.trans ((List.suffix_cons c ys).trans (List.suffix_append xs (c :: ys)))

/-- The extension is that of the last name. -/
theorem stripExtension_slash (xs ys : List Char) :
    stripExtension (xs ++ '/' :: ys) = xs ++ '/' :: stripExtension ys := by
  by_cases ends : extension <:+ ys
  · obtain ⟨stem, rfl⟩ := ends
    rw [stripExtension_append, ← List.cons_append, ← List.append_assoc, stripExtension_append]
  · have other := (extension_suffix_iff (by decide : '/' ∉ extension) xs ys).not.mpr ends
    rw [stripExtension_of_not_suffix ends, stripExtension_of_not_suffix other]

/-- **The walk goes on behind a slash.** -/
theorem passThrough_separator (sep : IsSeparator c) (above : List (List Char))
    (xs ys : List Char) :
    passThrough above (xs ++ c :: ys) = passThrough (passThrough above xs) ys := by
  unfold passThrough
  rw [slashed_separator sep, lowercaseFrom_slash, List.splitOn_append_cons_self,
    List.foldl_append]

theorem arrive_separator (sep : IsSeparator c) (above : List (List Char)) (xs ys : List Char) :
    arrive above (xs ++ c :: ys) = arrive (passThrough above xs) ys := by
  unfold arrive passThrough
  rw [slashed_separator sep, lowercaseFrom_slash, stripExtension_slash,
    List.splitOn_append_cons_self, List.foldl_append]

/-! ### Going nowhere -/

theorem passThrough_dot (above : List (List Char)) : passThrough above ['.'] = above := by
  have piece : (lowercaseFrom [] (slashed ['.'])).splitOn '/' = [['.']] := by decide +kernel
  rw [passThrough, piece]
  rfl

theorem passThrough_dots (above : List (List Char)) :
    passThrough above ['.', '.'] = above.drop 1 := by
  have piece : (lowercaseFrom [] (slashed ['.', '.'])).splitOn '/' = [['.', '.']] := by
    decide +kernel
  rw [passThrough, piece]
  rfl

/-- **A name that one can go into**: not empty, no dots, and without slashes and blanks. -/
structure IsOrdinary (name : List Char) : Prop where
  nonempty : name ≠ []
  ne_dot : name ≠ ['.']
  ne_dots : name ≠ ['.', '.']
  unbroken : ∀ c ∈ name, ¬ IsSeparator c
  visible : ∀ c ∈ name, isBlank c = false

/-- Going into a name leaves it behind. -/
theorem passThrough_ordinary {name : List Char} (h : IsOrdinary name)
    (above : List (List Char)) :
    passThrough above name = lowercaseFrom [] name :: above := by
  have plain : slashed name = name :=
    slashed_of_not_mem fun mem => h.unbroken _ mem (.inr rfl)
  have whole : '/' ∉ lowercaseFrom [] name := fun mem =>
    h.unbroken _ (mem_of_mem_lowercaseFrom mem (by decide)) (.inl rfl)
  -- a lowercase name of dots only would have been one before
  have named : ∀ signs : List Char, (∀ x ∈ signs, x.toNat < 0x61) → name ≠ signs →
      lowercaseFrom [] name ≠ signs := by
    intro signs low other same
    exact other ((lowercaseFrom_of_signs (same ▸ low)).symm.trans same)
  unfold passThrough
  rw [plain, List.splitOn_eq_singleton whole, List.foldl_cons, List.foldl_nil, descend, if_neg,
    if_neg (named _ (forall_mem_of_all (by decide)) h.ne_dots)]
  rintro (empty | dot)
  · exact named [] nofun h.nonempty empty
  · exact named _ (forall_mem_of_all (by decide)) h.ne_dot dot

/-- **A detour**: into a name and back. -/
theorem passThrough_detour {name : List Char} (h : IsOrdinary name) (above : List (List Char)) :
    passThrough above (name ++ ['/', '.', '.']) = above := by
  rw [passThrough_separator (.inl rfl), passThrough_ordinary h, passThrough_dots]
  rfl

/-! ### Plain names -/

/-- **The names in a normal form**: not empty, no dots, and small letters without slashes. -/
structure IsKeyName (name : String) : Prop where
  nonempty : name ≠ ""
  ne_dot : name ≠ "."
  ne_dots : name ≠ ".."
  noSlash : '/' ∉ name.toList
  noBackslash : '\\' ∉ name.toList
  small : ∀ c ∈ name.toList, IsSmall c

theorem stripExtension_shortens (cs : List Char) : stripExtension cs <+: cs := by
  unfold stripExtension
  dsimp only
  split
  · exact List.take_prefix _ cs
  · exact List.prefix_rfl

/-- **The names of a normal form are plain.** -/
theorem isKeyName_of_mem_normalSegments {name : String} (mem : name ∈ normalSegments reference) :
    IsKeyName name := by
  rw [normalSegments_eq] at mem
  obtain ⟨chars, kept, rfl⟩ := List.mem_map.mp mem
  rcases mem_foldl_descend (List.mem_reverse.mp kept) with above | ⟨piece, nonempty, dot, dots⟩
  · cases above
  · have written : ∀ c ∈ chars, c ∈ lowercaseFrom [] (slashed (trimBlankChars reference.toList)) :=
      fun c mem => (stripExtension_shortens _).subset (mem_of_mem_splitOn piece mem)
    have spelled : ∀ text : String, chars ≠ text.toList → String.ofList chars ≠ text := by
      rintro text other rfl
      exact other String.toList_ofList.symm
    constructor
    case nonempty => exact spelled "" nonempty
    case ne_dot => exact spelled "." dot
    case ne_dots => exact spelled ".." dots
    all_goals rw [String.toList_ofList]
    case noSlash => exact not_mem_of_mem_splitOn piece
    case noBackslash =>
      intro mem
      exact backslash_not_mem_slashed _ (mem_of_mem_lowercaseFrom (written _ mem) (by decide))
    case small => exact fun c mem => isSmall_of_mem_lowercaseFrom (written c mem)

/-! ### Writing a reference otherwise -/

/-- Where a name may begin: at the front of a text, or behind a slash. -/
def AtBoundary (before : List Char) : Prop :=
  before = [] ∨ ∃ front c, before = front ++ [c] ∧ IsSeparator c

/-- What goes nowhere, up to the slash behind it. -/
inductive GoesNowhere : List Char → Prop
  | dot : GoesNowhere ['.']
  | detour {name : List Char} (h : IsOrdinary name) : GoesNowhere (name ++ ['/', '.', '.'])

/-- What goes nowhere at the front of a reference, up to the slash behind it. -/
inductive LeadsNowhere : List Char → Prop
  | dot : LeadsNowhere ['.']
  | dots : LeadsNowhere ['.', '.']
  | nothing : LeadsNowhere []

/-- **One change to how a reference is written**: a slash is turned around, a letter changes case,
something is put in front or between that goes nowhere, or the extension is added. -/
inductive Respells : List Char → List Char → Prop
  | slash (before after : List Char) :
      Respells (before ++ ['/'] ++ after) (before ++ ['\\'] ++ after)
  | letter (before after : List Char) {c d : Char} (small : c.isAlpha = true)
      (great : d.isAlpha = true) (same : c.toLower = d.toLower) :
      Respells (before ++ [c] ++ after) (before ++ [d] ++ after)
  | front {piece : List Char} (nowhere : LeadsNowhere piece) (text : List Char) :
      Respells text (piece ++ '/' :: text)
  | between {before piece : List Char} (boundary : AtBoundary before)
      (nowhere : GoesNowhere piece) (after : List Char) :
      Respells (before ++ after) (before ++ piece ++ '/' :: after)
  | extended {text suffix : List Char} (added : suffix.map Char.toLower = extension)
      (other : ¬ extension <:+ text.map Char.toLower) : Respells text (text ++ suffix)

/-! ### What a change leaves alone -/

theorem visible_of_isAlpha (letter : c.isAlpha = true) : isBlank c = false :=
  forall_ascii (p := fun c => c.isAlpha = true → isBlank c = false) (by decide +kernel)
    (ascii_of_isAlpha letter) letter

/-- The extension in whatever case: letters of ASCII and a dot. -/
theorem ascii_of_extension {suffix : List Char} (added : suffix.map Char.toLower = extension)
    (mem : c ∈ suffix) : c.toNat < 128 ∧ isBlank c = false ∧ c ≠ '\\' := by
  have lower : c.toLower ∈ extension := added ▸ List.mem_map_of_mem mem
  have low : ∀ x ∈ extension, x.toNat < 128 := forall_mem_of_all (by decide)
  have ascii := ascii_of_toLower (low _ lower)
  exact ⟨ascii, forall_ascii (p := fun c => c.toLower ∈ extension → isBlank c = false ∧ c ≠ '\\')
    (by decide +kernel) ascii lower⟩

theorem GoesNowhere.visible {piece : List Char} (h : GoesNowhere piece) :
    ∀ c ∈ piece, isBlank c = false := by
  cases h with
  | dot => exact forall_mem_of_all (by decide)
  | detour h =>
    intro c mem
    have back : ∀ c ∈ ['/', '.', '.'], isBlank c = false := forall_mem_of_all (by decide)
    exact (List.mem_append.mp mem).elim (h.visible c) (back c)

theorem LeadsNowhere.visible {piece : List Char} (h : LeadsNowhere piece) :
    ∀ c ∈ piece, isBlank c = false := by
  cases h <;> exact forall_mem_of_all (by decide)

/-- **A change puts no blanks around a text.** -/
theorem Respells.unpadded (h : Respells text written) (tight : Unpadded text) :
    Unpadded written := by
  have slashed : ∀ {piece : List Char}, (∀ c ∈ piece, isBlank c = false) →
      ∀ c ∈ piece ++ ['/'], isBlank c = false := by
    intro piece visible c mem
    rcases List.mem_append.mp mem with inPiece | behind
    · exact visible c inPiece
    · rw [List.mem_singleton.mp behind]
      decide
  cases h with
  | slash before after =>
    exact tight.replace (List.cons_ne_nil _ _) (forall_mem_of_all (by decide))
  | letter before after letter letter' =>
    refine tight.replace (List.cons_ne_nil _ _) fun c mem => ?_
    rw [List.mem_singleton.mp mem]
    exact visible_of_isAlpha letter'
  | front nowhere =>
    have whole : Unpadded ([] ++ text) := tight
    simpa using whole.insert (by simp) (slashed nowhere.visible)
  | between boundary nowhere after =>
    simpa using tight.insert (by simp) (slashed nowhere.visible)
  | @extended _ suffix added =>
    have nonempty : suffix ≠ [] := by
      rintro rfl
      cases added
    have whole : Unpadded (text ++ []) := by
      rwa [List.append_nil]
    simpa using whole.insert nonempty fun c mem => (ascii_of_extension added mem).2.1

/-- **A text ends plainly** if what is put behind it is lowercased on its own, and it ends in the
extension only where it is seen to. -/
structure EndsPlainly (text : List Char) : Prop where
  letters : ∀ tail : List Char, (∀ c ∈ tail, c.toNat < 128) →
    lowercaseFrom [] (slashed (text ++ tail)) =
      lowercaseFrom [] (slashed text) ++ (slashed tail).map Char.toLower
  bare : ¬ extension <:+ text.map Char.toLower →
    ¬ extension <:+ lowercaseFrom [] (slashed text)

theorem ascii_of_mem_slashed (ascii : ∀ c ∈ cs, c.toNat < 128) :
    ∀ c ∈ slashed cs, c.toNat < 128 := by
  intro c mem
  obtain ⟨d, inText, rfl⟩ := List.mem_map.mp mem
  split
  · decide
  · exact ascii d inText

theorem endsPlainly_ascii (ascii : ∀ c ∈ text, c.toNat < 128) : EndsPlainly text where
  letters := by
    intro tail ascii'
    have all : ∀ c ∈ text ++ tail, c.toNat < 128 := fun c mem =>
      (List.mem_append.mp mem).elim (ascii c) (ascii' c)
    rw [lowercaseFrom_ascii (ascii_of_mem_slashed all),
      lowercaseFrom_ascii (ascii_of_mem_slashed ascii), slashed_append, List.map_append]
  bare := by
    intro other suffix
    rw [lowercaseFrom_ascii (ascii_of_mem_slashed ascii)] at suffix
    obtain ⟨stem, whole⟩ := suffix
    obtain ⟨front, ending, split, -, added⟩ := List.map_eq_append_iff.mp whole.symm
    obtain ⟨front', ending', rfl, -, rfl⟩ := List.map_eq_append_iff.mp split
    -- there is no slash in the extension, so none has been turned around
    have plain : slashed ending' = ending' := by
      refine slashed_of_not_mem fun mem => ?_
      have slash : ('/' : Char).toLower ∈ extension := by
        rw [← added]
        exact List.mem_map_of_mem (List.mem_map.mpr ⟨_, mem, rfl⟩)
      revert slash
      decide
    refine other ⟨front'.map Char.toLower, ?_⟩
    rw [List.map_append, ← added]
    exact congrArg _ (congrArg (List.map Char.toLower) plain)

/-- How a text ends is decided behind its last slash. -/
theorem endsPlainly_separator (sep : IsSeparator c) (xs ys : List Char) :
    EndsPlainly (xs ++ c :: ys) ↔ EndsPlainly ys := by
  have lower : ∀ zs : List Char, lowercaseFrom [] (slashed (xs ++ c :: zs)) =
      lowercaseFrom [] (slashed xs) ++ '/' :: lowercaseFrom [] (slashed zs) := by
    intro zs
    rw [slashed_separator sep, lowercaseFrom_slash]
  have foreign : c.toLower ∉ extension := by
    rcases sep with rfl | rfl <;> decide
  have bare : extension <:+ (xs ++ c :: ys).map Char.toLower ↔
      extension <:+ ys.map Char.toLower := by
    rw [List.map_append, List.map_cons, extension_suffix_iff foreign]
  have bare' : extension <:+ lowercaseFrom [] (slashed (xs ++ c :: ys)) ↔
      extension <:+ lowercaseFrom [] (slashed ys) := by
    rw [lower, extension_suffix_iff (by decide)]
  constructor
  · rintro ⟨letters, same⟩
    refine ⟨fun tail ascii => ?_, fun other => bare'.not.mp (same (bare.not.mpr other))⟩
    have behind := letters tail ascii
    rw [List.append_assoc, List.cons_append, lower, lower, List.append_assoc] at behind
    exact List.cons.inj (List.append_cancel_left behind) |>.2
  · rintro ⟨letters, same⟩
    refine ⟨fun tail ascii => ?_, fun other => bare'.not.mpr (same (bare.not.mp other))⟩
    rw [List.append_assoc, List.cons_append, lower, lower, letters tail ascii, List.append_assoc,
      List.cons_append]

/-- Nothing before a boundary matters to how a text ends. -/
theorem AtBoundary.endsPlainly_iff (h : AtBoundary before) (after : List Char) :
    EndsPlainly (before ++ after) ↔ EndsPlainly after := by
  rcases h with rfl | ⟨front, c, rfl, sep⟩
  · rfl
  · rw [List.append_assoc, List.singleton_append, endsPlainly_separator sep]

/-- The walk goes on behind a boundary. -/
theorem AtBoundary.arrive (h : AtBoundary before) :
    ∃ above, ∀ after, arrive [] (before ++ after) = arrive above after := by
  rcases h with rfl | ⟨front, c, rfl, sep⟩
  · exact ⟨[], fun after => rfl⟩
  · refine ⟨passThrough [] front, fun after => ?_⟩
    rw [List.append_assoc, List.singleton_append, arrive_separator sep]

theorem forall₂_slashed {ds : List Char} (same : List.Forall₂ SameLetter cs ds) :
    List.Forall₂ SameLetter (slashed cs) (slashed ds) := by
  induction same with
  | nil => exact .nil
  | @cons c d cs ds first rest ih =>
    refine .cons ?_ ih
    rcases first with rfl | ⟨letter, letter', lower⟩
    · exact .inl rfl
    · have other : ∀ {x : Char}, x.isAlpha = true → x ≠ '\\' := by
        rintro x isLetter rfl
        revert isLetter
        decide
      dsimp only
      rw [if_neg (other letter), if_neg (other letter')]
      exact .inr ⟨letter, letter', lower⟩

/-- The case of a letter does not matter to the lowercase text. -/
theorem lowercaseFrom_letter (before after : List Char) {c d : Char} (same : SameLetter c d) :
    lowercaseFrom [] (slashed (before ++ [c] ++ after)) =
      lowercaseFrom [] (slashed (before ++ [d] ++ after)) := by
  have itself : ∀ xs : List Char, List.Forall₂ SameLetter xs xs := fun xs =>
    List.forall₂_same.mpr fun x _ => .inl rfl
  exact lowercaseFrom_congr .nil (forall₂_slashed
    (List.rel_append (List.rel_append (itself before) (.cons same .nil)) (itself after)))

/-- **A change leaves the end of a text plain.** -/
theorem Respells.endsPlainly (h : Respells text written) (plain : EndsPlainly text) :
    EndsPlainly written := by
  cases h with
  | slash before after =>
    rw [List.append_assoc, List.singleton_append, endsPlainly_separator (.inl rfl)] at plain
    rwa [List.append_assoc, List.singleton_append, endsPlainly_separator (.inr rfl)]
  | @letter before after c d letter letter' same =>
    have lower : ∀ tail : List Char, lowercaseFrom [] (slashed (before ++ [d] ++ after ++ tail)) =
        lowercaseFrom [] (slashed (before ++ [c] ++ after ++ tail)) := by
      intro tail
      rw [List.append_assoc, List.append_assoc (before ++ [c])]
      exact (lowercaseFrom_letter before _ (.inr ⟨letter, letter', same⟩)).symm
    have lower' := lower []
    rw [List.append_nil, List.append_nil] at lower'
    constructor
    case letters =>
      intro tail ascii
      rw [lower, lower', plain.letters tail ascii]
    case bare =>
      rw [lower']
      intro other
      refine plain.bare fun suffix => other ?_
      simpa [same] using suffix
  | front nowhere text => exact (endsPlainly_separator (.inl rfl) _ _).mpr plain
  | between boundary nowhere after =>
    rw [boundary.endsPlainly_iff] at plain
    rw [List.append_assoc, boundary.endsPlainly_iff]
    exact (endsPlainly_separator (.inl rfl) _ _).mpr plain
  | @extended _ suffix added other =>
    have ascii : ∀ c ∈ suffix, c.toNat < 128 := fun c mem => (ascii_of_extension added mem).1
    constructor
    case letters =>
      intro tail ascii'
      have both : ∀ c ∈ suffix ++ tail, c.toNat < 128 := fun c mem =>
        (List.mem_append.mp mem).elim (ascii c) (ascii' c)
      rw [List.append_assoc, plain.letters _ both, plain.letters _ ascii, slashed_append,
        List.map_append, List.append_assoc]
    case bare =>
      intro bare
      rw [List.map_append, added] at bare
      exact absurd (List.suffix_append _ extension) bare

/-- What leads nowhere leaves no names behind. -/
theorem LeadsNowhere.passThrough {piece : List Char} (h : LeadsNowhere piece) :
    passThrough [] piece = [] := by
  cases h with
  | dot => exact passThrough_dot []
  | dots => exact passThrough_dots []
  | nothing => rfl

theorem GoesNowhere.passThrough {piece : List Char} (h : GoesNowhere piece)
    (above : List (List Char)) : passThrough above piece = above := by
  cases h with
  | dot => exact passThrough_dot above
  | detour h => exact passThrough_detour h above

/-- **A change leaves the names of a reference alone.** -/
theorem Respells.arrive (h : Respells text written) (plain : EndsPlainly text) :
    arrive [] written = arrive [] text := by
  cases h with
  | slash before after =>
    rw [List.append_assoc, List.singleton_append, arrive_separator (.inr rfl),
      List.append_assoc, List.singleton_append, arrive_separator (.inl rfl)]
  | letter before after letter letter' same =>
    have lower := lowercaseFrom_letter before after (.inr ⟨letter, letter', same⟩)
    rw [DispatchTables.arrive, ← lower]
    rfl
  | front nowhere text => rw [arrive_separator (.inl rfl), nowhere.passThrough]
  | between boundary nowhere after =>
    obtain ⟨above, behind⟩ := boundary.arrive
    rw [List.append_assoc, behind, behind, arrive_separator (.inl rfl), nowhere.passThrough]
  | @extended _ suffix added other =>
    have straight : slashed suffix = suffix :=
      slashed_of_not_mem fun mem => (ascii_of_extension added mem).2.2 rfl
    unfold DispatchTables.arrive
    rw [plain.letters suffix fun c mem => (ascii_of_extension added mem).1, straight, added,
      stripExtension_append, stripExtension_of_not_suffix (plain.bare other)]

/-- **However a reference is written, it has the same normal form**, and the names in that are
plain.  The reference is of ASCII and has no blanks around it; the names that detours go into may be
of any letters. -/
theorem normalize_respelled (ascii : ∀ c ∈ reference.toList, c.toNat < 128)
    (tight : Unpadded reference.toList) :
    (∃ names, normalize reference = joinSegments names ∧
      ∀ name ∈ names, IsKeyName name ∧ ∀ c ∈ name.toList, c.isUpper = false) ∧
    ∀ written, Relation.ReflTransGen Respells reference.toList written →
      normalize (String.ofList written) = normalize reference := by
  refine ⟨⟨normalSegments reference, rfl, fun name mem => ?_⟩, fun written changes => ?_⟩
  · have plain := isKeyName_of_mem_normalSegments mem
    exact ⟨plain, fun c mem => (plain.small c mem).not_isUpper⟩
  · have kept : Unpadded written ∧ EndsPlainly written ∧
        arrive [] written = arrive [] reference.toList := by
      induction changes with
      | refl => exact ⟨tight, endsPlainly_ascii ascii, rfl⟩
      | tail _ step ih =>
        obtain ⟨tight, plain, same⟩ := ih
        exact ⟨step.unpadded tight, step.endsPlainly plain, (step.arrive plain).trans same⟩
    obtain ⟨tight', -, same⟩ := kept
    rw [normalize, normalize, normalSegments_eq, normalSegments_eq, String.toList_ofList,
      tight'.trim, tight.trim, same]

theorem normalize_respelled_eye :
    (∀ c ∈ "Components/Eye".toList, c.toNat < 128) ∧ Unpadded "Components/Eye".toList ∧
      Relation.ReflTransGen Respells "Components/Eye".toList "../components\\x/../Eye.JSON".toList ∧
      normalize "../components\\x/../Eye.JSON" = normalize "Components/Eye" := by
  have ascii : ∀ c ∈ "Components/Eye".toList, c.toNat < 128 :=
    forall_mem_of_all (by decide +kernel)
  have tight : Unpadded "Components/Eye".toList :=
    ⟨stopsAt_cons (by decide +kernel) _, stopsAt_cons (by decide +kernel) _⟩
  have ordinary : IsOrdinary ['x'] :=
    ⟨by decide, by decide, by decide, by simp [IsSeparator], forall_mem_of_all (by decide)⟩
  have smaller : Respells "Components/Eye".toList "components/Eye".toList :=
    .letter [] "omponents/Eye".toList (c := 'C') (d := 'c') rfl rfl rfl
  have turned : Respells "components/Eye".toList "components\\Eye".toList :=
    .slash "components".toList "Eye".toList
  have boundary : AtBoundary "components\\".toList :=
    .inr ⟨"components".toList, '\\', rfl, .inr rfl⟩
  have detour : Respells "components\\Eye".toList "components\\x/../Eye".toList :=
    .between boundary (.detour ordinary) "Eye".toList
  have front : Respells "components\\x/../Eye".toList "../components\\x/../Eye".toList :=
    .front .dots _
  have added : ".JSON".toList.map Char.toLower = extension := by decide +kernel
  have named : Respells "../components\\x/../Eye".toList "../components\\x/../Eye.JSON".toList :=
    .extended added (by decide +kernel)
  have changes := (((Relation.ReflTransGen.single smaller).tail turned).tail detour).tail front
    |>.tail named
  have same := (normalize_respelled ascii tight).2 _ changes
  rw [String.ofList_toList] at same
  exact ⟨ascii, tight, changes, same⟩

end DispatchTables
