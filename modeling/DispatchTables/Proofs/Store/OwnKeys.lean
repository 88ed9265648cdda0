import DispatchTables.Proofs.Store.Growth
import DispatchTables.Proofs.Store.NormalForm

/-!
# Keys as references

A key is the normal form of a path, and a reference is brought to its normal form before it is
looked up.  So a key is found as a reference to itself if it is its own normal form, and that
depends on its two ends alone: taking the extension off a path, or the names and dots in front of
it, may leave a blank or another extension there, which are taken off again.

## Main Definitions

* `Store.descriptorFiles`: the files that a store is made of; `Store.keyBelow`, their keys.

## Main Statements

* `normalize_normalize_iff`: which normal forms are their own.
* `Store.resolveKey_own`: such a key is found as a reference to itself, and nothing else is done.
* `Store.get?_of_opened`: which file has a key.
* `Store.found_by_own_key`: which files are found by their own keys.
* `Store.own_keys_lost`: files that are not.
-/

namespace DispatchTables

open Text

variable {reference : String} {cs : List Char} {names above : List (List Char)}

/-! ### Texts that are trimmed -/

theorem stopsAt_dropBlank (cs : List Char) : StopsAt isBlank (dropBlank cs) := by
  intro c head
  have kept := List.head?_dropWhile_not isBlank cs
  rw [dropBlank] at head
  rw [head] at kept
  simpa using kept

/-- **What has been trimmed** has no blanks around it. -/
theorem unpadded_trimBlankChars (cs : List Char) : Unpadded (trimBlankChars cs) where
  begins := by
    -- trimming at the end leaves the front, unless nothing is left
    obtain ⟨after, whole⟩ : trimBlankChars cs <+: dropBlank cs := by
      rw [trimBlankChars, ← List.reverse_suffix, List.reverse_reverse]
      exact List.dropWhile_suffix isBlank
    have begins := stopsAt_dropBlank cs
    rw [← whole] at begins
    intro c head
    exact begins c (by rw [List.head?_append, head]; rfl)
  ends := by
    rw [trimBlankChars, List.reverse_reverse]
    exact stopsAt_dropBlank _

/-! ### How long a normal form is -/

/-- The room that names take with a slash behind each. -/
def extent : List (List Char) → Nat
  | [] => 0
  | name :: rest => name.length + 1 + extent rest

theorem extent_append (names more : List (List Char)) :
    extent (names ++ more) = extent names + extent more := by
  induction names with
  | nil => exact (Nat.zero_add _).symm
  | cons name rest ih =>
    rw [List.cons_append, extent, ih, extent]
    exact (Nat.add_assoc _ _ _).symm

theorem extent_reverse (names : List (List Char)) : extent names.reverse = extent names := by
  induction names with
  | nil => rfl
  | cons name rest ih =>
    rw [List.reverse_cons, extent_append, ih, extent, extent, extent, Nat.add_zero, Nat.add_comm]

theorem extent_intercalate (named : names ≠ []) :
    (['/'].intercalate names).length + 1 = extent names := by
  induction names with
  | nil => exact absurd rfl named
  | cons name rest ih =>
    by_cases last : rest = []
    · subst last
      simp [extent]
    · have later := ih last
      rw [List.intercalate_cons_of_ne_nil last]
      simp only [extent, List.length_append, List.length_singleton] at later ⊢
      omega

theorem extent_splitOn (cs : List Char) : extent (cs.splitOn '/') = cs.length + 1 := by
  rw [← extent_intercalate (List.splitOn_ne_nil _ _), List.intercalate_splitOn]

theorem extent_foldl_descend (pieces above : List (List Char)) :
    extent (pieces.foldl descend above) ≤ extent above + extent pieces := by
  induction pieces generalizing above with
  | nil => exact Nat.le_refl _
  | cons piece rest ih =>
    have step : extent (descend above piece) ≤ extent above + (piece.length + 1) := by
      unfold descend
      split
      · omega
      · split
        · have fewer : extent (above.drop 1) ≤ extent above := by
            cases above <;> simp [extent]
          omega
        · rw [extent]
          omega
    have later := ih (descend above piece)
    rw [List.foldl_cons, extent]
    omega

/-- A normal form is no longer than the text it is taken from. -/
theorem length_normalize_le (reference : String) :
    (normalize reference).toList.length ≤
      (stripExtension (lowercaseFrom [] (slashed (trimBlankChars reference.toList)))).length := by
  rw [normalize, toList_joinSegments, normalSegments_eq, List.map_map]
  have spelled : String.toList ∘ String.ofList = id := funext fun cs => String.toList_ofList
  rw [spelled, List.map_id]
  unfold arrive
  generalize stripExtension _ = plain
  have room := extent_foldl_descend (plain.splitOn '/') []
  rw [extent_splitOn] at room
  by_cases named : ((plain.splitOn '/').foldl descend []).reverse = []
  · rw [named]
    exact Nat.zero_le _
  · have joined := extent_intercalate named
    have nothing : extent [] = 0 := rfl
    rw [extent_reverse] at joined
    omega

/-! ### Normal forms of normal forms -/

theorem mem_joinSegments {c : Char} {segments : List String}
    (mem : c ∈ (joinSegments segments).toList) : c = '/' ∨ ∃ name ∈ segments, c ∈ name.toList := by
  rw [toList_joinSegments] at mem
  induction segments with
  | nil => cases mem
  | cons name rest ih =>
    by_cases last : rest = []
    · subst last
      exact .inr ⟨name, List.mem_cons_self, by simpa using mem⟩
    · rw [List.map_cons, List.intercalate_cons_of_ne_nil (by simpa using last)] at mem
      rcases List.mem_append.mp mem with front | later
      · rcases List.mem_append.mp front with inName | slash
        · exact .inr ⟨name, List.mem_cons_self, inName⟩
        · exact .inl (List.mem_singleton.mp slash)
      · rcases ih later with slash | ⟨other, inRest, inOther⟩
        · exact .inl slash
        · exact .inr ⟨other, List.mem_cons_of_mem name inRest, inOther⟩

/-- In a normal form all letters are small, and no slash is turned around. -/
theorem small_of_mem_normalize {c : Char} (mem : c ∈ (normalize reference).toList) :
    IsSmall c ∧ c ≠ '\\' := by
  rcases mem_joinSegments mem with rfl | ⟨name, inSegments, inName⟩
  · exact ⟨by decide +kernel, by decide⟩
  · have plain := isKeyName_of_mem_normalSegments inSegments
    exact ⟨plain.small c inName, fun turned => plain.noBackslash (turned ▸ inName)⟩

/-- Neither slashes nor letters change in a part of a normal form. -/
theorem lowercaseFrom_slashed_normalize (within : cs ⊆ (normalize reference).toList) :
    lowercaseFrom [] (slashed cs) = cs := by
  rw [slashed_of_not_mem fun mem => (small_of_mem_normalize (within mem)).2 rfl]
  exact lowercaseFrom_of_small fun c mem => (small_of_mem_normalize (within mem)).1

/-- Going through plain names leaves them behind. -/
theorem foldl_descend_plain
    (plain : ∀ name ∈ names, name ≠ [] ∧ name ≠ ['.'] ∧ name ≠ ['.', '.']) :
    names.foldl descend above = names.reverse ++ above := by
  induction names generalizing above with
  | nil => rfl
  | cons name rest ih =>
    obtain ⟨nonempty, dot, dots⟩ := plain name List.mem_cons_self
    have step : descend above name = name :: above := by
      rw [descend, if_neg (by simp [nonempty, dot]), if_neg dots]
    rw [List.foldl_cons, step, ih fun other mem => plain other (List.mem_cons_of_mem name mem),
      List.reverse_cons, List.append_assoc, List.singleton_append]

/-- **The names of a normal form are found again** if nothing is taken off its ends. -/
theorem normalSegments_normalize (tight : Unpadded (normalize reference).toList)
    (bare : ¬ extension <:+ (normalize reference).toList) :
    normalSegments (normalize reference) = normalSegments reference := by
  rw [normalSegments_eq, tight.trim]
  unfold arrive
  rw [lowercaseFrom_slashed_normalize (List.Subset.refl _), stripExtension_of_not_suffix bare]
  by_cases named : normalSegments reference = []
  · rw [named, normalize_eq_empty_iff.mpr named]
    rfl
  · rw [splitOn_normalize named, foldl_descend_plain, List.append_nil, List.reverse_reverse,
      List.map_map]
    · exact (List.map_congr_left fun name _ => String.ofList_toList).trans (List.map_id' _)
    · intro chars mem
      obtain ⟨name, inSegments, rfl⟩ := List.mem_map.mp mem
      have plain := isKeyName_of_mem_normalSegments inSegments
      refine ⟨fun same => plain.nonempty ?_, fun same => plain.ne_dot ?_,
        fun same => plain.ne_dots ?_⟩ <;> exact String.toList_injective same

/-- **Which normal forms are their own**: those that no blank stands around and that do not end in
an extension. -/
theorem normalize_normalize_iff (reference : String) :
    normalize (normalize reference) = normalize reference ↔
      Unpadded (normalize reference).toList ∧ ¬ extension <:+ (normalize reference).toList := by
  constructor
  · intro same
    obtain ⟨front, behind, -, -, whole⟩ := exists_padding (normalize reference).toList
    have within : trimBlankChars (normalize reference).toList ⊆ (normalize reference).toList := by
      conv => rhs; rw [whole]
      exact fun c mem => by simp [mem]
    have long := length_normalize_le (normalize reference)
    rw [same, lowercaseFrom_slashed_normalize within] at long
    have shorter := (stripExtension_shortens (trimBlankChars (normalize reference).toList)).length_le
    have parts := congrArg List.length whole
    rw [List.length_append, List.length_append] at parts
    -- nothing can have been taken off
    have trimmed : trimBlankChars (normalize reference).toList = (normalize reference).toList := by
      have none : front = [] := List.length_eq_zero_iff.mp (by omega)
      have none' : behind = [] := List.length_eq_zero_iff.mp (by omega)
      rw [none, none', List.nil_append, List.append_nil] at whole
      exact whole.symm
    refine ⟨trimmed ▸ unpadded_trimBlankChars _, ?_⟩
    rintro ⟨stem, ends⟩
    rw [trimmed, ← ends, stripExtension_append, List.length_append] at long
    have five : extension.length = 5 := rfl
    omega
  · rintro ⟨tight, bare⟩
    rw [normalize, normalSegments_normalize tight bare]
    rfl

namespace Store

variable {files : FileTree} {s : Store} {key root : String}

/-- **A key that is its own normal form is found**, as it stands, and nothing is reported. -/
theorem resolveKey_own (mem : key ∈ s.keys) (named : key ≠ "") (own : normalize key = key) :
    s.resolveKey key = (.ok key, s) := by
  have whole : tailAfter (normalSegments key) 0 = key := own
  have decides : s.Decides (normalSegments key) 0 := by
    refine ⟨fun none => named ?_, Nat.zero_le _, ⟨key, mem, .inl whole.symm⟩, nofun⟩
    rw [← own]
    exact normalize_eq_empty_iff.mpr none
  have matched : s.matchTail (tailAfter (normalSegments key) 0) = some (key, []) := by
    rw [whole]
    exact matchTail_eq_some_iff.mpr (.inl ⟨mem, rfl, rfl⟩)
  rw [resolveKey_of_decides decides matched]
  rfl

/-! ### The keys of a store just opened -/

/-- The descriptor files below a place, by the names that lead to them, in walking order. -/
def descriptorFiles (files : FileTree) (root : String) (place : Location) : List Location :=
  (files.filesBelow place).filter fun names =>
    isDescriptorFile (names.getLastD (Path.fileName root))

/-- The key of what stands below the root. -/
def keyBelow (names : Location) : String := normalize (joinSegments names)

/-- **A store just opened** has added the descriptor files one after the other. -/
theorem exists_of_opened (opened : ofDirectory files root = .ok s) :
    ∃ place, files.locate root = .ok place ∧
      s = (descriptorFiles files root place).foldl addFile (empty root) := by
  unfold ofDirectory at opened
  split at opened
  · cases opened
  · rename_i place located
    split at opened
    · cases opened
    · exact ⟨place, located, (Except.ok.inj opened).symm⟩

theorem addFile_root (s : Store) (names : Location) : (s.addFile names).root = s.root := by
  unfold addFile
  dsimp only
  split <;> rfl

/-- Adding a file gives it its key, unless that is taken. -/
theorem addFile_get? (s : Store) (names : Location) (key : String) :
    (s.addFile names).index.get? key =
      (s.index.get? key).or (if keyBelow names = key then some (pathBelow s.root names) else none) := by
  unfold addFile keyBelow
  dsimp only
  split
  · rename_i first taken
    by_cases same : normalize (joinSegments names) = key
    · rw [← same, warn, taken]
      rfl
    · rw [if_neg same, Option.or_none, warn]
  · rename_i free
    rw [KeyMap.get?_insert]
    by_cases same : normalize (joinSegments names) = key
    · rw [if_pos same, if_pos same, ← same, free]
      rfl
    · rw [if_neg same, if_neg same, Option.or_none]

/-- **Which file has a key**: the first on the walk whose path has it as its normal form. -/
theorem foldl_addFile_get? (found : List Location) (s : Store) (key : String) :
    (found.foldl addFile s).index.get? key =
      (s.index.get? key).or ((found.find? fun names => keyBelow names = key).map
        (pathBelow s.root)) := by
  induction found generalizing s with
  | nil => simp
  | cons names rest ih =>
    rw [List.foldl_cons, ih, addFile_get?, addFile_root, Option.or_assoc, List.find?_cons]
    by_cases same : keyBelow names = key <;> simp [same]

theorem get?_of_opened {place : Location} (located : files.locate root = .ok place)
    (opened : ofDirectory files root = .ok s) (key : String) :
    s.index.get? key = ((descriptorFiles files root place).find? fun names =>
      keyBelow names = key).map (pathBelow root) := by
  obtain ⟨there, located', rfl⟩ := exists_of_opened opened
  obtain rfl := Except.ok.inj (located.symm.trans located')
  exact foldl_addFile_get? _ _ _

/-- The keys of a store just opened are the normal forms of paths. -/
theorem exists_path_of_mem_keys (opened : ofDirectory files root = .ok s) (mem : key ∈ s.keys) :
    ∃ path, key = normalize path := by
  obtain ⟨place, located, -⟩ := exists_of_opened opened
  obtain ⟨path, there⟩ := Option.isSome_iff_exists.mp (KeyMap.mem_keys_iff.mp mem)
  rw [get?_of_opened located opened, Option.map_eq_some_iff] at there
  obtain ⟨names, first, -⟩ := there
  have named := List.find?_some first
  rw [decide_eq_true_eq] at named
  exact ⟨joinSegments names, named.symm⟩

/-- **Which files are found by their own keys.**  A key is its own normal form unless a blank stands
at one of its ends or it ends in an extension.  Then, if it is not empty, it is found as a reference
to itself, and loading it reads its file.  The empty key is never found. -/
theorem found_by_own_key (opened : ofDirectory files root = .ok s) (mem : key ∈ s.keys) :
    (normalize key = key ↔ Unpadded key.toList ∧ ¬ extension <:+ key.toList) ∧
    (key = "" → (s.resolveKey key).1 = .error (.notFound key)) ∧
    (key ≠ "" → normalize key = key →
      s.resolveKey key = (.ok key, s) ∧ (s.load files key).1 = s.readKey files key) := by
  refine ⟨?_, ?_, fun named own => ?_⟩
  · obtain ⟨path, spelled⟩ := exists_path_of_mem_keys opened mem
    rw [spelled]
    exact normalize_normalize_iff path
  · rintro rfl
    rfl
  · have found := resolveKey_own mem named own
    refine ⟨found, ?_⟩
    rw [(ofDirectory_faithful opened).load_eq, readReference, found]

/-- Environments of the same name in two directories, and files with keys that are not their own
normal forms. -/
def labFiles : FileTree where
  workingDirectory := []
  directories := [["lib"], ["lib", "a"], ["lib", "a", "environments"], ["lib", "environments"]]
  files := [
    (["lib", "..json"], "\x7b\x7d".toUTF8),
    (["lib", "a", "environments", "lab.json"],
      "\x7b\"allowed_components\": [\"ear\"]\x7d".toUTF8),
    (["lib", "environments", "lab.json"],
      "\x7b\"allowed_components\": [\"eye\"]\x7d".toUTF8),
    (["lib", "environments", "shop.json.json"],
      "\x7b\"allowed_components\": [\"eye\"]\x7d".toUTF8),
    (["lib", "y .json"], "\x7b\x7d".toUTF8)]

/-- The store of these files. -/
def labStore : Store :=
  [["..json"], ["a", "environments", "lab.json"], ["environments", "lab.json"],
    ["environments", "shop.json.json"], ["y .json"]].foldl addFile (.empty "/lib")

theorem ofDirectory_labFiles : ofDirectory labFiles "/lib" = .ok labStore :=
  ofDirectory_of_ordered ["lib"] _ (by decide +kernel) (by decide +kernel) (by decide +kernel)
    (by decide +kernel) (by decide +kernel)

theorem found_by_own_key_lab :
    "environments/lab" ∈ labStore.keys ∧ normalize "environments/lab" = "environments/lab" ∧
      labStore.resolveKey "environments/lab" = (.ok "environments/lab", labStore) := by
  have mem : "environments/lab" ∈ labStore.keys := by decide +kernel
  have own := found_by_own_key ofDirectory_labFiles mem
  have same : normalize "environments/lab" = "environments/lab" :=
    own.1.mpr ⟨⟨stopsAt_cons (by decide +kernel) _, stopsAt_cons (by decide +kernel) _⟩,
      by decide +kernel⟩
  exact ⟨mem, same, (own.2.2 (by decide) same).1⟩

/-- **Files that are not found by their own keys**: with nothing before the extension, with another
extension before it, and with a blank there. -/
theorem own_keys_lost :
    ofDirectory labFiles "/lib" = .ok labStore ∧
      ∀ key ∈ ["", "environments/shop.json", "y "], key ∈ labStore.keys ∧
        (key = "" ∨ normalize key ≠ key) ∧
        (labStore.resolveKey key).1.toOption = none := by
  exact ⟨ofDirectory_labFiles, by decide +kernel⟩

end Store

end DispatchTables
