import DispatchTables.Proofs.Lists.Places
import DispatchTables.Store.Load
import Mathlib.Data.List.Basic
import Mathlib.Data.List.Induction

/-!
# Places in a file tree

A path is looked up name by name, and every step starts in a directory.  So the names of a place
lead there if the tree is closed: whatever has a place in it stands in a directory.  Then a path
from the root of the file system leads to the place that it spells, and what a walk over a directory
meets is found again by its path.  Trees stay closed whatever is done to them.

## Main Definitions

* `IsEntryName`: the names that stand in directories.
* `FileTree.Closed`: whatever has a place stands in a directory.
* `FileTree.documentAt?`: the document in the file at a place.

## Main Statements

* `FileTree.resolve_join`: the look-up of a path goes on where that of its front has ended.
* `FileTree.Closed.resolve_foldl_join`, `FileTree.Closed.resolve_absolute`: the names of a place
  lead there.
* `FileTree.readDescriptor_of_resolve`: which document is read by a path.
* `FileTree.hasFile_of_mem_filesBelow`: what a walk meets is there.
* `FileTree.Closed.write`, `FileTree.Closed.makeDirectories`, `FileTree.Closed.remove`: trees stay
  closed.
-/

namespace DispatchTables

/-- A name that stands in a directory. -/
structure IsEntryName (name : String) : Prop where
  nonempty : name ≠ ""
  ne_dot : name ≠ "."
  ne_dots : name ≠ ".."
  noSlash : '/' ∉ name.toList
  noNul : '\x00' ∉ name.toList
  short : name.utf8ByteSize ≤ 255

instance (name : String) : Decidable (IsEntryName name) :=
  decidable_of_iff (name ≠ "" ∧ name ≠ "." ∧ name ≠ ".." ∧ '/' ∉ name.toList ∧
      '\x00' ∉ name.toList ∧ name.utf8ByteSize ≤ 255)
    ⟨fun ⟨nonempty, dot, dots, slash, nul, short⟩ => ⟨nonempty, dot, dots, slash, nul, short⟩,
      fun h => ⟨h.nonempty, h.ne_dot, h.ne_dots, h.noSlash, h.noNul, h.short⟩⟩

/-! ### The parts of a path -/

namespace Path

variable {base name : String}

theorem isAbsolute_of_noSlash (plain : '/' ∉ name.toList) : isAbsolute name = false := by
  rw [isAbsolute, beq_eq_false_iff_ne]
  intro head
  exact plain (List.mem_of_head? head)

/-- What joining adds to the characters of a path. -/
theorem toList_join (named : base ≠ "") (plain : '/' ∉ name.toList) :
    (∃ stem, base.toList = stem ++ ['/'] ∧ (join base name).toList = stem ++ '/' :: name.toList) ∨
      (join base name).toList = base.toList ++ '/' :: name.toList := by
  have nonempty : base.isEmpty = false := by
    simpa using named
  unfold join
  rw [isAbsolute_of_noSlash plain, nonempty, Bool.or_self, if_neg Bool.false_ne_true]
  by_cases slash : base.toList.getLast? = some '/'
  · obtain ⟨stem, ends⟩ := List.getLast?_eq_some_iff.mp slash
    refine .inl ⟨stem, ends, ?_⟩
    rw [if_pos (by simp [slash]), String.toList_append, ends, List.append_assoc]
    rfl
  · refine .inr ?_
    rw [if_neg (by simpa using slash), String.toList_append, String.toList_append,
      List.append_assoc]
    rfl

theorem parts_of_noSlash (plain : '/' ∉ name.toList) : parts name = [name] := by
  rw [parts, List.splitOn_eq_singleton plain, List.map_singleton, String.ofList_toList]

/-- A part of a path holds what the path holds, but no slash. -/
theorem of_mem_parts {path : String} (mem : name ∈ parts path) :
    '/' ∉ name.toList ∧ name.toList ⊆ path.toList := by
  obtain ⟨piece, inside, rfl⟩ := List.mem_map.mp mem
  rw [String.toList_ofList]
  exact ⟨not_mem_of_mem_splitOn inside, fun c => mem_of_mem_splitOn inside⟩

/-- The parts of a path that is joined are those of both, up to an empty one between them. -/
theorem parts_join (named : base ≠ "") (plain : '/' ∉ name.toList) :
    ∃ front, (parts base = front ++ [""] ∨ parts base = front) ∧
      parts (join base name) = front ++ [name] := by
  rcases toList_join named plain with ⟨stem, ends, joined⟩ | joined
  · refine ⟨(stem.splitOn '/').map String.ofList, .inl ?_, ?_⟩
    · rw [parts, ends, List.splitOn_append_cons_self, List.map_append]
      rfl
    · rw [parts, joined, List.splitOn_append_cons_self, List.map_append]
      exact congrArg _ (parts_of_noSlash plain)
  · refine ⟨parts base, .inr rfl, ?_⟩
    rw [parts, joined, List.splitOn_append_cons_self, List.map_append]
    exact congrArg _ (parts_of_noSlash plain)

/-- Joining adds no character but a slash. -/
theorem mem_join {c : Char} (named : base ≠ "") (plain : '/' ∉ name.toList)
    (mem : c ∈ (join base name).toList) : c ∈ base.toList ∨ c = '/' ∨ c ∈ name.toList := by
  rcases toList_join named plain with ⟨stem, ends, joined⟩ | joined
  · rw [joined, List.mem_append, List.mem_cons] at mem
    exact mem.imp_left fun early => ends ▸ List.mem_append_left _ early
  · rwa [joined, List.mem_append, List.mem_cons] at mem

theorem join_ne_empty (named : base ≠ "") (plain : '/' ∉ name.toList) : join base name ≠ "" := by
  intro empty
  rcases toList_join named plain with ⟨stem, -, joined⟩ | joined <;>
  · rw [empty] at joined
    simp at joined

theorem isAbsolute_join (named : base ≠ "") (plain : '/' ∉ name.toList) :
    isAbsolute (join base name) = isAbsolute base := by
  unfold isAbsolute
  rcases toList_join named plain with ⟨stem, ends, joined⟩ | joined
  · rw [joined, ends]
    cases stem <;> rfl
  · obtain ⟨c, rest, spelled⟩ := List.exists_cons_of_ne_nil (by simpa using named : base.toList ≠ [])
    rw [joined, spelled]
    rfl

/-- A name is joined behind a slash to a path that does not end in one. -/
theorem join_eq (named : base ≠ "") (unslashed : base.toList.getLast? ≠ some '/')
    (plain : '/' ∉ name.toList) : join base name = base ++ "/" ++ name := by
  have nonempty : base.isEmpty = false := by
    simpa using named
  unfold join
  rw [isAbsolute_of_noSlash plain, nonempty, Bool.or_self, if_neg Bool.false_ne_true,
    if_neg (by simpa using unslashed)]

theorem absolute_concat {names : List String} (some : names ≠ []) (name : String) :
    absolute (names ++ [name]) = absolute names ++ "/" ++ name := by
  rw [absolute, String.intercalate_append_of_ne_nil some (List.cons_ne_nil _ _),
    String.intercalate_singleton, absolute, String.append_assoc, String.append_assoc,
    String.append_assoc]

theorem absolute_singleton (name : String) : absolute [name] = "/" ++ name := by
  rw [absolute, String.intercalate_singleton]

/-- A path from the root does not end in a slash when its last name does not. -/
theorem getLast?_absolute {names : List String} (entry : IsEntryName name) :
    (absolute (names ++ [name])).toList.getLast? ≠ some '/' := by
  have ends : ∃ front, absolute (names ++ [name]) = front ++ name := by
    by_cases none : names = []
    · exact ⟨"/", by rw [none, List.nil_append, absolute_singleton]⟩
    · exact ⟨_, absolute_concat none name⟩
  obtain ⟨front, spelled⟩ := ends
  intro last
  rw [spelled, String.toList_append,
    List.getLast?_append_of_ne_nil _ (by simpa using entry.nonempty)] at last
  exact entry.noSlash (List.mem_of_getLast? last)

/-- **The path from the root** is what its names give when they are joined to a slash. -/
theorem absolute_eq_foldl_join {names : List String} (named : ∀ name ∈ names, IsEntryName name) :
    absolute names = names.foldl join "/" := by
  induction names using List.reverseRecOn with
  | nil => rfl
  | append_singleton names name ih =>
    have entry := named name (List.mem_append_right _ List.mem_cons_self)
    have earlier : ∀ other ∈ names, IsEntryName other :=
      fun other mem => named other (List.mem_append_left _ mem)
    rw [List.foldl_append, List.foldl_cons, List.foldl_nil, ← ih earlier]
    rcases List.eq_nil_or_concat names with rfl | ⟨front, last, rfl⟩
    · rw [List.nil_append, absolute_singleton, join, isAbsolute_of_noSlash entry.noSlash]
      rfl
    · rw [List.concat_eq_append] at earlier ⊢
      have unslashed : (absolute (front ++ [last])).toList.getLast? ≠ some '/' :=
        getLast?_absolute (earlier last (List.mem_append_right _ List.mem_cons_self))
      rw [absolute_concat (by simp), join_eq _ unslashed entry.noSlash]
      intro empty
      have short := congrArg String.toList empty
      rw [absolute, String.toList_append] at short
      cases short

end Path

namespace FileTree

variable {t : FileTree} {path root name : String} {here place above names : Location}

/-! ### Closed trees -/

/-- Whether anything is at a location. -/
def hasPlace (t : FileTree) (place : Location) : Bool := t.hasDirectory place || t.hasFile place

/-- **A closed tree**: whatever has a place stands in a directory, under a name of its own. -/
def Closed (t : FileTree) : Prop :=
  ∀ place ∈ t.directories ++ t.files.map (·.1),
    place = [] ∨ IsEntryName (place.getLastD "") ∧ t.hasDirectory place.dropLast = true

instance (t : FileTree) : Decidable t.Closed :=
  inferInstanceAs (Decidable (∀ place ∈ t.directories ++ t.files.map (·.1), _ ∨ _ ∧ _))

theorem hasFile_iff : t.hasFile place = true ↔ place ∈ t.files.map (·.1) := by
  rw [hasFile, content?, List.lookup_isSome_iff]
  simp

theorem hasPlace_iff :
    t.hasPlace place = true ↔ place = [] ∨ place ∈ t.directories ++ t.files.map (·.1) := by
  rw [hasPlace, Bool.or_eq_true, hasFile_iff, hasDirectory, Bool.or_eq_true, List.mem_append,
    List.isEmpty_iff, List.contains_iff_mem, or_assoc]

/-- **One step up**: what has a place stands in a directory. -/
theorem Closed.stands (closed : t.Closed) (has : t.hasPlace (here ++ [name]) = true) :
    IsEntryName name ∧ t.hasDirectory here = true := by
  have mem := (hasPlace_iff.mp has).resolve_left (by simp)
  simpa using (closed _ mem).resolve_left (by simp)

theorem hasPlace_of_hasDirectory (there : t.hasDirectory place = true) :
    t.hasPlace place = true := by
  rw [hasPlace, there, Bool.true_or]

theorem hasPlace_of_hasFile (there : t.hasFile place = true) : t.hasPlace place = true := by
  rw [hasPlace, there, Bool.or_true]

/-- All names of a place are names of entries. -/
theorem Closed.isEntryName (closed : t.Closed) (has : t.hasPlace place = true) :
    ∀ name ∈ place, IsEntryName name := by
  induction place using List.reverseRecOn with
  | nil => exact nofun
  | append_singleton here name ih =>
    obtain ⟨entry, there⟩ := closed.stands has
    intro other mem
    rcases List.mem_append.mp mem with earlier | last
    · exact ih (hasPlace_of_hasDirectory there) other earlier
    · exact List.mem_singleton.mp last ▸ entry

/-! ### Looking up -/

/-- **The step of a look-up** leads to every place in a closed tree. -/
theorem Closed.enter (closed : t.Closed) (has : t.hasPlace (here ++ [name]) = true) :
    t.enter here name = .ok (here ++ [name]) := by
  obtain ⟨entry, there⟩ := closed.stands has
  unfold FileTree.enter
  rw [there, if_neg (by decide), if_neg (by simp [entry.nonempty, entry.ne_dot]),
    if_neg entry.ne_dots, if_neg (Nat.not_lt.mpr entry.short)]
  exact if_pos has

theorem resolve_eq_ok_iff :
    t.resolve path = .ok place ↔ '\x00' ∉ path.toList ∧ path ≠ "" ∧
      (Path.parts path).foldlM t.enter (t.start path) = .ok place := by
  unfold resolve checkText
  by_cases nul : path.toList.contains '\x00' = true
  · rw [if_pos nul]
    exact ⟨nofun, fun h => absurd (List.contains_iff_mem.mp nul) h.1⟩
  · rw [if_neg nul]
    by_cases empty : path.isEmpty = true
    · rw [if_pos empty]
      exact ⟨nofun, fun h => absurd (String.isEmpty_iff.mp empty) h.2.1⟩
    · rw [if_neg empty]
      exact ⟨fun found => ⟨fun mem => nul (List.contains_iff_mem.mpr mem),
        fun same => empty (String.isEmpty_iff.mpr same), found⟩, fun h => h.2.2⟩

/-- An empty part leads nowhere else. -/
theorem enter_empty (leads : t.enter here "" = .ok place) : here = place := by
  unfold FileTree.enter at leads
  split at leads
  · cases leads
  · exact Except.ok.inj leads

/-- **The look-up of a path goes on** where that of its front has ended. -/
theorem resolve_join (entry : IsEntryName name) (resolved : t.resolve root = .ok here)
    (leads : t.enter here name = .ok place) : t.resolve (Path.join root name) = .ok place := by
  obtain ⟨noNul, named, walked⟩ := resolve_eq_ok_iff.mp resolved
  rw [resolve_eq_ok_iff]
  refine ⟨?_, Path.join_ne_empty named entry.noSlash, ?_⟩
  · intro nul
    rcases Path.mem_join named entry.noSlash nul with early | slash | late
    · exact noNul early
    · cases slash
    · exact entry.noNul late
  · have start : t.start (Path.join root name) = t.start root := by
      rw [FileTree.start, Path.isAbsolute_join named entry.noSlash, FileTree.start]
    obtain ⟨front, parts, joined⟩ := Path.parts_join named entry.noSlash
    -- the front may end in a slash, behind which an empty part is left
    have walked' : front.foldlM t.enter (t.start root) = .ok here := by
      rcases parts with parts | parts
      · rw [parts, List.foldlM_append] at walked
        cases reached : front.foldlM t.enter (t.start root) with
        | error fault =>
          rw [reached] at walked
          cases walked
        | ok last =>
          rw [reached] at walked
          rw [enter_empty ((bind_pure _).symm.trans walked)]
      · rw [← parts, walked]
    rw [start, joined, List.foldlM_append, walked']
    exact (bind_pure _).trans leads

/-- **The names below a directory lead to what stands there**, joined to its path. -/
theorem Closed.resolve_foldl_join (closed : t.Closed) (resolved : t.resolve root = .ok above)
    (has : t.hasPlace (above ++ names) = true) :
    t.resolve (names.foldl Path.join root) = .ok (above ++ names) := by
  induction names using List.reverseRecOn with
  | nil => rw [List.append_nil]; exact resolved
  | append_singleton names name ih =>
    rw [← List.append_assoc] at has ⊢
    obtain ⟨entry, there⟩ := closed.stands has
    rw [List.foldl_append, List.foldl_cons, List.foldl_nil]
    exact resolve_join entry (ih (hasPlace_of_hasDirectory there)) (closed.enter has)

/-- **The names of a place lead there** from the root of the file system. -/
theorem Closed.resolve_absolute (closed : t.Closed) (has : t.hasPlace place = true) :
    t.resolve (Path.absolute place) = .ok place := by
  have top : t.resolve "/" = .ok [] := by
    refine resolve_eq_ok_iff.mpr ⟨by decide, by decide, ?_⟩
    have parts : Path.parts "/" = ["", ""] := by decide +kernel
    rw [parts]
    rfl
  rw [Path.absolute_eq_foldl_join (closed.isEntryName has)]
  exact closed.resolve_foldl_join top has

theorem locate_of_resolve (resolved : t.resolve path = .ok place) :
    t.locate path = if Path.isTooLong path then .error .nameTooLong else .ok place := by
  have taken : checkText path = .ok () := by
    obtain ⟨noNul, named, -⟩ := resolve_eq_ok_iff.mp resolved
    unfold checkText
    rw [if_neg (by simpa using noNul), if_neg (by simpa using named)]
  unfold locate checkPath
  rw [taken, resolved]
  by_cases long : Path.isTooLong path = true
  · rw [if_pos long, if_pos long]
    rfl
  · rw [if_neg long, if_neg long]
    rfl

theorem resolve_of_locate (leads : t.locate path = .ok place) : t.resolve path = .ok place := by
  unfold locate at leads
  cases taken : checkPath path with
  | error fault =>
    rw [taken] at leads
    cases leads
  | ok _ =>
    rw [taken] at leads
    exact leads

/-! ### Documents -/

/-- The document in the file at a place. -/
def documentAt? (t : FileTree) (place : Location) : Option Members := do
  let text ← String.fromUTF8? (← t.content? place)
  (readDocument text).toOption

/-- A document stands in a file. -/
theorem hasFile_of_documentAt? {doc : Members} (holds : t.documentAt? place = some doc) :
    t.hasFile place = true := by
  obtain ⟨content, present, -⟩ := Option.bind_eq_some_iff.mp holds
  rw [hasFile, present, Option.isSome_some]

/-- **Which document is read by a path**: that of the file it leads to. -/
theorem readDescriptor_of_resolve (resolved : t.resolve path = .ok place) (key : String) :
    (readDescriptor t key path).toOption =
      if Path.isTooLong path then none
      else (t.documentAt? place).map (Descriptor.ofDocument key path) := by
  unfold readDescriptor readText read documentAt?
  rw [locate_of_resolve resolved]
  by_cases long : Path.isTooLong path = true
  · rw [if_pos long, if_pos long]
    rfl
  · rw [if_neg long, if_neg long]
    dsimp only [bind, Except.bind]
    cases t.content? place with
    | none => rfl
    | some content =>
      dsimp only [Option.bind]
      cases String.fromUTF8? content with
      | none => rfl
      | some text =>
        dsimp only
        cases readDocument text <;> rfl

/-! ### Walking -/

theorem below?_eq_some_iff : below? above place = some names ↔ place = above ++ names := by
  fun_induction below? above place with
  | case1 place => simp
  | case2 name above => simp
  | case3 name above place ih => simpa using ih
  | case4 name above other place differs => simp [Ne.symm differs]

/-- **A walk meets what stands below its root.** -/
theorem hasFile_of_mem_filesBelow (mem : names ∈ t.filesBelow above) :
    t.hasFile (above ++ names) = true := by
  rw [filesBelow, List.mem_mergeSort] at mem
  obtain ⟨f, inFiles, below⟩ := List.mem_filterMap.mp (List.mem_filter.mp mem).1
  exact hasFile_iff.mpr (List.mem_map.mpr ⟨f, inFiles, below?_eq_some_iff.mp below⟩)

/-! ### Changing -/

theorem closed_iff : t.Closed ↔ ∀ here name, t.hasPlace (here ++ [name]) = true →
    IsEntryName name ∧ t.hasDirectory here = true := by
  refine ⟨fun closed here name => closed.stands, fun stands place mem => ?_⟩
  rcases List.eq_nil_or_concat place with rfl | ⟨here, name, rfl⟩
  · exact .inl rfl
  · rw [List.concat_eq_append] at mem ⊢
    simpa using stands here name (hasPlace_iff.mpr (.inr mem))

/-- A tree stays closed if it keeps its directories and only an entry of one of them is new. -/
theorem Closed.of_new {t' : FileTree} (closed : t.Closed) (entry : IsEntryName name)
    (there : t.hasDirectory here = true)
    (kept : ∀ place, t.hasDirectory place = true → t'.hasDirectory place = true)
    (new : ∀ place, t'.hasPlace place = true →
      place = here ++ [name] ∨ t.hasPlace place = true) : t'.Closed := by
  refine closed_iff.mpr fun above other has => ?_
  rcases new _ has with same | old
  · obtain ⟨rfl, last⟩ := List.append_inj' same rfl
    obtain rfl := List.singleton_inj.mp last
    exact ⟨entry, kept _ there⟩
  · exact (closed.stands old).imp id (kept above)

theorem nul_not_mem_of_checkPath (taken : checkPath path = .ok ()) : '\x00' ∉ path.toList := by
  unfold checkPath checkText at taken
  split at taken
  · cases taken
  · rename_i clean
    exact fun mem => clean (List.contains_iff_mem.mpr mem)

/-- **The last name of a path** stands in a directory, and only dots or its length can keep it from
being the name of an entry. -/
theorem locateParent_spec {slash : Bool}
    (found : t.locateParent path = .ok (here, some name, slash)) :
    t.hasDirectory here = true ∧
      (¬ (name = "." ∨ name = "..") → ¬ name.utf8ByteSize > 255 → IsEntryName name) := by
  unfold locateParent at found
  dsimp only [bind, Except.bind] at found
  split at found
  · cases found
  · rename_i taken
    have clean := nul_not_mem_of_checkPath taken
    split at found
    · cases found
    · rename_i last before parts
      split at found
      · cases found
      · split at found
        · rename_i there
          cases found
          have mem : name ∈ Path.parts path := by
            have within := List.dropWhile_suffix (l := (Path.parts path).reverse) (· == "")
            rw [parts] at within
            exact List.mem_reverse.mp (within.subset List.mem_cons_self)
          have named : name ≠ "" := by
            have kept := List.head?_dropWhile_not (· == "") (Path.parts path).reverse
            rw [parts] at kept
            simpa using kept
          obtain ⟨noSlash, within⟩ := Path.of_mem_parts mem
          refine ⟨there, fun plain short => ⟨named, fun dot => plain (.inl dot),
            fun dots => plain (.inr dots), noSlash, fun nul => clean (within nul), ?_⟩⟩
          exact Nat.not_lt.mp short
        · cases found

theorem hasFile_put {content : ByteArray} {other : Location} :
    (t.put place content).hasFile other = true ↔ other = place ∨ t.hasFile other = true := by
  rw [hasFile_iff, hasFile_iff, put]
  by_cases same : other = place
  · simp [same]
  · simp [same]

theorem hasDirectory_cons {other : Location} :
    { t with directories := place :: t.directories }.hasDirectory other = true ↔
      other = place ∨ t.hasDirectory other = true := by
  rw [hasDirectory, hasDirectory, List.contains_cons, Bool.or_eq_true, Bool.or_eq_true,
    Bool.or_eq_true, beq_iff_eq, or_left_comm]

/-- **Writing a file leaves a tree closed.** -/
theorem Closed.write {t' : FileTree} {content : ByteArray} (closed : t.Closed)
    (written : t.write path content = .ok t') : t'.Closed := by
  unfold FileTree.write at written
  dsimp only [bind, Except.bind] at written
  split at written
  · cases written
  · rename_i found
    split at written
    · rename_i here name
      obtain ⟨there, entry⟩ := locateParent_spec found
      split at written
      · cases written
      · rename_i plain
        split at written
        · cases written
        · rename_i short
          split at written
          · cases written
          · cases written
            refine closed.of_new (entry plain short) there (fun _ old => old) fun place has => ?_
            rcases (Bool.or_eq_true _ _).mp has with directory | file
            · exact .inr (hasPlace_of_hasDirectory directory)
            · exact (hasFile_put.mp file).imp_right hasPlace_of_hasFile
    · cases written

/-- **Making a directory leaves a tree closed.** -/
theorem Closed.makeDirectory {t' : FileTree} (closed : t.Closed)
    (made : t.makeDirectory path = .ok t') : t'.Closed := by
  unfold FileTree.makeDirectory at made
  dsimp only [bind, Except.bind] at made
  split at made
  · cases made
  · rename_i found
    split at made
    · rename_i here name slash
      obtain ⟨there, entry⟩ := locateParent_spec found
      split at made
      · cases made
      · rename_i plain
        split at made
        · cases made
        · rename_i short
          split at made
          · cases made
          · cases made
            refine closed.of_new (entry plain short) there (fun place old => ?_)
              fun place has => ?_
            · exact hasDirectory_cons.mpr (.inr old)
            · rcases (Bool.or_eq_true _ _).mp has with directory | file
              · exact (hasDirectory_cons.mp directory).imp_right hasPlace_of_hasDirectory
              · exact .inr (hasPlace_of_hasFile file)
    · cases made

theorem Closed.ensureDirectory {t' : FileTree} (closed : t.Closed)
    (made : t.ensureDirectory path = .ok t') : t'.Closed := by
  unfold FileTree.ensureDirectory at made
  split at made
  · rename_i new
    cases made
    exact closed.makeDirectory new
  · split at made
    · cases made
      exact closed
    · cases made

theorem Closed.makeNested {paths : List String} {t t' : FileTree} (closed : t.Closed)
    (made : t.makeNested paths = .ok t') : t'.Closed := by
  induction paths generalizing t' with
  | nil =>
    cases made
    exact closed
  | cons path shorter ih =>
    unfold FileTree.makeNested at made
    split at made
    · rename_i first
      cases made
      exact closed.ensureDirectory first
    · dsimp only [bind, Except.bind] at made
      split at made
      · cases made
      · rename_i below
        exact (ih below).ensureDirectory made
    · cases made

/-- **Making nested directories leaves a tree closed.** -/
theorem Closed.makeDirectories {t' : FileTree} (closed : t.Closed)
    (made : t.makeDirectories path = .ok t') : t'.Closed :=
  closed.makeNested made

/-- **Removing a file leaves a tree closed.** -/
theorem Closed.remove (closed : t.Closed) (path : String) : (t.remove path).Closed := by
  unfold FileTree.remove
  split
  · refine closed_iff.mpr fun here name has => closed.stands ?_
    rcases (Bool.or_eq_true _ _).mp has with directory | file
    · exact hasPlace_of_hasDirectory directory
    · obtain ⟨f, mem, same⟩ := List.mem_map.mp (hasFile_iff.mp file)
      exact hasPlace_of_hasFile
        (hasFile_iff.mpr (List.mem_map.mpr ⟨f, (List.mem_filter.mp mem).1, same⟩))
  · exact closed

end FileTree

end DispatchTables
