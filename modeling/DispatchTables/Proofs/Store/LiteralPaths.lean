import DispatchTables.Proofs.Files.Places
import DispatchTables.Proofs.Store.OwnKeys

/-!
# Bots named by a path

A bot may be named by a path that leads to its file.  The file is then looked for in the store
under the key of its place, which is the normal form of its path.  Other files may have that key as
well.  If one of them is in the index, it answers for the file that the path leads to, and the two
need not hold the same.

## Main Definitions

* `Store.Unread`: a store of which nothing has been read since it was opened.
* `Store.keyAt`: the key of a place, below the root of a store or elsewhere.
* `Store.answering`: the file that is read for the file at a place, by its path and its own place.

## Main Statements

* `Store.resolve_answering`: the path of the file that answers leads to its place.
* `Store.locateBot_literal`: what is read for a path.
* `Store.literal_path_misread`: another file is read than the one that a path leads to.
-/

namespace DispatchTables

theorem KeyMap.get?_insertNew_self {α : Type} (m : KeyMap α) (key : String) (value : α) :
    (m.insertNew key value).get? key = some ((m.get? key).getD value) := by
  unfold KeyMap.insertNew KeyMap.has
  cases found : m.get? key with
  | none =>
    rw [if_neg (by simp), KeyMap.get?_insert, if_pos rfl]
    rfl
  | some first =>
    rw [if_pos (by simp), found]
    rfl

namespace Store

variable {files : FileTree} {s : Store} {root name : String} {above place : Location}
  {doc : Members}

/-- **A store of which nothing has been read**: it knows the files that it was opened with, and
keeps no document. -/
structure Unread (files : FileTree) (root : String) (s : Store) : Prop where
  root_eq : s.root = root
  index : ∃ fresh, ofDirectory files root = .ok fresh ∧ s.index = fresh.index
  nothing : s.cache = .empty

theorem unread_of_opened (opened : ofDirectory files root = .ok s) : s.Unread files root where
  root_eq := ofDirectory_induction (P := fun u => u.root = root) rfl
    (fun u names same => (addFile_root u names).trans same) opened
  index := ⟨s, opened, rfl⟩
  nothing := ofDirectory_cache opened

/-- The key of a place, when the root of the store is at another. -/
def keyAt (above place : Location) : String :=
  normalize (match FileTree.below? above place with
    | some names => joinSegments names
    | none => Path.absolute place)

/-- **The file that answers for the one at a place**, by its path and its place: the first on the
walk that has the same key, or else that file itself. -/
def answering (files : FileTree) (root : String) (above place : Location) : String × Location :=
  match (descriptorFiles files root above).find? fun names => keyBelow names = keyAt above place with
  | some names => (pathBelow root names, above ++ names)
  | none => (Path.absolute place, place)

/-- A file whose key no other one has answers for itself. -/
theorem answering_of_alone (alone : ∀ names ∈ descriptorFiles files root above,
    keyBelow names = keyAt above place → above ++ names = place) :
    (answering files root above place).2 = place := by
  unfold answering
  split
  · rename_i names first
    have same := List.find?_some first
    rw [decide_eq_true_eq] at same
    exact alone names (List.mem_of_find?_eq_some first) same
  · rfl

/-- **The path of the file that answers leads to its place.** -/
theorem resolve_answering (closed : files.Closed) (located : files.locate root = .ok above)
    (there : files.hasFile place = true) :
    files.resolve (answering files root above place).1 =
      .ok (answering files root above place).2 := by
  unfold answering
  split
  · rename_i names first
    have found := (List.mem_filter.mp (List.mem_of_find?_eq_some first)).1
    exact closed.resolve_foldl_join (FileTree.resolve_of_locate located)
      (FileTree.hasPlace_of_hasFile (FileTree.hasFile_of_mem_filesBelow found))
  · exact closed.resolve_absolute (FileTree.hasPlace_of_hasFile there)

/-- **The path by which a file is read** that a path leads to: what the index has under its key,
or else the path from the root of the file system. -/
theorem locateBot_fst (nothing : s.cache = .empty) (located : files.resolve s.root = .ok above)
    (leads : files.locate name = .ok place) (there : files.hasFile place = true) :
    (s.locateBot files name).1 = readDescriptor files (keyAt above place)
      ((s.index.get? (keyAt above place)).getD (Path.absolute place)) := by
  have isFile : files.isFile name = true := by
    rw [FileTree.isFile, leads]
    exact there
  have key : s.keyOfLocation files place = keyAt above place := by
    rw [keyOfLocation, located]
    rfl
  unfold locateBot loadFile
  rw [if_pos isFile, FileTree.resolve_of_locate leads]
  dsimp only
  rw [key]
  unfold loadKey
  dsimp only
  rw [nothing, KeyMap.get?_empty, KeyMap.get?_insertNew_self]
  dsimp only
  generalize readDescriptor files _ _ = out
  cases out <;> rfl

/-- In a store of which nothing has been read the first file on the walk is found. -/
theorem Unread.get? (unread : s.Unread files root) (located : files.locate root = .ok above)
    (place : Location) :
    (s.index.get? (keyAt above place)).getD (Path.absolute place) =
      (answering files root above place).1 := by
  obtain ⟨fresh, opened, same⟩ := unread.index
  rw [same, get?_of_opened located opened, answering]
  generalize List.find? _ _ = first
  cases first <;> rfl

/-- **What is read for a path**: the document of the file that answers for the one it leads to,
unless the path of that file is too long.  So the document of the file itself is read just if the
file that answers holds the same, as it does if no other one has its key. -/
theorem locateBot_literal (closed : files.Closed) (unread : s.Unread files root)
    (located : files.locate root = .ok above) (leads : files.locate name = .ok place)
    (holds : files.documentAt? place = some doc) :
    ((s.locateBot files name).1.toOption =
      if Path.isTooLong (answering files root above place).1 then none
      else (files.documentAt? (answering files root above place).2).map
        (.ofDocument (keyAt above place) (answering files root above place).1)) ∧
    ((∃ d, (s.locateBot files name).1 = .ok d ∧ d.doc = doc) ↔
      Path.isTooLong (answering files root above place).1 = false ∧
        files.documentAt? (answering files root above place).2 = some doc) ∧
    ((∀ names ∈ descriptorFiles files root above,
        keyBelow names = keyAt above place → above ++ names = place) →
      (answering files root above place).2 = place) := by
  have there : files.hasFile place = true := FileTree.hasFile_of_documentAt? holds
  have located' : files.resolve s.root = .ok above :=
    unread.root_eq.symm ▸ FileTree.resolve_of_locate located
  have read : (s.locateBot files name).1.toOption = _ :=
    (congrArg Except.toOption ((locateBot_fst unread.nothing located' leads there).trans
      (by rw [unread.get? located]))).trans
      (FileTree.readDescriptor_of_resolve (resolve_answering closed located there) _)
  refine ⟨read, ?_, answering_of_alone⟩
  have told : (∃ d, (s.locateBot files name).1 = .ok d ∧ d.doc = doc) ↔
      (s.locateBot files name).1.toOption.map (·.doc) = some doc := by
    cases (s.locateBot files name).1 <;> simp [Except.toOption]
  rw [told, read]
  cases Path.isTooLong (answering files root above place).1 with
  | true => simp
  | false =>
    rw [if_neg Bool.false_ne_true, Option.map_map]
    have kept : (·.doc) ∘ Descriptor.ofDocument (keyAt above place)
        (answering files root above place).1 = id := rfl
    rw [kept, Option.map_id_fun, id_eq]
    exact (and_iff_right rfl).symm

/-- Two files below a root, of one key. -/
def twinFiles : FileTree where
  workingDirectory := ["work"]
  directories := [["work"], ["work", "lib"]]
  files := [
    (["work", "lib", "A.json"], "\x7b\"name\": \"first\"\x7d".toUTF8),
    (["work", "lib", "a.json"], "\x7b\"name\": \"second\"\x7d".toUTF8),
    (["work", "own.json"], "\x7b\"name\": \"third\"\x7d".toUTF8)]

/-- The store of these files. -/
def twinStore : Store := [["A.json"], ["a.json"]].foldl addFile (.empty "lib")

theorem ofDirectory_twinFiles : ofDirectory twinFiles "lib" = .ok twinStore :=
  ofDirectory_of_ordered ["work", "lib"] _ (by decide +kernel) (by decide +kernel)
    (by decide +kernel) (by decide +kernel) (by decide +kernel)

theorem descriptorFiles_twinFiles :
    descriptorFiles twinFiles "lib" ["work", "lib"] = [["A.json"], ["a.json"]] := by
  have walked : twinFiles.filesBelow ["work", "lib"] = [["A.json"], ["a.json"]] :=
    filesBelow_of_ordered (by decide +kernel) (by decide +kernel)
  rw [descriptorFiles, walked]
  decide +kernel

theorem locateBot_literal_own :
    twinFiles.Closed ∧ twinStore.Unread twinFiles "lib" ∧
      twinFiles.locate "own.json" = .ok ["work", "own.json"] ∧
      ∃ doc, twinFiles.documentAt? ["work", "own.json"] = some doc ∧
        ∃ d, (twinStore.locateBot twinFiles "own.json").1 = .ok d ∧ d.doc = doc := by
  have closed : twinFiles.Closed := by decide +kernel
  have unread := unread_of_opened ofDirectory_twinFiles
  have leads : twinFiles.locate "own.json" = .ok ["work", "own.json"] := by decide +kernel
  obtain ⟨doc, holds⟩ : ∃ doc, twinFiles.documentAt? ["work", "own.json"] = some doc :=
    Option.isSome_iff_exists.mp (by decide +kernel)
  have located : twinFiles.locate "lib" = .ok ["work", "lib"] := by decide +kernel
  have own : answering twinFiles "lib" ["work", "lib"] ["work", "own.json"] =
      ("/work/own.json", ["work", "own.json"]) := by
    rw [answering, descriptorFiles_twinFiles]
    decide +kernel
  obtain ⟨-, read, -⟩ := locateBot_literal closed unread located leads holds
  rw [own] at read
  exact ⟨closed, unread, leads, doc, holds, read.mpr ⟨by decide +kernel, holds⟩⟩

/-- **Another file is read** than the one that a path leads to. -/
theorem literal_path_misread :
    ofDirectory twinFiles "lib" = .ok twinStore ∧
      twinFiles.locate "lib/a.json" = .ok ["work", "lib", "a.json"] ∧
      (twinFiles.documentAt? ["work", "lib", "a.json"]).map declaredName = some (some "second") ∧
      (twinStore.locateBot twinFiles "lib/a.json").1.toOption.map (·.name) = some (some "first") :=
  ⟨ofDirectory_twinFiles, by decide +kernel, by decide +kernel, by decide +kernel⟩

end Store

end DispatchTables
