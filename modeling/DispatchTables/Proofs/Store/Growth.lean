import DispatchTables.Context
import DispatchTables.Proofs.Json.Reading

/-!
# What loading leaves alone

Loading fills the cache of a store and never touches its index.  So what a reference means can be
said once, of the index and the files, whatever has been loaded before.

## Main Definitions

* `Store.Holds`: a descriptor is what a file of the index reads as; `Store.held` lists them all.
* `Store.readReference`: the descriptor a reference means, read from its file.
* `Store.Faithful`: the cache holds nothing else.
* `Store.Grows`: one store comes from another by loading.

## Main Statements

* `Store.load_grows`, `Store.loadKey_grows`: loading makes a store grow.
* `Store.Faithful.load_eq`: a faithful store answers as its files do.
-/

namespace DispatchTables

theorem readDescriptor_key {files : FileTree} {key path : String} {d : Descriptor}
    (h : readDescriptor files key path = .ok d) : d.key = key := by
  unfold readDescriptor at h
  split at h
  · cases h
  · split at h
    · cases h
      rfl
    · cases h

/-- In a document that has been read each object has each key once. -/
theorem readDescriptor_wellKeyed {files : FileTree} {key path : String} {d : Descriptor}
    (h : readDescriptor files key path = .ok d) : (Json.object d.doc).wellKeyed = true := by
  unfold readDescriptor at h
  split at h
  · cases h
  · split at h
    · rename_i doc read
      cases h
      unfold readDocument at read
      split at read
      · rename_i members parsed
        cases read
        exact Json.wellKeyed_of_parse parsed
      · cases read
      · cases read
    · cases h

namespace Store

variable {files : FileTree} {s t u : Store} {d e : Descriptor} {key reference : String}

/-- A descriptor is what the file under its key reads as. -/
def Holds (files : FileTree) (s : Store) (d : Descriptor) : Prop :=
  ∃ path, s.index.get? d.key = some path ∧ readDescriptor files d.key path = .ok d

/-- The descriptor under a key, read from its file. -/
def readKey (files : FileTree) (s : Store) (key : String) : Except Failure Descriptor :=
  match s.index.get? key with
  | none => .error (.notFound key)
  | some path => readDescriptor files key path

/-- All descriptors that files of the index read as. -/
def held (files : FileTree) (s : Store) : List Descriptor :=
  s.keys.filterMap fun key => (s.readKey files key).toOption

/-- The descriptor a reference means, read from its file. -/
def readReference (files : FileTree) (s : Store) (reference : String) :
    Except Failure Descriptor :=
  match (s.resolveKey reference).1 with
  | .error e => .error e
  | .ok key => s.readKey files key

/-- **The cache tells what the files say.**  Every descriptor in it is under its own key, and is
what the file there reads as. -/
def Faithful (files : FileTree) (s : Store) : Prop :=
  ∀ key d, s.cache.get? key = some d → d.key = key ∧ s.Holds files d

/-- One store comes from another by loading: the index is the same, and the cache has lost nothing
and gained only what files read as. -/
structure Grows (files : FileTree) (s t : Store) : Prop where
  index : t.index = s.index
  kept : ∀ {key d}, s.cache.get? key = some d → t.cache.get? key = some d
  gained : ∀ {key d}, t.cache.get? key = some d →
    s.cache.get? key = some d ∨ s.readKey files key = .ok d

/-! ### Held descriptors -/

theorem readKey_eq_ok_iff :
    s.readKey files key = .ok d ↔ d.key = key ∧ s.Holds files d := by
  unfold readKey Holds
  constructor
  · intro h
    split at h
    · cases h
    · rename_i path found
      obtain rfl := readDescriptor_key h
      exact ⟨rfl, path, found, h⟩
  · rintro ⟨rfl, path, found, read⟩
    simp only [found, read]

/-- A key has one descriptor. -/
theorem Holds.unique (hd : s.Holds files d) (he : s.Holds files e) (same : d.key = e.key) :
    d = e := by
  have readD := readKey_eq_ok_iff.mpr ⟨rfl, hd⟩
  have readE := readKey_eq_ok_iff.mpr ⟨rfl, he⟩
  rw [same] at readD
  exact Except.ok.inj (readD.symm.trans readE)

theorem Holds.mem_keys (h : s.Holds files d) : d.key ∈ s.keys := by
  obtain ⟨path, found, -⟩ := h
  exact KeyMap.mem_keys_iff.mpr (by rw [found]; rfl)

theorem Holds.wellKeyed (h : s.Holds files d) : (Json.object d.doc).wellKeyed = true := by
  obtain ⟨path, -, read⟩ := h
  exact readDescriptor_wellKeyed read

theorem Holds.distinct (h : s.Holds files d) : d.doc.keys.Nodup :=
  Json.keys_nodup_of_wellKeyed h.wellKeyed

theorem mem_held_iff : d ∈ s.held files ↔ s.Holds files d := by
  unfold held
  rw [List.mem_filterMap]
  constructor
  · rintro ⟨key, -, read⟩
    cases found : s.readKey files key with
    | error e => rw [found] at read; cases read
    | ok other =>
      rw [found] at read
      cases read
      exact (readKey_eq_ok_iff.mp found).2
  · intro h
    refine ⟨d.key, h.mem_keys, ?_⟩
    rw [readKey_eq_ok_iff.mpr ⟨rfl, h⟩]
    rfl

theorem holds_of_readReference (h : s.readReference files reference = .ok d) :
    s.Holds files d := by
  unfold readReference at h
  split at h
  · cases h
  · exact (readKey_eq_ok_iff.mp h).2

/-- The descriptor under a key, of a file that can be read. -/
def descriptorAt (files : FileTree) (s : Store) (key : String) : Descriptor :=
  (s.readKey files key).toOption.getD default

theorem holds_descriptorAt (read : (s.readKey files key).isOk = true) :
    s.Holds files (s.descriptorAt files key) := by
  unfold descriptorAt
  cases found : s.readKey files key with
  | error e =>
    rw [found] at read
    cases read
  | ok d => exact (readKey_eq_ok_iff.mp found).2

/-! ### The index decides -/

theorem resolveKey_fst_congr (same : t.index = s.index) (reference : String) :
    (t.resolveKey reference).1 = (s.resolveKey reference).1 := by
  have tried : t.matchTail = s.matchTail := by
    funext tail
    simp only [matchTail, keysEndingIn, keys, same]
  unfold resolveKey
  rw [tried]
  split <;> rfl

theorem readKey_congr (same : t.index = s.index) (key : String) :
    t.readKey files key = s.readKey files key := by
  simp only [readKey, same]

theorem readReference_congr (same : t.index = s.index) (reference : String) :
    t.readReference files reference = s.readReference files reference := by
  simp only [readReference, resolveKey_fst_congr same, readKey_congr same]

/-! ### Growing -/

theorem Grows.refl (files : FileTree) (s : Store) : Grows files s s :=
  ⟨rfl, fun h => h, fun h => .inl h⟩

theorem Grows.trans (h₁ : Grows files s t) (h₂ : Grows files t u) : Grows files s u where
  index := h₂.index.trans h₁.index
  kept := fun found => h₂.kept (h₁.kept found)
  gained := by
    intro key d found
    rcases h₂.gained found with old | read
    · exact h₁.gained old
    · rw [readKey_congr h₁.index] at read
      exact .inr read

/-- Stores with one index and one cache are alike to whoever loads from them. -/
theorem grows_of_eq (index : t.index = s.index) (cache : t.cache = s.cache) :
    Grows files s t where
  index := index
  kept := fun h => by rw [cache]; exact h
  gained := fun h => .inl (by rw [← cache]; exact h)

theorem resolveKey_grows (files : FileTree) (s : Store) (reference : String) :
    Grows files s (s.resolveKey reference).2 := by
  unfold resolveKey
  split
  · unfold reportAmbiguity
    dsimp only
    split
    · exact Grows.refl files s
    · exact grows_of_eq rfl rfl
  · exact Grows.refl files s

theorem takeWarnings_grows (files : FileTree) (s : Store) : Grows files s s.takeWarnings.2 :=
  grows_of_eq rfl rfl

theorem loadKey_grows (files : FileTree) (s : Store) (key : String) :
    Grows files s (s.loadKey files key).2 := by
  unfold loadKey
  split
  · exact Grows.refl files s
  · rename_i missing
    split
    · exact Grows.refl files s
    · rename_i path found
      split
      · exact Grows.refl files s
      · rename_i d read
        have ofFile : s.readKey files key = .ok d := by simp only [readKey, found, read]
        refine ⟨rfl, ?_, ?_⟩
        · -- only a key that has not been read is added
          intro other e present
          have differs : key ≠ other := by
            rintro rfl
            rw [missing] at present
            cases present
          rw [KeyMap.get?_insert, if_neg differs]
          exact present
        · intro other e present
          rw [KeyMap.get?_insert] at present
          split at present
          · rename_i same
            subst same
            cases present
            exact .inr ofFile
          · exact .inl present

theorem load_grows (files : FileTree) (s : Store) (reference : String) :
    Grows files s (s.load files reference).2 := by
  have found := resolveKey_grows files s reference
  unfold load
  split
  · rename_i failed
    rwa [failed] at found
  · rename_i resolved
    rw [resolved] at found
    exact found.trans (loadKey_grows files _ _)

theorem scan_grows (files : FileTree) (keys : List String) (s : Store) (found : Scan) :
    Grows files s (scan files keys s found).2 := by
  induction keys generalizing s found with
  | nil => exact Grows.refl files s
  | cons key rest ih =>
    have first := loadKey_grows files s key
    unfold scan
    split
    · rename_i loaded
      rw [loaded] at first
      exact first.trans (ih _ _)
    · rename_i failed
      rw [failed] at first
      exact first.trans (ih _ _)

/-! ### What is loaded -/

/-- What is under a key does not change while a store grows. -/
theorem Grows.loadKey_fst_eq (h : Grows files s t) (key : String) :
    (t.loadKey files key).1 = (s.loadKey files key).1 := by
  have anew : ∀ u : Store, u.index = s.index → u.cache.get? key = none →
      (u.loadKey files key).1 = s.readKey files key := by
    intro u same missing
    simp only [loadKey, readKey, missing, same]
    cases s.index.get? key with
    | none => rfl
    | some path => dsimp only; split <;> simp_all
  cases old : s.cache.get? key with
  | some d => simp only [loadKey, old, h.kept old]
  | none =>
    rw [anew s rfl old]
    cases new : t.cache.get? key with
    | none => exact anew t h.index new
    | some d =>
      rcases h.gained new with present | read
      · rw [old] at present
        cases present
      · simp only [loadKey, new, read]

theorem load_fst (s : Store) (reference : String) :
    (s.load files reference).1 = match (s.resolveKey reference).1 with
      | .error e => .error e
      | .ok key => (s.loadKey files key).1 := by
  have found := resolveKey_grows files s reference
  unfold load
  split
  · rename_i failed
    rw [failed]
  · rename_i resolved
    rw [resolved] at found ⊢
    exact found.loadKey_fst_eq _

/-- What a reference means does not change while a store grows. -/
theorem Grows.load_fst_eq (h : Grows files s t) (reference : String) :
    (t.load files reference).1 = (s.load files reference).1 := by
  rw [load_fst, load_fst, resolveKey_fst_congr h.index]
  split
  · rfl
  · exact h.loadKey_fst_eq _

theorem Faithful.loadKey_eq (h : Faithful files s) (key : String) :
    (s.loadKey files key).1 = s.readKey files key := by
  cases present : s.cache.get? key with
  | some d =>
    have read := readKey_eq_ok_iff.mpr (h key d present)
    simp only [loadKey, present, read]
  | none =>
    simp only [loadKey, readKey, present]
    cases s.index.get? key with
    | none => rfl
    | some path => dsimp only; split <;> simp_all

/-- **A faithful store answers as its files do**, whether or not it has read them before. -/
theorem Faithful.load_eq (h : Faithful files s) (reference : String) :
    (s.load files reference).1 = s.readReference files reference := by
  rw [load_fst, readReference]
  split
  · rfl
  · exact h.loadKey_eq _

theorem Faithful.grows (h : Faithful files s) (grown : Grows files s t) : Faithful files t := by
  intro key d present
  have read : s.readKey files key = .ok d := by
    rcases grown.gained present with old | read
    · exact readKey_eq_ok_iff.mpr (h key d old)
    · exact read
  rw [← readKey_congr grown.index] at read
  exact readKey_eq_ok_iff.mp read

/-! ### A store just opened -/

/-- What holds without files and stays when a file is added holds of a store just opened. -/
theorem ofDirectory_induction {P : Store → Prop} {root : String} (none : P (empty root))
    (added : ∀ u names, P u → P (u.addFile names))
    (opened : ofDirectory files root = .ok s) : P s := by
  have all : ∀ (found : List Location) (u : Store), P u → P (found.foldl addFile u) := by
    intro found
    induction found with
    | nil => intro u h; exact h
    | cons names rest ih => intro u h; exact ih _ (added u names h)
  unfold ofDirectory at opened
  split at opened
  · cases opened
  · split at opened
    · cases opened
    · cases opened
      exact all _ _ none

/-- A store just opened has read nothing. -/
theorem ofDirectory_cache {root : String} (opened : ofDirectory files root = .ok s) :
    s.cache = .empty := by
  refine ofDirectory_induction (P := fun u => u.cache = .empty) rfl (fun u names h => ?_) opened
  unfold addFile
  dsimp only
  split <;> exact h

/-- A store just opened has looked no reference up. -/
theorem ofDirectory_reported {root : String} (opened : ofDirectory files root = .ok s) :
    s.reported = [] := by
  refine ofDirectory_induction (P := fun u => u.reported = []) rfl (fun u names h => ?_) opened
  unfold addFile
  dsimp only
  split <;> exact h

theorem ofDirectory_faithful {root : String} (opened : ofDirectory files root = .ok s) :
    Faithful files s := by
  intro key d present
  rw [ofDirectory_cache opened] at present
  cases present

/-- A walk over a tree that lists its files in walking order meets them as they are listed. -/
theorem filesBelow_of_ordered {place : Location} {found : List Location}
    (listed : (files.files.filterMap fun f => FileTree.below? place f.1).filter
      (fun names => !names.dropLast.any FileTree.isSkipped) = found)
    (ordered : found.Pairwise fun a b => FileTree.comesFirst a b = true) :
    files.filesBelow place = found := by
  unfold FileTree.filesBelow
  rw [listed]
  exact List.mergeSort_of_pairwise ordered

/-- A tree that lists descriptor files in walking order opens as the store of these files. -/
theorem ofDirectory_of_ordered {root : String} (place : Location) (found : List Location)
    (located : files.locate root = .ok place)
    (short : ∀ names ∈ files.directories.filterMap (FileTree.below? place),
      Path.isTooLong (pathBelow root names) = false)
    (listed : (files.files.filterMap fun f => FileTree.below? place f.1).filter
      (fun names => !names.dropLast.any FileTree.isSkipped) = found)
    (ordered : found.Pairwise fun a b => FileTree.comesFirst a b = true)
    (named : ∀ names ∈ found, isDescriptorFile (names.getLastD (Path.fileName root)) = true) :
    ofDirectory files root = .ok (found.foldl addFile (empty root)) := by
  have listable : unlistable? files root place = none := by
    unfold unlistable? FileTree.directoriesBelow
    rw [List.find?_eq_none]
    intro path mem
    obtain ⟨names, below, rfl⟩ := List.mem_map.mp mem
    rw [List.mem_mergeSort] at below
    rw [short names (List.mem_filter.mp below).1]
    exact Bool.false_ne_true
  have walked := filesBelow_of_ordered listed ordered
  unfold ofDirectory
  rw [located]
  dsimp only
  rw [listable]
  dsimp only
  rw [walked, List.filter_eq_self.mpr named]

end Store

end DispatchTables
