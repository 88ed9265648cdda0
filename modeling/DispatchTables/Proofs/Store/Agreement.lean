import DispatchTables.Proofs.Store.Growth

/-!
# Stores that have read the same

What a reference means depends on all keys of an index, and so on files that are never read.  But a
key that means it in one store means it in any other that has the key, unless a better one is there;
so two stores cannot both have read what the reference means and differ in it.

## Main Definitions

* `Store.Matches`: a key is one that a tail can mean.
* `Store.finds`: the descriptor that a reference means, if it has been read.
* `Store.loadedPairs`, `Store.loadedTexts`: what has been read, by documents and by texts.
* `Store.ReadIn`: what one store has read another has read too, perhaps from other files.

## Main Statements

* `Store.resolveKey_unique`: of two keys that both stores have, a reference means only one.
* `Store.readIn_of_loaded`: stores whose descriptors have the same keys and documents have read the
  same.
-/

namespace DispatchTables

/-! ### Entries -/

namespace KeyMap

variable {α : Type} {m : KeyMap α} {key : String} {value : α}

/-- A look-up finds just the entries of a map. -/
theorem get?_eq_some_iff : m.get? key = some value ↔ (key, value) ∈ m.entries := by
  obtain ⟨entries, ascending⟩ := m
  show findEntry key entries = some value ↔ (key, value) ∈ entries
  induction entries with
  | nil => simp [findEntry]
  | cons head rest ih =>
    obtain ⟨k, v⟩ := head
    obtain ⟨below, ascending⟩ := List.pairwise_cons.mp ascending
    rw [findEntry, List.mem_cons]
    by_cases same : k = key
    · subst same
      -- the key is not in the rest, where all keys are greater
      have fresh : (k, value) ∉ rest := fun mem => String.lt_irrefl k (below _ mem)
      simp [fresh, eq_comm]
    · simp [same, Ne.symm same, ih ascending]

/-- The values are what look-ups find. -/
theorem mem_values_iff : value ∈ m.values ↔ ∃ key, m.get? key = some value := by
  simp [values, get?_eq_some_iff]

end KeyMap

theorem readDescriptor_kind {files : FileTree} {key path : String} {d : Descriptor}
    (h : readDescriptor files key path = .ok d) : d.kind = Kind.detect d.key d.doc := by
  unfold readDescriptor at h
  split at h
  · cases h
  · split at h
    · cases h
      rfl
    · cases h

/-- A file that cannot be read is not said to be missing. -/
theorem readDescriptor_ne_notFound {files : FileTree} {key path missing : String} :
    readDescriptor files key path ≠ .error (.notFound missing) := by
  intro h
  unfold readDescriptor at h
  split at h
  · cases h
  · split at h <;> cases h

namespace Store

variable {files files' : FileTree} {s t : Store} {d e : Descriptor}
  {key key' tail reference : String} {others others' : List String}

/-! ### Tails -/

/-- **A tail can mean a key**: the one that equals it, or one that ends in it. -/
def Matches (tail key : String) : Prop := key = tail ∨ endsIn key tail = true

/-- The keys of a store ascend. -/
theorem pairwise_keys (s : Store) : s.keys.Pairwise (· < ·) :=
  List.pairwise_map.mpr s.index.ascending

theorem has_iff : s.index.has tail = true ↔ tail ∈ s.keys := KeyMap.mem_keys_iff.symm

/-- A tail means something if there is a key that it can mean. -/
theorem exists_matchTail (mem : key ∈ s.keys) (h : Matches tail key) :
    ∃ chosen others, s.matchTail tail = some (chosen, others) := by
  unfold matchTail
  by_cases whole : s.index.has tail = true
  · exact ⟨tail, [], if_pos whole⟩
  · rw [if_neg whole]
    have ends : endsIn key tail = true := by
      refine h.resolve_left ?_
      rintro rfl
      exact whole (has_iff.mpr mem)
    cases listed : s.keysEndingIn tail with
    | nil =>
      have inList : key ∈ s.keysEndingIn tail := List.mem_filter.mpr ⟨mem, ends⟩
      rw [listed] at inList
      cases inList
    | cons chosen others => exact ⟨chosen, others, rfl⟩

/-- What a tail means: the key that equals it if there is one, and else the least that ends in
it. -/
theorem matchTail_spec (h : s.matchTail tail = some (key, others)) :
    key ∈ s.keys ∧ Matches tail key ∧ (tail ∈ s.keys → key = tail) ∧
      (tail ∉ s.keys → ∀ other ∈ s.keys, endsIn other tail = true → key = other ∨ key < other) := by
  unfold matchTail at h
  by_cases whole : s.index.has tail = true
  · rw [if_pos whole] at h
    obtain ⟨rfl, -⟩ := Prod.mk.inj (Option.some.inj h)
    exact ⟨has_iff.mp whole, .inl rfl, fun _ => rfl,
      fun missing => absurd (has_iff.mp whole) missing⟩
  · rw [if_neg whole] at h
    have ascending : (s.keysEndingIn tail).Pairwise (· < ·) := (pairwise_keys s).filter _
    cases listed : s.keysEndingIn tail with
    | nil =>
      rw [listed] at h
      cases h
    | cons chosen rest =>
      rw [listed] at h ascending
      obtain ⟨rfl, -⟩ := Prod.mk.inj (Option.some.inj h)
      have first : chosen ∈ s.keysEndingIn tail := by
        rw [listed]
        exact List.mem_cons_self
      obtain ⟨mem, ends⟩ := List.mem_filter.mp first
      refine ⟨mem, .inr ends, fun there => absurd (has_iff.mpr there) whole, ?_⟩
      intro _ other otherMem otherEnds
      have inList : other ∈ chosen :: rest := by
        rw [← listed]
        exact List.mem_filter.mpr ⟨otherMem, otherEnds⟩
      rcases List.mem_cons.mp inList with same | later
      · exact .inl same.symm
      · exact .inr ((List.pairwise_cons.mp ascending).1 other later)

/-- Of two keys that both stores have, a tail means only one. -/
theorem matchTail_unique (hs : s.matchTail tail = some (key, others))
    (ht : t.matchTail tail = some (key', others')) (inT : key ∈ t.keys) (inS : key' ∈ s.keys) :
    key = key' := by
  obtain ⟨-, matchesS, wholeS, leastS⟩ := matchTail_spec hs
  obtain ⟨-, matchesT, wholeT, leastT⟩ := matchTail_spec ht
  by_cases there : tail ∈ s.keys
  · obtain rfl := wholeS there
    exact (wholeT inT).symm
  · by_cases there' : tail ∈ t.keys
    · obtain rfl := wholeT there'
      exact absurd inS there
    · -- each is the least key of its store that ends in the tail
      have ends : endsIn key tail = true := by
        refine matchesS.resolve_left ?_
        rintro rfl
        exact there' inT
      have ends' : endsIn key' tail = true := by
        refine matchesT.resolve_left ?_
        rintro rfl
        exact there inS
      rcases leastS there key' inS ends' with same | lt
      · exact same
      · rcases leastT there' key inT ends with same | gt
        · exact same.symm
        · exact absurd (String.lt_trans lt gt) (String.lt_irrefl _)

/-! ### References -/

theorem resolveKey_fst_eq_ok (h : (s.resolveKey reference).1 = .ok key) :
    ∃ others, (tails (normalSegments reference)).findSome? s.matchTail = some (key, others) := by
  unfold resolveKey at h
  split at h
  · rename_i chosen others found
    cases h
    exact ⟨others, found⟩
  · cases h

/-- A reference that means nothing is not found. -/
theorem resolveKey_fst_of_error {failure : Failure}
    (h : (s.resolveKey reference).1 = .error failure) :
    failure = .notFound reference ∧
      (tails (normalSegments reference)).findSome? s.matchTail = none := by
  unfold resolveKey at h
  split at h
  · cases h
  · rename_i missing
    cases h
    exact ⟨rfl, missing⟩

theorem resolveKey_mem_keys (h : (s.resolveKey reference).1 = .ok key) : key ∈ s.keys := by
  obtain ⟨others, found⟩ := resolveKey_fst_eq_ok h
  obtain ⟨tail, -, matched⟩ := List.exists_of_findSome?_eq_some found
  exact (matchTail_spec matched).1

/-- **Of two keys that both stores have, a reference means only one.** -/
theorem resolveKey_unique (hs : (s.resolveKey reference).1 = .ok key)
    (ht : (t.resolveKey reference).1 = .ok key') (inT : key ∈ t.keys) (inS : key' ∈ s.keys) :
    key = key' := by
  obtain ⟨others, foundS⟩ := resolveKey_fst_eq_ok hs
  obtain ⟨others', foundT⟩ := resolveKey_fst_eq_ok ht
  -- the first tail that means something to one store means something to the other
  generalize tails (normalSegments reference) = tried at foundS foundT
  induction tried with
  | nil => cases foundS
  | cons tail rest ih =>
    rw [List.findSome?_cons] at foundS foundT
    cases matchS : s.matchTail tail with
    | some out =>
      rw [matchS] at foundS
      obtain rfl := Option.some.inj foundS
      obtain ⟨chosen, more, matchT⟩ := exists_matchTail inT (matchTail_spec matchS).2.1
      rw [matchT] at foundT
      obtain ⟨rfl, rfl⟩ := Prod.mk.inj (Option.some.inj foundT)
      exact matchTail_unique matchS matchT inT inS
    | none =>
      rw [matchS] at foundS
      cases matchT : t.matchTail tail with
      | some out =>
        rw [matchT] at foundT
        obtain rfl := Option.some.inj foundT
        obtain ⟨chosen, more, matchS'⟩ := exists_matchTail inS (matchTail_spec matchT).2.1
        rw [matchS] at matchS'
        cases matchS'
      | none =>
        rw [matchT] at foundT
        exact ih foundS foundT

/-- A reference means something if there is a key that it means in another store. -/
theorem exists_resolveKey (ht : (t.resolveKey reference).1 = .ok key) (inS : key ∈ s.keys) :
    ∃ other, (s.resolveKey reference).1 = .ok other := by
  obtain ⟨others, found⟩ := resolveKey_fst_eq_ok ht
  cases meant : (s.resolveKey reference).1 with
  | ok other => exact ⟨other, rfl⟩
  | error failure =>
    obtain ⟨-, missing⟩ := resolveKey_fst_of_error meant
    obtain ⟨tail, mem, matched⟩ := List.exists_of_findSome?_eq_some found
    obtain ⟨chosen, more, matchS⟩ := exists_matchTail inS (matchTail_spec matched).2.1
    rw [List.findSome?_eq_none_iff.mp missing tail mem] at matchS
    cases matchS

/-! ### Reading -/

/-- The descriptor that a reference means, if it has been read. -/
def finds (s : Store) (reference : String) : Option Descriptor :=
  match (s.resolveKey reference).1 with
  | .ok key => s.cache.get? key
  | .error _ => none

/-- What has just been loaded has been read. -/
theorem loadKey_snd_get? {out : Store} (h : s.loadKey files key = (.ok d, out)) :
    out.cache.get? key = some d := by
  unfold loadKey at h
  split at h
  · rename_i present
    cases h
    exact present
  · split at h
    · cases h
    · split at h
      · cases h
      · cases h
        rw [KeyMap.get?_insert, if_pos rfl]

theorem load_snd_get? {out : Store} (h : s.load files reference = (.ok d, out)) :
    ∃ key, (s.resolveKey reference).1 = .ok key ∧ out.cache.get? key = some d := by
  unfold load at h
  split at h
  · cases h
  · rename_i key u resolved
    exact ⟨key, by rw [resolved], loadKey_snd_get? h⟩

/-- A reference that is not found means nothing; what is there and cannot be read fails in another
way. -/
theorem resolveKey_of_load_notFound {missing : String}
    (h : (s.load files reference).1 = .error (.notFound missing)) :
    (s.resolveKey reference).1 = .error (.notFound reference) := by
  rw [load_fst] at h
  cases meant : (s.resolveKey reference).1 with
  | error failure => rw [(resolveKey_fst_of_error meant).1]
  | ok key =>
    simp only [meant] at h
    obtain ⟨path, there⟩ := Option.isSome_iff_exists.mp
      (KeyMap.mem_keys_iff.mp (resolveKey_mem_keys meant))
    unfold loadKey at h
    cases read : readDescriptor files key path with
    | ok d =>
      simp only [there, read] at h
      split at h <;> cases h
    | error failure =>
      simp only [there, read] at h
      split at h
      · cases h
      · exact absurd (read.trans h) readDescriptor_ne_notFound

/-! ### Having read the same -/

/-- **All that one store has read another has read**, perhaps from other files. -/
def ReadIn (s t : Store) : Prop :=
  ∀ {key d}, s.cache.get? key = some d → ∃ path, t.cache.get? key = some { d with path }

/-- What has been read stands under its key in the index. -/
theorem Faithful.mem_keys (h : Faithful files s) (read : s.cache.get? key = some d) :
    key ∈ s.keys := by
  obtain ⟨rfl, held⟩ := h key d read
  exact held.mem_keys

theorem Faithful.kind (h : Faithful files s) (read : s.cache.get? key = some d) :
    d.kind = Kind.detect d.key d.doc := by
  obtain ⟨-, path, -, read⟩ := h key d read
  exact readDescriptor_kind read

/-- The keys and documents of all that has been read. -/
def loadedPairs (s : Store) : List (String × Members) := s.loaded.map fun d => (d.key, d.doc)

/-- **Stores whose descriptors have the same keys and documents** have read the same. -/
theorem readIn_of_loaded (hs : Faithful files s) (ht : Faithful files' t)
    (same : s.loadedPairs = t.loadedPairs) : ReadIn s t := by
  intro key d read
  obtain ⟨rfl, -⟩ := hs key d read
  have mem : (d.key, d.doc) ∈ s.loadedPairs :=
    List.mem_map.mpr ⟨d, KeyMap.mem_values_iff.mpr ⟨d.key, read⟩, rfl⟩
  rw [same] at mem
  obtain ⟨e, loaded, eq⟩ := List.mem_map.mp mem
  obtain ⟨key, found⟩ := KeyMap.mem_values_iff.mp loaded
  obtain ⟨sameKey, sameDoc⟩ := Prod.mk.inj eq
  obtain ⟨rfl, -⟩ := ht key e found
  have sameKind : e.kind = d.kind := by rw [ht.kind found, hs.kind read, sameKey, sameDoc]
  refine ⟨e.path, ?_⟩
  rw [← sameKey, found, ← sameKind, ← sameDoc]

/-- The text of the file under a key, if there is one that can be read. -/
def textAt (files : FileTree) (s : Store) (key : String) : Option String :=
  (s.index.get? key).bind fun path => (files.readText path).toOption

/-- What a store holds is what the text under its key says. -/
theorem Holds.readDocument (h : s.Holds files d) :
    ∃ text, s.textAt files d.key = some text ∧ readDocument text = .ok d.doc := by
  obtain ⟨path, stands, read⟩ := h
  unfold readDescriptor at read
  split at read
  · cases read
  · rename_i text there
    split at read
    · rename_i doc parsed
      obtain rfl : doc = d.doc := congrArg Descriptor.doc (Except.ok.inj read)
      refine ⟨text, ?_, parsed⟩
      rw [textAt, stands, Option.bind_some, there]
      rfl
    · cases read

/-- The keys and texts of all that has been read. -/
def loadedTexts (files : FileTree) (s : Store) : List (String × Option String) :=
  s.loaded.map fun d => (d.key, s.textAt files d.key)

/-- **Stores that have read the same texts**, under the same keys, have read the same. -/
theorem loadedPairs_eq_of_texts (hs : Faithful files s) (ht : Faithful files' t)
    (same : s.loadedTexts files = t.loadedTexts files') : s.loadedPairs = t.loadedPairs := by
  have holds : ∀ d ∈ s.loaded, s.Holds files d := by
    intro d mem
    obtain ⟨key, found⟩ := KeyMap.mem_values_iff.mp mem
    exact (hs key d found).2
  have holds' : ∀ e ∈ t.loaded, t.Holds files' e := by
    intro e mem
    obtain ⟨key, found⟩ := KeyMap.mem_values_iff.mp mem
    exact (ht key e found).2
  unfold loadedPairs
  unfold loadedTexts at same
  generalize s.loaded = ds at holds same ⊢
  generalize t.loaded = es at holds' same ⊢
  induction ds generalizing es with
  | nil =>
    rw [List.map_nil, eq_comm, List.map_eq_nil_iff] at same
    rw [same, List.map_nil]
  | cons d ds ih =>
    cases es with
    | nil => cases same
    | cons e es =>
      rw [List.map_cons, List.map_cons] at same
      obtain ⟨first, later⟩ := List.cons.inj same
      obtain ⟨sameKey, sameText⟩ := Prod.mk.inj first
      obtain ⟨text, there, read⟩ := (holds d List.mem_cons_self).readDocument
      obtain ⟨text', there', read'⟩ := (holds' e List.mem_cons_self).readDocument
      -- one text is one document
      rw [there, there'] at sameText
      obtain rfl := Option.some.inj sameText
      have sameDoc : d.doc = e.doc := Except.ok.inj (read.symm.trans read')
      have rest := ih (fun d mem => holds d (List.mem_cons_of_mem _ mem)) es
        (fun e mem => holds' e (List.mem_cons_of_mem _ mem)) later
      rw [List.map_cons, List.map_cons, rest, sameKey, sameDoc]

end Store

end DispatchTables
