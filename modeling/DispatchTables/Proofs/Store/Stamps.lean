import DispatchTables.Proofs.Json.Compact
import DispatchTables.Proofs.Store.History
import DispatchTables.Store.Provenance
import Mathlib.Data.List.Sort

/-!
# What the stamp is over

Generated tables are stamped with a hash over all descriptors that have been read: their keys and
documents, one after the other in order of keys.  What is hashed is not the descriptors but one run
of bytes, so the stamp can tell two compilations apart only if the bytes do.  They do: a key ends at
the first zero byte, as long as there is none in it, and a document at the end of its compact text.
And they tell apart nothing else, since what has been read is listed in order of keys, whatever the
order was that it was read in.

## Main Definitions

* `Store.hashed`: the bytes that the stamp of a store is over.

## Main Statements

* `stampChars_unique`: keys and documents are read back from what is hashed.
* `Store.hashed_eq_iff`: the bytes are the same if and only if keys and documents are.
-/

namespace DispatchTables

open DispatchTables.Text

/-! ### Bytes -/

theorem toList_loop (bytes : ByteArray) (from_ : Nat) (behind : List UInt8) :
    ByteArray.toList.loop bytes from_ behind =
      behind.reverse ++ bytes.data.toList.drop from_ := by
  fun_induction ByteArray.toList.loop bytes from_ behind with
  | case1 from_ behind inside ih =>
    have next : bytes.get! from_ = bytes.data.toList.get ⟨from_, inside⟩ := by
      change bytes.data[from_]! = _
      exact getElem!_pos bytes.data from_ inside
    rw [ih, List.drop_eq_getElem_cons inside, List.reverse_cons, List.append_assoc, next]
    rfl
  | case2 from_ behind outside =>
    rw [List.drop_eq_nil_of_le (Nat.not_lt.mp outside), List.append_nil]

/-- No two texts have the same bytes. -/
theorem toUTF8_toList_inj {s t : String} : s.toUTF8.toList = t.toUTF8.toList ↔ s = t := by
  refine ⟨fun same => String.toByteArray_inj.mp (ByteArray.ext (Array.toList_inj.mp ?_)),
    congrArg fun text : String => text.toUTF8.toList⟩
  have bytes (b : ByteArray) : b.toList = b.data.toList := toList_loop b 0 []
  rwa [bytes, bytes] at same

/-! ### Reading a stamp -/

/-- What a key and a document add to what is hashed. -/
def stampChars (p : String × Members) : List Char :=
  p.1.toList ++ '\x00' :: ((Json.object p.2).chars ++ ['\x00'])

theorem toList_fingerprintText (ds : List Descriptor) :
    (fingerprintText ds).toList = (ds.map fun d => (d.key, d.doc)).flatMap stampChars := by
  rw [fingerprintText, String.toList_join, List.flatMap_map, List.flatMap_map]
  refine congrArg (fun text => ds.flatMap text) (funext fun d => ?_)
  simp [fingerprintPart, stampChars, Json.chars]

/-- **A key and a document are told apart** from each other and from what stands behind them. -/
theorem stampChars_unique {p q : String × Members} {r r' : List Char}
    (clean : '\x00' ∉ p.1.toList) (clean' : '\x00' ∉ q.1.toList)
    (same : stampChars p ++ r = stampChars q ++ r') : p = q ∧ r = r' := by
  have run {key : List Char} (clean : '\x00' ∉ key) : ∀ c ∈ key, (c != '\x00') = true :=
    fun c mem => bne_iff_ne.mpr fun nul => clean (nul ▸ mem)
  have ends (text : List Char) : StopsAt (· != '\x00') ('\x00' :: text) := stopsAt_cons rfl text
  have stops (text : List Char) : StopsAt isNumberChar (['\x00'] ++ text) := stopsAt_cons rfl text
  unfold stampChars at same
  rw [List.append_assoc, List.append_assoc, List.cons_append, List.cons_append, List.append_assoc,
    List.append_assoc] at same
  obtain ⟨keys, behind⟩ := run_unique (run clean) (ends _) (run clean') (ends _) same
  obtain ⟨documents, rest⟩ := (Json.object p.2).chars_delimited _ _ _ (stops r) (stops r')
    (List.cons.inj behind).2
  refine ⟨Prod.ext (String.toList_inj.mp keys) ?_, List.append_cancel_left rest⟩
  exact Json.object.inj documents

/-- **Keys and documents are read back** from what is hashed, one after the other. -/
theorem flatMap_stampChars_inj {ps qs : List (String × Members)}
    (clean : ∀ p ∈ ps, '\x00' ∉ p.1.toList) (clean' : ∀ q ∈ qs, '\x00' ∉ q.1.toList)
    (same : ps.flatMap stampChars = qs.flatMap stampChars) : ps = qs := by
  induction ps generalizing qs with
  | nil =>
    cases qs with
    | nil => rfl
    | cons q rest =>
      have lengths := congrArg List.length same
      simp [stampChars] at lengths
  | cons p rest ih =>
    cases qs with
    | nil =>
      have lengths := congrArg List.length same
      simp [stampChars] at lengths
    | cons q others =>
      obtain ⟨first, later⟩ := List.forall_mem_cons.mp clean
      obtain ⟨first', later'⟩ := List.forall_mem_cons.mp clean'
      rw [List.flatMap_cons, List.flatMap_cons] at same
      obtain ⟨rfl, behind⟩ := stampChars_unique first first' same
      rw [ih later later' behind]

/-! ### Stores -/

namespace Store

variable {s t : Store}

/-- **The bytes that the stamp of a store is over.** -/
def hashed (s : Store) : List UInt8 := (fingerprintText s.loaded).toUTF8.toList

theorem fingerprint_loaded (s : Store) : fingerprint s.loaded = sha256 s.hashed := rfl

theorem hashed_eq_iff_loadedPairs (clean : ∀ d ∈ s.loaded, '\x00' ∉ d.key.toList)
    (clean' : ∀ d ∈ t.loaded, '\x00' ∉ d.key.toList) :
    s.hashed = t.hashed ↔ s.loadedPairs = t.loadedPairs := by
  rw [hashed, hashed, toUTF8_toList_inj, ← String.toList_inj, toList_fingerprintText,
    toList_fingerprintText]
  refine ⟨flatMap_stampChars_inj ?_ ?_, congrArg _⟩
  · exact List.forall_mem_map.mpr clean
  · exact List.forall_mem_map.mpr clean'

theorem loadedPairs_ascends (filed : ∀ key d, s.cache.get? key = some d → d.key = key) :
    s.loadedPairs.Pairwise fun p q => p.1 < q.1 :=
  List.pairwise_map.mpr (loaded_ascends filed)

/-- Lists that ascend in their keys are the same if they have the same members. -/
theorem eq_of_ascends {ps qs : List (String × Members)}
    (ascends : ps.Pairwise fun p q => p.1 < q.1) (ascends' : qs.Pairwise fun p q => p.1 < q.1)
    (same : ∀ p, p ∈ ps ↔ p ∈ qs) : ps = qs := by
  have : Std.Irrefl fun p q : String × Members => p.1 < q.1 := ⟨fun p => String.lt_irrefl p.1⟩
  have : Std.Antisymm fun p q : String × Members => p.1 < q.1 :=
    ⟨fun p q less more => absurd (String.lt_trans less more) (String.lt_irrefl p.1)⟩
  exact ascends.eq_of_mem_iff ascends' same

/-- **What is hashed is the same if and only if keys and documents are**, whatever order they have
been read in: for any two stores that hold descriptors under their own keys, and no zero byte in a
key. -/
theorem hashed_eq_iff (filed : ∀ key d, s.cache.get? key = some d → d.key = key)
    (filed' : ∀ key d, t.cache.get? key = some d → d.key = key)
    (clean : ∀ d ∈ s.loaded, '\x00' ∉ d.key.toList)
    (clean' : ∀ d ∈ t.loaded, '\x00' ∉ d.key.toList) :
    s.hashed = t.hashed ↔ ∀ key doc, (∃ d ∈ s.loaded, d.key = key ∧ d.doc = doc) ↔
      ∃ d ∈ t.loaded, d.key = key ∧ d.doc = doc := by
  have mem (u : Store) (key : String) (doc : Members) :
      (key, doc) ∈ u.loadedPairs ↔ ∃ d ∈ u.loaded, d.key = key ∧ d.doc = doc := by
    rw [loadedPairs, List.mem_map]
    simp only [Prod.mk.injEq]
  rw [hashed_eq_iff_loadedPairs clean clean']
  constructor
  · intro same key doc
    rw [← mem, ← mem, same]
  · intro same
    refine eq_of_ascends (loadedPairs_ascends filed) (loadedPairs_ascends filed') ?_
    rintro ⟨key, doc⟩
    rw [mem, mem]
    exact same key doc

/-- A store that has read some descriptors, in this order. -/
def having (ds : List Descriptor) : Store :=
  { Store.empty "lib" with cache := ds.foldl (fun cache d => cache.insert d.key d) .empty }

theorem get?_having (ds : List Descriptor) (d : Descriptor) (key : String) :
    (having (ds ++ [d])).cache.get? key =
      if d.key = key then some d else (having ds).cache.get? key := by
  rw [having, List.foldl_append]
  exact KeyMap.get?_insert _ _ _ _

theorem filed_having (ds : List Descriptor) :
    ∀ key d, (having ds).cache.get? key = some d → d.key = key := by
  induction ds using List.reverseRecOn with
  | nil => exact nofun
  | append_singleton ds e ih =>
    intro key d cached
    rw [get?_having] at cached
    split at cached
    · rename_i same
      exact Option.some.inj cached ▸ same
    · exact ih key d cached

/-- Descriptors of different keys are all there afterwards. -/
theorem mem_loaded_having {ds : List Descriptor} (distinct : (ds.map (·.key)).Nodup)
    {d : Descriptor} : d ∈ (having ds).loaded ↔ d ∈ ds := by
  rw [mem_loaded_iff (filed_having ds)]
  induction ds using List.reverseRecOn with
  | nil => exact ⟨nofun, nofun⟩
  | append_singleton ds e ih =>
    rw [List.map_append, List.nodup_append] at distinct
    obtain ⟨others, -, apart⟩ := distinct
    rw [get?_having, List.mem_append, List.mem_singleton, ← ih others]
    by_cases same : e.key = d.key
    · -- the others have other keys
      have unread : (having ds).cache.get? d.key ≠ some d := fun cached =>
        apart d.key (List.mem_map_of_mem ((ih others).mp cached)) e.key (by simp) same.symm
      rw [if_pos same, Option.some.injEq]
      exact ⟨fun is => .inr is.symm, fun is => (is.resolve_left unread).symm⟩
    · rw [if_neg same]
      exact ⟨.inl, fun is => is.resolve_right fun is => same (is ▸ rfl)⟩

/-- A descriptor with a price. -/
def priced (key : String) (price : Json.Number) : Descriptor :=
  .ofDocument key key [("name", .string key), ("price", .number price)]

theorem clean_having {ds : List Descriptor} (distinct : (ds.map (·.key)).Nodup)
    (clean : ∀ d ∈ ds, '\x00' ∉ d.key.toList) : ∀ d ∈ (having ds).loaded, '\x00' ∉ d.key.toList :=
  fun d loaded => clean d ((mem_loaded_having distinct).mp loaded)

/-- The order in which two descriptors have been read is not hashed, but a price is that has been
written as a double rather than as a whole number. -/
theorem hashed_eq_iff_priced :
    (having [priced "a" (.whole 0), priced "b" (.whole 1)]).hashed =
      (having [priced "b" (.whole 1), priced "a" (.whole 0)]).hashed ∧
    (having [priced "a" (.whole 0)]).hashed ≠ (having [priced "a" (.double .zero)]).hashed := by
  constructor
  · have distinct : ([priced "a" (.whole 0), priced "b" (.whole 1)].map (·.key)).Nodup := by decide
    have distinct' : ([priced "b" (.whole 1), priced "a" (.whole 0)].map (·.key)).Nodup := by
      decide
    refine (hashed_eq_iff (filed_having _) (filed_having _) (clean_having distinct (by decide))
      (clean_having distinct' (by decide))).mpr fun key doc => ?_
    simp only [mem_loaded_having distinct, mem_loaded_having distinct',
      List.mem_pair, or_comm]
  · intro same
    have alone (price : Json.Number) : ([priced "a" price].map (·.key)).Nodup :=
      List.nodup_singleton _
    have sets := (hashed_eq_iff (filed_having _) (filed_having _)
      (clean_having (alone (.whole 0)) (by decide))
      (clean_having (alone (.double .zero)) (by decide))).mp same "a" (priced "a" (.whole 0)).doc
    simp only [mem_loaded_having (alone _), List.mem_singleton, exists_eq_left] at sets
    obtain ⟨-, documents⟩ := sets.mp ⟨rfl, trivial⟩
    exact absurd documents (by simp [priced, Descriptor.ofDocument])

end Store

end DispatchTables
