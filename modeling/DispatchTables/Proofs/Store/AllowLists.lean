import DispatchTables.Environment
import DispatchTables.Proofs.Store.History
import DispatchTables.Proofs.Store.OwnKeys

/-!
# Which file an allow-list is read from

The environment of a name is looked for in every directory of environments, wherever it stands, and
the least key wins.  The one at the top of the tree is not preferred: a key that only ends in the
wanted one may come before it.  The key that is found is then looked up once more as a reference,
which changes nothing if it is its own normal form.

## Main Definitions

* `Store.KeysNormal`: all keys are normal forms.
* `Store.Chooses`: the key that is found for a wanted one.
* `AllowList.ofRead`, `AllowList.ofKey`: the allow-list in the descriptor under a key.

## Main Statements

* `Store.findInDirectory_eq_some_iff`: the least of the keys that match.
* `Store.keysNormal_passed`: the keys of a store in use are normal forms.
* `AllowList.load_indexed`: which file is read when the wanted key is there.
* `AllowList.load_of_unmatched`: what is read when no key matches.
* `AllowList.deeper_environment_read`: another one, although the wanted key is there.
-/

namespace DispatchTables

variable {files : FileTree} {s : Store} {key wanted root : String}

namespace Store

/-! ### The key that is found -/

/-- **The key that is found for a wanted one**: the least that is the wanted one or ends in it. -/
structure Chooses (s : Store) (wanted key : String) : Prop where
  mem : key ∈ s.keys
  matched : Matches wanted key
  least : ∀ other ∈ s.keys, Matches wanted other → key = other ∨ key < other

/-- In an ascending list the first of a kind is the least. -/
theorem find?_eq_some_iff_least {keys : List String} (ascending : keys.Pairwise (· < ·))
    {p : String → Bool} :
    keys.find? p = some key ↔
      key ∈ keys ∧ p key = true ∧ ∀ other ∈ keys, p other = true → key = other ∨ key < other := by
  induction keys with
  | nil => simp
  | cons first rest ih =>
    obtain ⟨below, ascending⟩ := List.pairwise_cons.mp ascending
    rw [List.find?_cons]
    cases holds : p first with
    | true =>
      constructor
      · rintro ⟨⟩
        refine ⟨List.mem_cons_self, holds, fun other mem _ => ?_⟩
        exact (List.mem_cons.mp mem).imp Eq.symm (below other)
      · rintro ⟨mem, -, least⟩
        rcases least first List.mem_cons_self holds with same | lt
        · exact congrArg some same.symm
        · rcases List.mem_cons.mp mem with same | later
          · exact congrArg some same.symm
          · exact absurd (String.lt_trans lt (below key later)) (String.lt_irrefl _)
    | false =>
      dsimp only
      rw [ih ascending]
      have other : ∀ {k}, p k = true → k ≠ first := by
        rintro k found rfl
        rw [holds] at found
        cases found
      constructor
      · rintro ⟨mem, found, least⟩
        refine ⟨List.mem_cons_of_mem first mem, found, fun k mem found' => ?_⟩
        exact least k ((List.mem_cons.mp mem).resolve_left (other found')) found'
      · rintro ⟨mem, found, least⟩
        exact ⟨(List.mem_cons.mp mem).resolve_left (other found), found,
          fun k mem => least k (List.mem_cons_of_mem first mem)⟩

/-- **A look-up in directories finds the least of the keys that match.** -/
theorem findInDirectory_eq_some_iff {dir name : String} :
    s.findInDirectory dir name = some key ↔
      s.Chooses (normalize dir ++ "/" ++ normalize name) key := by
  unfold findInDirectory
  dsimp only
  rw [find?_eq_some_iff_least (pairwise_keys s)]
  simp only [Bool.or_eq_true, beq_iff_eq]
  exact ⟨fun ⟨mem, matched, least⟩ => ⟨mem, matched, least⟩,
    fun h => ⟨h.mem, h.matched, h.least⟩⟩

/-- Something is found if any key matches. -/
theorem exists_chooses {dir name : String} (mem : key ∈ s.keys)
    (matched : Matches (normalize dir ++ "/" ++ normalize name) key) :
    ∃ found, s.findInDirectory dir name = some found := by
  refine Option.isSome_iff_exists.mp (List.find?_isSome.mpr ⟨key, mem, ?_⟩)
  rw [Bool.or_eq_true, beq_iff_eq]
  exact matched

/-- **The wanted key itself is found** if all keys that end in it come later. -/
theorem Chooses.eq_iff (h : s.Chooses wanted key) (indexed : wanted ∈ s.keys) :
    key = wanted ↔ ∀ other ∈ s.keys, endsIn other wanted = true → wanted < other := by
  constructor
  · rintro rfl other mem ends
    refine (h.least other mem (.inr ends)).resolve_left ?_
    rintro rfl
    -- a key that ends in the wanted one behind a slash is longer
    have longer := (List.isSuffixOf_iff_suffix.mp ends).length_le
    rw [List.length_cons] at longer
    omega
  · intro first
    rcases h.matched with same | ends
    · exact same
    · rcases h.least wanted indexed (.inl rfl) with same | lt
      · exact same
      · exact absurd (String.lt_trans lt (first key h.mem ends)) (String.lt_irrefl _)

/-! ### Normal keys -/

/-- All keys of a store are normal forms. -/
def KeysNormal (s : Store) : Prop := ∀ key ∈ s.keys, ∃ path, key = normalize path

theorem KeysNormal.congr {t : Store} (normal : s.KeysNormal) (same : t.index = s.index) :
    t.KeysNormal := by
  unfold KeysNormal keys
  rw [same]
  exact normal

/-- A load puts only normal forms into the index. -/
theorem keysNormal_run (normal : s.KeysNormal) (l : Load) : (l.run files s).2.KeysNormal := by
  have resolved : (l.resolve files s).2.KeysNormal := by
    unfold KeysNormal keys
    rw [l.resolve_index]
    split
    · unfold KeyMap.insertNew
      split
      · exact normal
      · intro key mem
        rcases KeyMap.mem_keys_insert.mp mem with same | old
        · exact ⟨_, same.symm⟩
        · exact normal key old
    · exact normal
  rw [l.run_eq]
  generalize l.resolve files s = out at resolved
  obtain ⟨found, t⟩ := out
  cases found with
  | error e => exact resolved
  | ok key => exact resolved.congr (loadKey_grows files t key).index

/-- **The step**: every request leaves the keys normal. -/
theorem keysNormal_after (normal : s.KeysNormal) (request : Request) :
    (request.after files s).KeysNormal := by
  unfold Request.after
  cases request with
  | load l => exact keysNormal_run normal l
  | resolveKey r =>
    dsimp only
    exact normal.congr (resolveKey_grows files s r).index
  | findInDirectory dir name => exact normal
  | scanAll => exact normal.congr (scan_grows files s.keys s {}).index
  | chipCatalog => exact normal.congr (scan_grows files s.keys s {}).index
  | takeWarnings => exact normal

/-- **The keys of a store in use are normal forms.** -/
theorem keysNormal_passed (opened : ofDirectory files root = .ok s) (earlier : History) :
    (s.passed earlier).KeysNormal := by
  have all : ∀ (later : History) {t : Store}, t.KeysNormal → (t.passed later).KeysNormal := by
    intro later
    induction later with
    | nil => exact fun normal => normal
    | cons now later ih => exact fun normal => ih (keysNormal_after normal now.2)
  exact all earlier fun key mem => exists_path_of_mem_keys opened mem

end Store

namespace AllowList

/-! ### The file that is read -/

/-- The allow-list in a descriptor that has been read under a key. -/
def ofRead (key : String) : Except Failure Descriptor × Store → Except Failure AllowList × Store
  | (.error e, s) => (.error e, s)
  | (.ok d, s) =>
    match namesOf? d.doc with
    | some names => (.ok ⟨key, names⟩, s)
    | none => (.error (.invalidShape key .allowListNotNames), s)

/-- The allow-list in the descriptor under a key, and the store after reading it. -/
def ofKey (files : FileTree) (s : Store) (key : String) : Except Failure AllowList × Store :=
  ofRead key (s.loadKey files key)

/-- Without a key that matches, the argument is read as names. -/
theorem load_of_unmatched {argument : String}
    (unmatched : ∀ key ∈ s.keys,
      ¬ Store.Matches (normalize directory ++ "/" ++ normalize argument) key) :
    load files s argument = (.ok ⟨argument, namesIn argument⟩, s) := by
  unfold load
  cases found : s.findInDirectory directory argument with
  | none => rfl
  | some key =>
    have chosen := Store.findInDirectory_eq_some_iff.mp found
    exact absurd chosen.matched (unmatched key chosen.mem)

/-- The key that is found is read as a reference. -/
theorem load_of_found {argument : String}
    (found : s.findInDirectory directory argument = some key) :
    load files s argument = ofRead key (s.load files key) := by
  unfold load
  rw [found]
  dsimp only
  generalize s.load files key = out
  obtain ⟨result, t⟩ := out
  cases result <;> rfl

/-- What is found is read under its own key, if that is its own normal form. -/
theorem load_of_own {argument : String}
    (found : s.findInDirectory directory argument = some key) (named : key ≠ "")
    (own : normalize key = key) : load files s argument = ofKey files s key := by
  have mem := (Store.findInDirectory_eq_some_iff.mp found).mem
  have read : s.load files key = s.loadKey files key := by
    rw [Store.load, Store.resolveKey_own mem named own]
  rw [load_of_found found, read, ofKey]

theorem normalize_directory : normalize directory = directory := by decide +kernel

/-- **Which file an allow-list is read from when the wanted key is there**: that of the least key
that is the wanted one or ends in it, if that key neither begins nor ends with a blank and does not
end in an extension.  It is the wanted one just if no key that ends in it comes before. -/
theorem load_indexed {opening : FileTree} {fresh : Store}
    (opened : Store.ofDirectory opening root = .ok fresh) (earlier : Store.History)
    (files : FileTree) (argument : String)
    (indexed : directory ++ "/" ++ normalize argument ∈ (fresh.passed earlier).keys) :
    ∃ key, (fresh.passed earlier).Chooses (directory ++ "/" ++ normalize argument) key ∧
      (key = directory ++ "/" ++ normalize argument ↔ ∀ other ∈ (fresh.passed earlier).keys,
        endsIn other (directory ++ "/" ++ normalize argument) = true →
          directory ++ "/" ++ normalize argument < other) ∧
      (normalize key = key ↔ Unpadded key.toList ∧ ¬ extension <:+ key.toList) ∧
      (normalize key = key →
        load files (fresh.passed earlier) argument = ofKey files (fresh.passed earlier) key) := by
  have matched : Store.Matches (normalize directory ++ "/" ++ normalize argument)
      (directory ++ "/" ++ normalize argument) :=
    .inl (by rw [normalize_directory])
  obtain ⟨key, found⟩ := Store.exists_chooses indexed matched
  have chosen := Store.findInDirectory_eq_some_iff.mp found
  rw [normalize_directory] at chosen
  obtain ⟨path, spelled⟩ := Store.keysNormal_passed opened earlier key chosen.mem
  refine ⟨key, chosen, chosen.eq_iff indexed, ?_, load_of_own found ?_⟩
  · rw [spelled]
    exact normalize_normalize_iff path
  · -- a key that matches holds a slash
    rintro rfl
    rcases chosen.matched with same | ends
    · have nonempty := congrArg String.toList same
      simp [directory] at nonempty
    · cases List.isSuffixOf_iff_suffix.mp ends |>.length_le

theorem load_indexed_lab :
    directory ++ "/" ++ normalize "LAB" ∈ (Store.labStore.passed []).keys ∧
      (Store.labStore.passed []).Chooses (directory ++ "/" ++ normalize "LAB")
        "a/environments/lab" ∧
      load Store.labFiles (Store.labStore.passed []) "LAB" =
        ofKey Store.labFiles (Store.labStore.passed []) "a/environments/lab" := by
  have indexed : directory ++ "/" ++ normalize "LAB" ∈ (Store.labStore.passed []).keys := by
    decide +kernel
  obtain ⟨key, chosen, -, own, read⟩ :=
    load_indexed Store.ofDirectory_labFiles [] Store.labFiles "LAB" indexed
  have found : (Store.labStore.passed []).findInDirectory directory "LAB" =
      some "a/environments/lab" := by
    decide +kernel
  have chosen' := chosen
  rw [← normalize_directory, ← Store.findInDirectory_eq_some_iff, found] at chosen'
  obtain rfl := Option.some.inj chosen'
  refine ⟨indexed, chosen, read (own.mpr ⟨⟨?_, ?_⟩, by decide +kernel⟩)⟩
  · exact Text.stopsAt_cons (by decide +kernel) _
  · exact Text.stopsAt_cons (by decide +kernel) _

/-- **Another environment is read**, although the one at the top of the tree is there. -/
theorem deeper_environment_read :
    Store.ofDirectory Store.labFiles "/lib" = .ok Store.labStore ∧
      directory ++ "/" ++ normalize "lab" ∈ Store.labStore.keys ∧
      (ofKey Store.labFiles Store.labStore (directory ++ "/" ++ normalize "lab")).1.toOption =
        some ⟨"environments/lab", ["eye"]⟩ ∧
      (load Store.labFiles Store.labStore "lab").1.toOption =
        some ⟨"a/environments/lab", ["ear"]⟩ :=
  ⟨Store.ofDirectory_labFiles, by decide +kernel, by decide +kernel, by decide +kernel⟩

end AllowList

end DispatchTables
