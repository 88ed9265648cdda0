import DispatchTables.Pipeline.Run
import DispatchTables.Proofs.Descriptor.Fields
import DispatchTables.Proofs.Inheritance.Audit

/-!
# The catalog of chips

A chip is read in two ways.  The chip that pins are given out on is resolved first; the chips that
are suggested in its place come from a catalog, which reads every chip file as it is written.  What
a chip file has from its sources is therefore not in the catalog: without pins of its own the file
is no chip there, and without a price of its own a chip without a price.

## Main Statements

* `mem_chipCatalog_iff`: the catalog has the chips that files are as they are written.
* `chipOf_mem_chipCatalog`: a chip that inherits neither pins nor price is in the catalog.
* `inherited_pins_not_in_catalog`: one that inherits its pins is not.
-/

namespace DispatchTables

variable {files : FileTree} {s t : Store} {d : Descriptor} {r : Resolved} {c : Context}
  {chip : ChipSpec} {ds : List Descriptor}

/-! ### Scanning -/

/-- The failure, if it is one. -/
def failure? {ε α : Type} : Except ε α → Option ε
  | .error e => some e
  | .ok _ => none

/-- **A scan yields what the files under its keys read as**, after what it has found before. -/
theorem scan_fst (faithful : s.Faithful files) (grown : Store.Grows files s t)
    (keys : List String) (found : Store.Scan) :
    (Store.scan files keys t found).1 =
      ⟨found.loaded ++ keys.filterMap fun key => (s.readKey files key).toOption,
        found.failures ++ keys.filterMap fun key => failure? (s.readKey files key)⟩ := by
  induction keys generalizing t found with
  | nil => simp [Store.scan]
  | cons key rest ih =>
    have read : (t.loadKey files key).1 = s.readKey files key := by
      rw [(faithful.grows grown).loadKey_eq, Store.readKey_congr grown.index]
    have after := grown.trans (Store.loadKey_grows files t key)
    unfold Store.scan
    generalize t.loadKey files key = out at read after
    obtain ⟨loaded, t'⟩ := out
    dsimp only at read after
    simp only [List.filterMap_cons, ← read]
    cases loaded with
    | error e => simp [ih after, Except.toOption, failure?]
    | ok d => simp [ih after, Except.toOption, failure?]

/-- A scan of all files, in a store that may have read some of them. -/
theorem scanAll_fst (faithful : s.Faithful files) (grown : Store.Grows files s t) :
    (t.scanAll files).1 =
      ⟨s.held files, s.keys.filterMap fun key => failure? (s.readKey files key)⟩ := by
  have keys : t.keys = s.keys := by rw [Store.keys, grown.index, Store.keys]
  rw [Store.scanAll, scan_fst faithful grown, keys]
  rfl

/-! ### Chips as they are written -/

theorem mem_chipsAmong_iff :
    chip ∈ (Store.chipsAmong ds).1 ↔
      ∃ d ∈ ds, d.kind = .chipSpec ∧ ChipSpec.ofDocument d.key d.doc = .ok chip := by
  induction ds with
  | nil => simp [Store.chipsAmong]
  | cons d rest ih =>
    rw [List.exists_mem_cons_iff, ← ih, Store.chipsAmong]
    dsimp only
    split
    · rename_i isChip
      split
      · rename_i own read
        simp [isChip, read, eq_comm]
      · rename_i e failed
        simp [failed]
    · rename_i other
      simp [other]

/-- **The catalog has the chips that files are as they are written.** -/
theorem mem_chipCatalog_iff (faithful : s.Faithful files) (grown : Store.Grows files s t) :
    chip ∈ (t.chipCatalog files).1.1 ↔
      ∃ d, s.Holds files d ∧ d.kind = .chipSpec ∧
        ChipSpec.ofDocument d.key d.doc = .ok chip := by
  have catalog : (t.chipCatalog files).1.1 = (Store.chipsAmong (s.held files)).1 := by
    unfold Store.chipCatalog
    dsimp only
    rw [scanAll_fst faithful grown]
  simp only [catalog, mem_chipsAmong_iff, Store.mem_held_iff]

/-! ### Chips as they are resolved -/

theorem eq_ok_of_chipOf (h : Compilation.chipOf r = .ok chip) :
    r.kind = .chipSpec ∧ ChipSpec.ofDocument r.key r.doc = .ok chip := by
  unfold Compilation.chipOf at h
  split at h
  · rename_i found read
    cases h
    obtain ⟨kind, own, same, read⟩ | ⟨-, _, same, -⟩ | ⟨_, same, -⟩ := Record.ofDocument_eq_ok read
    all_goals cases same
    exact ⟨kind, read⟩
  · cases h
  · cases h

/-- The fields of a chip that a chip file may say or inherit. -/
def chipFields : List String := ["exposed_pins", "price"]

/-- What can be read as a field of a chip takes up nothing from below. -/
theorem not_mixes_of_chip {key : String} {doc : Members} (distinct : doc.keys.Nodup)
    (read : ChipSpec.ofDocument key doc = .ok chip) :
    ∀ field ∈ chipFields, ∀ value, doc.get? field = some value → mixes field value = false := by
  obtain ⟨-, pins, price⟩ := (ChipSpec.ofDocument_eq_ok_iff distinct).mp read
  intro field mem value said
  simp only [chipFields, List.mem_cons, List.not_mem_nil, or_false] at mem
  rcases mem with rfl | rfl
  · rw [said] at pins
    cases value with
    | array _ => rfl
    | _ => cases pins
  · rw [said] at price
    cases value with
    | null => rfl
    | number _ => rfl
    | _ => cases price

/-- A resolved chip that inherits none of its fields is the chip that its file is as it is
written. -/
theorem ofDocument_eq_ok_of_laidOver {layers : List Members} (h : LaidOver layers d r)
    (distinct : d.doc.keys.Nodup) (laid : r.doc.keys.Nodup) (same : r.key = d.key)
    (read : ChipSpec.ofDocument r.key r.doc = .ok chip)
    (own : ∀ field ∈ chipFields, r.doc.has field = true → d.doc.has field = true) :
    ChipSpec.ofDocument d.key d.doc = .ok chip := by
  have plain := not_mixes_of_chip laid read
  have pins := h.get?_eq_own distinct (by decide) (own "exposed_pins" (by decide))
    (plain "exposed_pins" (by decide))
  have price := h.get?_eq_own distinct (by decide) (own "price" (by decide))
    (plain "price" (by decide))
  have named : declaredName r.doc = declaredName d.doc := by
    unfold declaredName
    rw [h.get?_identity distinct (by decide), h.get?_identity distinct (by decide)]
  rw [ChipSpec.ofDocument_eq_ok_iff laid, pins, price, named, same] at read
  exact (ChipSpec.ofDocument_eq_ok_iff distinct).mpr read

/-- **A chip that inherits neither its pins nor its price is in the catalog**, just as it is when
pins are given out on it.  It may inherit anything else, and say its pins or its price over those of
a source. -/
theorem chipOf_mem_chipCatalog (h : FromStore files s c) (held : s.Holds files d)
    (read : Compilation.chipOf (c.resolve files d).1 = .ok chip)
    (own : ∀ field ∈ chipFields,
      (c.resolve files d).1.doc.has field = true → d.doc.has field = true)
    (grown : Store.Grows files s t) : chip ∈ (t.chipCatalog files).1.1 := by
  have built := resolve_built h (.inl held)
  obtain ⟨kind, read⟩ := eq_ok_of_chipOf read
  refine (mem_chipCatalog_iff h.honest.faithful grown).mpr ⟨d, held, built.kind ▸ kind, ?_⟩
  exact ofDocument_eq_ok_of_laidOver built.laidOver held.distinct built.nodup built.key read own

/-- Two chips over a template with pins and a price: `own` has its own, `esp` has them from the
template. -/
def chipFiles : FileTree where
  workingDirectory := []
  directories := [["lib"], ["lib", "chips"], ["lib", "templates"]]
  files := [
    (["lib", "chips", "esp.json"],
      "\x7b\"name\": \"esp\", \"base_template\": \"templates/pins\"\x7d".toUTF8),
    (["lib", "chips", "own.json"], ("\x7b\"name\": \"own\", " ++
      "\"base_template\": \"templates/pins\", \"exposed_pins\": [], \"price\": null\x7d").toUTF8),
    (["lib", "templates", "pins.json"], ("\x7b\"name\": \"pins\", " ++
      "\"exposed_pins\": [\x7b\"name\": \"P0\"\x7d], \"price\": 2\x7d").toUTF8)]

/-- The store of these files. -/
def chipStore : Store :=
  [["chips", "esp.json"], ["chips", "own.json"], ["templates", "pins.json"]].foldl Store.addFile
    (.empty "/lib")

theorem ofDirectory_chipFiles : Store.ofDirectory chipFiles "/lib" = .ok chipStore :=
  Store.ofDirectory_of_ordered ["lib"] _ (by decide +kernel) (by decide +kernel)
    (by decide +kernel) (by decide +kernel) (by decide +kernel)

/-- The descriptor under a key. -/
def chipAt (key : String) : Descriptor := chipStore.descriptorAt chipFiles key

/-- What it is resolved to in a context of the store just opened. -/
def chipResolved (key : String) : Resolved :=
  ((Context.ofStore chipStore).resolve chipFiles (chipAt key)).1

theorem chipOf_mem_chipCatalog_own :
    chipStore.Holds chipFiles (chipAt "chips/own") ∧
      Compilation.chipOf (chipResolved "chips/own") = .ok ⟨"own", [], none⟩ ∧
      ⟨"own", [], none⟩ ∈ (chipStore.chipCatalog chipFiles).1.1 := by
  have held : chipStore.Holds chipFiles (chipAt "chips/own") :=
    Store.holds_descriptorAt (by decide +kernel)
  have read : Compilation.chipOf (chipResolved "chips/own") = .ok ⟨"own", [], none⟩ :=
    eq_ok_of_toOption (by decide +kernel)
  have own : ∀ field ∈ chipFields, (chipResolved "chips/own").doc.has field = true →
      (chipAt "chips/own").doc.has field = true := by
    decide +kernel
  unfold chipResolved at *
  exact ⟨held, read, chipOf_mem_chipCatalog (fromStore_ofStore ofDirectory_chipFiles) held read own
    (Store.Grows.refl chipFiles chipStore)⟩

/-- **A chip that inherits its pins is not in the catalog**, although pins can be given out on
it. -/
theorem inherited_pins_not_in_catalog :
    chipStore.Holds chipFiles (chipAt "chips/esp") ∧
      (chipAt "chips/esp").kind = .chipSpec ∧
      (∃ chip, Compilation.chipOf (chipResolved "chips/esp") = .ok chip ∧ chip.name = "esp" ∧
        chip ∉ (chipStore.chipCatalog chipFiles).1.1) := by
  refine ⟨Store.holds_descriptorAt (by decide +kernel), by decide +kernel, ?_⟩
  have read : (Compilation.chipOf (chipResolved "chips/esp")).toOption.map (fun chip =>
      (chip.name, decide (chip ∈ (chipStore.chipCatalog chipFiles).1.1))) =
        some ("esp", false) := by
    decide +kernel
  obtain ⟨chip, read, same⟩ := exists_of_toOption read
  obtain ⟨named, absent⟩ := Prod.mk.inj same
  exact ⟨chip, read, named, of_decide_eq_false absent⟩

end DispatchTables
