import DispatchTables.Descriptor.Record
import DispatchTables.Proofs.Json.Reading

/-!
# Reading records from members

A record is made by putting in the members of a document one by one.  Where each key is there once,
what becomes of a field depends on the member under its key alone; so a record says, field by field,
what stands under a few keys, and two documents that agree there read as the same record.

## Main Statements

* `fields_get`: a field is what the member for it says.
* `exists_fields`: members that can each be put in make a record.
* `fields_keeps`: what each member keeps is kept.
* `ChipSpec.ofDocument_eq_ok_iff`: a chip, field by field.
* `Record.ofDocument_eq_ok`: what kinds of records there are.
-/

namespace DispatchTables

section

variable {α β : Type} {set : α → String → Json → Except ShapeError α} {doc : Members}

/-- A field `f` of a record is what the member for it says, as `P` reads it, if there is one. -/
theorem fields_get {key : String} {f : α → β} {P : Json → β → Prop}
    (hit : ∀ a v a', set a key v = .ok a' → P v (f a'))
    (pass : ∀ a k v a', k ≠ key → set a k v = .ok a' → f a' = f a)
    (distinct : doc.keys.Nodup) {start a : α}
    (h : Decoder.fields set start doc = .ok a) :
    match doc.get? key with
    | none => f a = f start
    | some v => P v (f a) := by
  induction doc generalizing start with
  | nil =>
    cases h
    rfl
  | cons m rest ih =>
    obtain ⟨k, v⟩ := m
    obtain ⟨fresh, distinct⟩ := List.nodup_cons.mp distinct
    unfold Decoder.fields at h
    rw [List.foldlM_cons] at h
    obtain ⟨a₁, first, later⟩ := bind_eq_ok h
    have rest := ih distinct later
    rw [Members.get?]
    by_cases same : k = key
    · subst same
      rw [Members.get?_eq_none fresh] at rest
      rw [if_pos rfl]
      dsimp only at rest ⊢
      rw [rest]
      exact hit start v a₁ first
    · rw [if_neg same]
      rw [pass start k v a₁ same first] at rest
      exact rest

/-- Members that can each be put in, whatever has been put in before, make a record. -/
theorem exists_fields (puts : ∀ m ∈ doc, ∀ a, ∃ a', set a m.1 m.2 = .ok a') (start : α) :
    ∃ a, Decoder.fields set start doc = .ok a := by
  induction doc generalizing start with
  | nil => exact ⟨start, rfl⟩
  | cons m rest ih =>
    obtain ⟨a, first⟩ := puts m List.mem_cons_self start
    obtain ⟨b, later⟩ := ih (fun other mem => puts other (List.mem_cons_of_mem _ mem)) a
    refine ⟨b, ?_⟩
    unfold Decoder.fields at later ⊢
    rw [List.foldlM_cons, first]
    exact later

/-- What every member keeps as it is put in is kept by the record they make. -/
theorem fields_keeps {P : α → Prop}
    (step : ∀ m ∈ doc, ∀ a a', P a → set a m.1 m.2 = .ok a' → P a') {start a : α} (hs : P start)
    (h : Decoder.fields set start doc = .ok a) : P a := by
  induction doc generalizing start with
  | nil =>
    cases h
    exact hs
  | cons m rest ih =>
    unfold Decoder.fields at h
    rw [List.foldlM_cons] at h
    obtain ⟨a₁, first, later⟩ := bind_eq_ok h
    exact ih (fun other mem => step other (List.mem_cons_of_mem _ mem))
      (step m List.mem_cons_self start a₁ hs first) later

end

/-! ### Chips -/

namespace ChipSpec

variable {key : String} {doc : Members} {chip : ChipSpec}

theorem set_exposedPins (own : Fields) (v : Json) (own' : Fields)
    (h : own.set "exposed_pins" v = .ok own') :
    some <$> ExposedPin.decode.list v = .ok own'.exposedPins := by
  obtain ⟨pins, read, h⟩ := bind_eq_ok h
  cases h
  rw [read]
  rfl

theorem set_price (own : Fields) (v : Json) (own' : Fields) (h : own.set "price" v = .ok own') :
    Decoder.double.optional v = .ok own'.price := by
  obtain ⟨price, read, h⟩ := bind_eq_ok h
  cases h
  exact read

theorem set_other (own : Fields) (key : String) (v : Json) (own' : Fields)
    (h : own.set key v = .ok own') :
    (key ≠ "exposed_pins" → own'.exposedPins = own.exposedPins) ∧
      (key ≠ "price" → own'.price = own.price) := by
  unfold Fields.set at h
  split at h
  · obtain ⟨pins, -, h⟩ := bind_eq_ok h
    cases h
    simp
  · obtain ⟨price, -, h⟩ := bind_eq_ok h
    cases h
    simp
  · cases h
    exact ⟨fun _ => rfl, fun _ => rfl⟩

/-- A member can be put in unless it is for a field and cannot be read. -/
theorem exists_set {m : String × Json}
    (pins : m.1 = "exposed_pins" → ∃ pins, ExposedPin.decode.list m.2 = .ok pins)
    (price : m.1 = "price" → ∃ price, Decoder.double.optional m.2 = .ok price) (own : Fields) :
    ∃ own', own.set m.1 m.2 = .ok own' := by
  unfold Fields.set
  split
  · rename_i field
    obtain ⟨pins, read⟩ := pins field
    rw [read]
    exact ⟨_, rfl⟩
  · rename_i field
    obtain ⟨price, read⟩ := price field
    rw [read]
    exact ⟨_, rfl⟩
  · exact ⟨own, rfl⟩

/-- The fields of a chip are what the members for them say. -/
theorem of_fields {own : Fields} (distinct : doc.keys.Nodup)
    (h : Decoder.fields Fields.set {} doc = .ok own) :
    (doc.get? "exposed_pins").elim (.ok none) (some <$> ExposedPin.decode.list ·) =
        .ok own.exposedPins ∧
      (doc.get? "price").elim (.ok none) Decoder.double.optional = .ok own.price := by
  have pins := fields_get (f := Fields.exposedPins)
    (P := fun v said => some <$> ExposedPin.decode.list v = .ok said) set_exposedPins
    (fun own k v own' other h => (set_other own k v own' h).1 other) distinct h
  have price := fields_get (f := Fields.price)
    (P := fun v said => Decoder.double.optional v = .ok said) set_price
    (fun own k v own' other h => (set_other own k v own' h).2 other) distinct h
  constructor
  · cases said : doc.get? "exposed_pins" with
    | none => rw [said] at pins; exact congrArg Except.ok pins.symm
    | some v => rw [said] at pins; exact pins
  · cases said : doc.get? "price" with
    | none => rw [said] at price; exact congrArg Except.ok price.symm
    | some v => rw [said] at price; exact price

/-- **A chip, field by field**: its name, its pins, which it must list, and its price, if it has
one. -/
theorem ofDocument_eq_ok_iff (distinct : doc.keys.Nodup) :
    ofDocument key doc = .ok chip ↔
      chip.name = (declaredName doc).getD key ∧
      (doc.get? "exposed_pins").map ExposedPin.decode.list = some (.ok chip.exposedPins) ∧
      (doc.get? "price").elim (.ok none) Decoder.double.optional = .ok chip.price := by
  constructor
  · intro h
    obtain ⟨own, fields, h⟩ := bind_eq_ok h
    obtain ⟨pins, price⟩ := of_fields distinct fields
    cases listed : own.exposedPins with
    | none =>
      rw [listed] at h
      cases h
    | some found =>
      rw [listed] at h pins
      cases h
      refine ⟨rfl, ?_, price⟩
      cases said : doc.get? "exposed_pins" with
      | none => rw [said] at pins; cases pins
      | some v =>
        rw [said] at pins
        cases read : ExposedPin.decode.list v with
        | error e => simp [read] at pins
        | ok decoded =>
          rw [Option.elim_some, read] at pins
          cases pins
          exact congrArg some read
  · rintro ⟨named, pinned, priced⟩
    obtain ⟨v, listed, read⟩ := Option.map_eq_some_iff.mp pinned
    -- whatever stands under the keys of the two fields can be read
    have puts : ∀ m ∈ doc, ∀ own : Fields, ∃ own', own.set m.1 m.2 = .ok own' := by
      intro m mem own
      have said : doc.get? m.1 = some m.2 := (Members.get?_eq_some_iff distinct).mpr mem
      refine exists_set ?_ ?_ own
      · intro field
        rw [field, listed, Option.some.injEq] at said
        exact ⟨_, said ▸ read⟩
      · intro field
        rw [field] at said
        rw [said] at priced
        exact ⟨_, priced⟩
    obtain ⟨own, fields⟩ := exists_fields puts {}
    obtain ⟨pins, price⟩ := of_fields distinct fields
    rw [listed, Option.elim_some, read] at pins
    rw [priced] at price
    have pins : some chip.exposedPins = own.exposedPins := Except.ok.inj pins
    have price : chip.price = own.price := Except.ok.inj price
    unfold ofDocument
    rw [fields]
    obtain ⟨exposed, cost⟩ := own
    cases pins
    cases price
    rw [← named]
    rfl

end ChipSpec

/-! ### Records of a kind -/

/-- **The kind decides what a record is**: a chip, a bot, or a node of that kind. -/
theorem Record.ofDocument_eq_ok {key : String} {kind : Kind} {doc : Members} {record : Record}
    (h : Record.ofDocument key kind doc = .ok record) :
    (kind = .chipSpec ∧ ∃ chip, record = .chip chip ∧ ChipSpec.ofDocument key doc = .ok chip) ∨
      (kind = .bot ∧ ∃ bot, record = .bot bot ∧ BotRecord.ofDocument doc = .ok bot) ∨
      ∃ node, record = .node kind node ∧ NodeRecord.ofDocument doc = .ok node := by
  unfold Record.ofDocument at h
  split at h
  · obtain ⟨chip, read, same⟩ := bind_eq_ok h
    cases same
    exact .inl ⟨rfl, chip, rfl, read⟩
  · obtain ⟨bot, read, same⟩ := bind_eq_ok h
    cases same
    exact .inr (.inl ⟨rfl, bot, rfl, read⟩)
  · obtain ⟨node, read, same⟩ := bind_eq_ok h
    cases same
    exact .inr (.inr ⟨node, rfl, read⟩)

end DispatchTables
