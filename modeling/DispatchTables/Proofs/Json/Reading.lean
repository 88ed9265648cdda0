import DispatchTables.Json.Parser
import DispatchTables.Proofs.Json.Members

/-!
# What is read has each key once

The members of an object are put in one by one, and a repeated key replaces the value it had.  So
nothing in a document that has been read has a key twice.

## Main Definitions

* `Json.Grammar.Reads`: every value that a part of the grammar gives has each key once.

## Main Statements

* `Json.wellKeyed_of_parse`: in a value that a text holds each object has each key once.
-/

namespace DispatchTables

theorem bind_eq_ok {ε α β : Type} {x : Except ε α} {f : α → Except ε β} {b : β}
    (h : (x >>= f) = .ok b) : ∃ a, x = .ok a ∧ f a = .ok b := by
  cases x with
  | error e => cases h
  | ok a => exact ⟨a, rfl, h⟩

theorem bind_eq_error {ε α β : Type} {x : Except ε α} {f : α → Except ε β} {e : ε}
    (h : (x >>= f) = .error e) : x = .error e ∨ ∃ a, x = .ok a ∧ f a = .error e := by
  cases x with
  | error other =>
    cases h
    exact .inl rfl
  | ok a => exact .inr ⟨a, rfl, h⟩

theorem eq_ok_of_toOption {ε α : Type} {x : Except ε α} {a : α} (h : x.toOption = some a) :
    x = .ok a := by
  cases x with
  | error e => cases h
  | ok b => exact congrArg Except.ok (Option.some.inj h)

theorem exists_of_toOption {ε α β : Type} {x : Except ε α} {f : α → β} {b : β}
    (h : x.toOption.map f = some b) : ∃ a, x = .ok a ∧ f a = b := by
  obtain ⟨a, found, same⟩ := Option.map_eq_some_iff.mp h
  exact ⟨a, eq_ok_of_toOption found, same⟩

namespace Json.Grammar

/-- In every value that a part of the grammar gives, each object has each key once. -/
def Reads (r : Reading (Json × Cursor)) : Prop :=
  ∀ v c, r = .ok (v, c) → v.wellKeyed = true

variable {c : Cursor} {negative : Bool} {whole : Nat} {start : Int}

/-- A failure gives no value. -/
theorem reads_error (e : Failure) : Reads (.error e) := nofun

theorem reads_failAt (c : Cursor) (fault : Fault) : Reads (c.failAt fault) := nofun

theorem reads_failBehind (c : Cursor) (fault : Fault) : Reads (c.failBehind fault) := nofun

theorem reads_ok {v : Json} (h : v.wellKeyed = true) (c : Cursor) : Reads (.ok (v, c)) := by
  rintro w c' ⟨⟩
  exact h

/-- A part that reads something first, and then a value. -/
theorem reads_bind {α : Type} {x : Reading α} {f : α → Reading (Json × Cursor)}
    (h : ∀ a, x = .ok a → Reads (f a)) : Reads (x >>= f) := by
  intro v c read
  obtain ⟨a, first, later⟩ := bind_eq_ok read
  exact h a first v c later

/-! ### Values without parts -/

theorem doubleOr_reads (c : Cursor) (x : Option Double) :
    Reads (doubleOr c x) := by
  cases x with
  | none => exact reads_failBehind _ _
  | some x => exact reads_ok rfl c

theorem wholeNumber_reads : Reads (wholeNumber negative whole c) := by
  unfold wholeNumber
  split
  · exact reads_ok rfl c
  · split
    · exact doubleOr_reads _ _
    · exact reads_ok rfl c

theorem exponentPart_reads : Reads (exponentPart negative whole start c) := by
  unfold exponentPart
  -- whatever the sign is, and wherever the digits begin
  split
  split
  · exact reads_failBehind _ _
  · split
    · exact reads_failAt _ _
    · simp only
      split
      · exact doubleOr_reads _ _
      · split
        · exact reads_error _
        · exact doubleOr_reads _ _

theorem fractionPart_reads : Reads (fractionPart negative whole start c) := by
  unfold fractionPart
  simp only
  split
  · split
    · exact reads_failBehind _ _
    · exact reads_failAt _ _
  · split
    · exact exponentPart_reads
    · exact exponentPart_reads
    · exact doubleOr_reads _ _

theorem numberPart_reads : Reads (numberPart negative c) := by
  unfold numberPart
  split
  · exact reads_failBehind _ _
  · split
    · exact reads_failAt _ _
    · rename_i x _ _ _
      generalize (if x = '0' then (['0'], c.advance) else c.digits) = begun
      obtain ⟨ds, after⟩ := begun
      simp only
      split
      · exact fractionPart_reads
      · exact exponentPart_reads
      · exact exponentPart_reads
      · split
        · exact reads_failAt _ _
        · split
          · exact wholeNumber_reads
          · exact doubleOr_reads _ _
      · split
        · exact wholeNumber_reads
        · exact doubleOr_reads _ _

theorem word_reads {v : Json} (h : v.wellKeyed = true) (cs : List Char) :
    Reads (c.word v cs) := by
  induction cs generalizing c with
  | nil => exact reads_ok h c
  | cons x more ih =>
    unfold Cursor.word
    split
    · exact reads_failBehind _ _
    · split
      · exact ih
      · exact reads_failAt _ _

theorem atom_reads (c : Cursor) : Reads (atom c) := by
  unfold atom
  split
  · exact reads_failBehind _ _
  · exact word_reads (v := .null) rfl _
  · exact word_reads (v := .bool true) rfl _
  · exact word_reads (v := .bool false) rfl _
  · exact numberPart_reads
  · exact reads_bind fun _ _ => reads_ok rfl _
  · split
    · exact numberPart_reads
    · exact reads_failAt _ _

/-! ### Containers -/

variable {inner : Cursor → Reading (Json × Cursor)} {rounds : Nat} {c' : Cursor}

/-- The items read so far are well-keyed, and so are all of them in the end. -/
theorem wellKeyed_items (reads : ∀ c, Reads (inner c)) {behind items' : List Json}
    (keyed : ∀ item ∈ behind, item.wellKeyed = true)
    (h : items inner rounds behind c = .ok (items', c')) :
    ∀ item ∈ items', item.wellKeyed = true := by
  induction rounds generalizing behind c with
  | zero => cases h
  | succ rounds ih =>
    have one : ∀ c₁, (inner c₁ >>= fun read => items inner rounds (read.1 :: behind) read.2) =
        .ok (items', c') → ∀ item ∈ items', item.wellKeyed = true := by
      intro c₁ h
      obtain ⟨⟨v, c₂⟩, read, later⟩ := bind_eq_ok h
      exact ih (List.forall_mem_cons.mpr ⟨reads c₁ v c₂ read, keyed⟩) later
    unfold items at h
    simp only at h
    split at h
    · cases h
    · split at h
      · cases h
        exact fun item mem => keyed item (List.mem_reverse.mp mem)
      · split at h
        · exact one _ h
        · split at h
          · split at h
            · cases h
            · cases h
            · exact one _ h
          · cases h

theorem wellKeyed_member (reads : ∀ c, Reads (inner c)) {key : String} {v : Json}
    (h : member inner c = .ok ((key, v), c')) : v.wellKeyed = true := by
  unfold member at h
  obtain ⟨⟨k, c₁⟩, -, h⟩ := bind_eq_ok h
  simp only at h
  split at h
  · cases h
  · obtain ⟨⟨w, c₂⟩, read, h⟩ := bind_eq_ok h
    cases h
    exact reads _ w c₂ read
  · cases h

/-- The members read so far are well-keyed, and so is the object in the end: a member that is put in
leaves each key there once. -/
theorem wellKeyed_members (reads : ∀ c, Reads (inner c)) {fresh : Bool} {behind ms : Members}
    (keyed : (Json.object behind).wellKeyed = true)
    (h : members inner rounds fresh behind c = .ok (ms, c')) :
    (Json.object ms).wellKeyed = true := by
  induction rounds generalizing fresh behind c with
  | zero => cases h
  | succ rounds ih =>
    have one : ∀ c₁, (member inner c₁ >>= fun read =>
        members inner rounds false (behind.insert read.1.1 read.1.2) read.2) = .ok (ms, c') →
        (Json.object ms).wellKeyed = true := by
      intro c₁ h
      obtain ⟨⟨⟨k, v⟩, c₂⟩, read, later⟩ := bind_eq_ok h
      exact ih (wellKeyed_insert keyed (wellKeyed_member reads read)) later
    unfold members at h
    simp only at h
    split at h
    · cases h
    · split at h
      · cases h
        exact keyed
      · split at h
        · split at h
          · exact one _ h
          · cases h
        · split at h
          · split at h
            · cases h
            · exact one _ h
            · cases h
          · cases h

theorem value_reads (depth : Nat) (c : Cursor) : Reads (value depth c) := by
  induction depth generalizing c with
  | zero =>
    unfold value
    simp only
    split
    · exact reads_failAt _ _
    · exact reads_failAt _ _
    · exact atom_reads _
  | succ depth ih =>
    unfold value
    simp only
    split
    · refine reads_bind fun read h => reads_ok ?_ _
      exact wellKeyed_array_iff.mpr (wellKeyed_items ih (by simp) h)
    · refine reads_bind fun read h => reads_ok ?_ _
      exact wellKeyed_members ih rfl h
    · exact atom_reads _

end Json.Grammar

/-- **In a value that a text holds each object has each key once.** -/
theorem Json.wellKeyed_of_parse {text : String} {v : Json} (h : Json.parse text = .ok v) :
    v.wellKeyed = true := by
  unfold Json.parse at h
  simp only at h
  split at h
  · rename_i w read
    cases h
    unfold Grammar.wholeText? at read
    obtain ⟨⟨w, c⟩, value, rest⟩ := bind_eq_ok read
    simp only at rest
    split at rest
    · cases rest
      exact Grammar.value_reads _ _ _ _ value
    · cases rest
  · cases h

end DispatchTables
