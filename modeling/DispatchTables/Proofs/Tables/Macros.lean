import DispatchTables.Proofs.Lists.Places
import DispatchTables.Proofs.Pins.Charging
import DispatchTables.Proofs.Tables.Pieces
import DispatchTables.Proofs.Text.Runs
import Mathlib.Data.List.Nodup

/-!
# Macros of pins

A shared pin asks for a macro named after its bus and its function.  Pins that ask for the same one
are numbered, the first of them excepted.  A number is put behind an underscore, as a function may
be as well, so that a numbered name may be one that another pin asks for.  Nothing else brings two
macros together: the number can be read off a numbered name.

Which pins ask for what is all that matters, not in which order they stand.  So macros are told
apart, or not, by the names that are asked for and how often each is.

## Main Definitions

* `toldApart`: names, each numbered by the equal ones before it.
* `askedSymbols`: the macros that the shared pins of a report ask for.

## Main Statements

* `eq_of_numberedName`: when names are numbered alike.
* `nodup_toldApart_iff`: when numbers tell names apart.
* `names_pinPiecesAfter`: the macros in a header are those asked for, numbered.
* `macros_nodup_iff`: when the macros of a report are distinct.
* `macro_bound_twice`: two pins may get the same macro.
-/

namespace DispatchTables

/-! ### Numbered names -/

variable {name name' : String} {n n' : Nat} {asked : List String}

/-- The number can be read off a name: it is the digits behind the last underscore. -/
theorem eq_of_numbered (same : name ++ "_" ++ Nat.repr n = name' ++ "_" ++ Nat.repr n') :
    name = name' ∧ n = n' := by
  have digits : ∀ m, ∀ c ∈ (Nat.repr m).toList.reverse, c.isDigit = true := by
    intro m c mem
    rw [List.mem_reverse, Nat.toList_repr] at mem
    exact Nat.isDigit_of_mem_toDigits (by decide) (by decide) mem
  have chars := congrArg (fun text : String => text.toList.reverse) same
  simp only [String.toList_append, List.reverse_append, List.append_assoc] at chars
  have stops : ∀ m : String, Text.StopsAt Char.isDigit ("_".toList.reverse ++ m.toList.reverse) :=
    fun m => Text.stopsAt_cons (by decide) _
  obtain ⟨number, rest⟩ := Text.run_unique (digits n) (stops name) (digits n') (stops name') chars
  have sameName := List.reverse_injective (List.append_cancel_left rest)
  have sameDigits := congrArg (Nat.ofDigitChars 10 · 0) (List.reverse_injective number)
  exact ⟨String.toList_inj.mp sameName, by simpa [Nat.toList_repr] using sameDigits⟩

/-- **When names are numbered alike**: they are equal with one number, or one of them is the other
with a number already. -/
theorem eq_of_numberedName (same : numberedName name n = numberedName name' n') :
    (name = name' ∧ n = n') ∨ (n' ≠ 0 ∧ name = name' ++ "_" ++ Nat.repr n') ∨
      (n ≠ 0 ∧ name' = name ++ "_" ++ Nat.repr n) := by
  unfold numberedName at same
  by_cases first : n = 0
  · rw [if_pos first] at same
    by_cases first' : n' = 0
    · rw [if_pos first'] at same
      exact .inl ⟨same, first.trans first'.symm⟩
    · rw [if_neg first'] at same
      exact .inr (.inl ⟨first', same⟩)
  · rw [if_neg first] at same
    by_cases first' : n' = 0
    · rw [if_pos first'] at same
      exact .inr (.inr ⟨first, same.symm⟩)
    · rw [if_neg first'] at same
      exact .inl (eq_of_numbered same)

/-! ### Names told apart -/

/-- Names told apart: each is numbered by the equal ones before it. -/
def toldApart (asked : List String) : List String :=
  asked.mapIdx fun i name => numberedName name ((asked.take i).count name)

theorem getElem?_toldApart (asked : List String) (i : Nat) :
    (toldApart asked)[i]? =
      asked[i]?.map fun name => numberedName name ((asked.take i).count name) :=
  List.getElem?_mapIdx

/-- A name is not one with a number. -/
theorem ne_numbered (name : String) (n : Nat) : name ≠ name ++ "_" ++ Nat.repr n := by
  intro same
  have lengths := congrArg (fun text : String => text.toList.length) same
  simp only [String.toList_append, List.length_append] at lengths
  have underscore : "_".toList.length = 1 := rfl
  omega

/-- **When names are told apart**: none that is given out with a number is asked for as well. -/
theorem nodup_toldApart_iff : (toldApart asked).Nodup ↔
    ∀ name ∈ asked, ∀ n < asked.count name, 0 < n → name ++ "_" ++ Nat.repr n ∉ asked := by
  constructor
  · intro apart name _ n lt pos clash
    -- the numbered one and the first that asks for its name stand at two places
    obtain ⟨i, here, before⟩ := exists_place_of_lt_count lt
    obtain ⟨j, there, before'⟩ := exists_place_of_lt_count (List.count_pos_iff.mpr clash)
    have given : (toldApart asked)[i]? = some (name ++ "_" ++ Nat.repr n) := by
      rw [getElem?_toldApart, here, Option.map_some, before, numberedName, if_neg pos.ne']
    have given' : (toldApart asked)[j]? = some (name ++ "_" ++ Nat.repr n) := by
      rw [getElem?_toldApart, there, Option.map_some, before', numberedName, if_pos rfl]
    have within := (List.getElem?_eq_some_iff.mp given).1
    obtain rfl := (List.getElem?_inj within apart).mp (given.trans given'.symm)
    exact ne_numbered name n (Option.some.inj (here.symm.trans there))
  · intro free
    rw [List.nodup_iff_getElem?_ne_getElem?]
    intro i j lt within same
    rw [toldApart, List.length_mapIdx] at within
    rw [getElem?_toldApart, getElem?_toldApart, List.getElem?_eq_getElem within,
      List.getElem?_eq_getElem (Nat.lt_trans lt within)] at same
    have here := List.getElem?_eq_getElem (Nat.lt_trans lt within)
    have there := List.getElem?_eq_getElem within
    rcases eq_of_numberedName (Option.some.inj same) with
      ⟨equal, count⟩ | ⟨pos, clash⟩ | ⟨pos, clash⟩
    · rw [equal] at count here
      exact absurd count (Nat.ne_of_lt (count_take_lt here lt))
    · exact free _ (List.mem_of_getElem? there) _ (count_take_lt_count there)
        (Nat.pos_of_ne_zero pos) (clash ▸ List.mem_of_getElem? here)
    · exact free _ (List.mem_of_getElem? here) _ (count_take_lt_count here)
        (Nat.pos_of_ne_zero pos) (clash ▸ List.mem_of_getElem? there)

/-! ### The macros of a report -/

/-- The macros that shared pins ask for. -/
def askedSymbols (assignments : List PinAssignment) : List String :=
  (assignments.filter (·.shared)).map pinSymbol

theorem askedSymbols_append (before after : List PinAssignment) :
    askedSymbols (before ++ after) = askedSymbols before ++ askedSymbols after := by
  rw [askedSymbols, List.filter_append, List.map_append]
  rfl

theorem countAsking_eq (symbol : String) (before : List PinAssignment) :
    countAsking symbol before = (askedSymbols before).count symbol := by
  rw [countAsking, askedSymbols, List.count_eq_countP, List.countP_map, List.countP_filter,
    List.countP_eq_length_filter]
  simp only [Function.comp_apply, Bool.and_comm]

/-- The macros in the lines for pins, after those for some others. -/
theorem names_pinPiecesAfter (before assignments : List PinAssignment) :
    Pieces.names (pinPiecesAfter before assignments) =
      (askedSymbols assignments).mapIdx fun i name => numberedName name
        ((askedSymbols before ++ (askedSymbols assignments).take i).count name) ++ "_PIN" := by
  induction assignments generalizing before with
  | nil => rfl
  | cons a rest ih =>
    have line : Pieces.names (pinPiecesAfter before (a :: rest)) =
        (pinPieces before a).filterMap Piece.name? ++
          Pieces.names (pinPiecesAfter (before ++ [a]) rest) := rfl
    rw [line, ih, askedSymbols_append]
    by_cases shared : a.shared = true
    · have own : askedSymbols [a] = [pinSymbol a] := by simp [askedSymbols, shared]
      have asked : askedSymbols (a :: rest) = pinSymbol a :: askedSymbols rest := by
        simp [askedSymbols, shared]
      rw [own, asked, List.mapIdx_cons, pinPieces, if_pos shared]
      simp [pinMacro, countAsking_eq, Piece.name?]
    · have own : askedSymbols [a] = [] := by simp [askedSymbols, shared]
      have asked : askedSymbols (a :: rest) = askedSymbols rest := by simp [askedSymbols, shared]
      rw [own, asked, List.append_nil, pinPieces, if_neg shared]
      rfl

/-- **The macros in a header are those asked for, told apart.** -/
theorem names_pinPieces (assignments : List PinAssignment) :
    Pieces.names (pinPiecesAfter [] assignments) =
      (toldApart (askedSymbols assignments)).map (· ++ "_PIN") := by
  rw [names_pinPiecesAfter]
  refine List.ext_getElem? fun i => ?_
  rw [List.getElem?_mapIdx, List.getElem?_map, getElem?_toldApart, Option.map_map]
  rfl

theorem nodup_macros_iff (assignments : List PinAssignment) :
    (Pieces.names (pinPiecesAfter [] assignments)).Nodup ↔
      (toldApart (askedSymbols assignments)).Nodup := by
  rw [names_pinPieces]
  exact List.nodup_map_iff fun a b same => (String.append_left_inj _).mp same

/-- The pins that have been given out are numbered by their places. -/
theorem index_of_allocate {chip : ChipSpec} {uses : List BusUse} {r : PinReport}
    (h : allocate chip uses = .ok r) {i : Nat} {a : PinAssignment}
    (here : r.assignments[i]? = some a) :
    a.index = i ∧ chip.exposedPins[i]?.map (·.name) = some a.pin := by
  obtain ⟨warnings, eq⟩ := allocate_eq_lines chip uses
  rw [h] at eq
  split at eq
  · cases eq
    obtain ⟨number, pin, -⟩ := getElem?_assign here
    exact ⟨number, pin⟩
  · cases eq

/-- **When the macros of a report are distinct.**  Each shared pin, no two of which are the same pin
of the chip, gets one macro in the lines for pins.  The macros are distinct if no pin asks for what
another pin is given with a number, and only then. -/
theorem macros_nodup_iff {chip : ChipSpec} {uses : List BusUse} {r : PinReport}
    (h : allocate chip uses = .ok r) :
    (∀ (i : Nat) (a : PinAssignment), r.assignments[i]? = some a →
      a.index = i ∧ chip.exposedPins[i]?.map (·.name) = some a.pin) ∧
    Pieces.lines (pinPiecesAfter [] r.assignments) = pinLines r ∧
    (Pieces.names (pinPiecesAfter [] r.assignments)).length =
      (r.assignments.filter (·.shared)).length ∧
    ((Pieces.names (pinPiecesAfter [] r.assignments)).Nodup ↔
      ∀ symbol ∈ askedSymbols r.assignments, ∀ n < (askedSymbols r.assignments).count symbol,
        0 < n → symbol ++ "_" ++ Nat.repr n ∉ askedSymbols r.assignments) := by
  refine ⟨fun i a here => index_of_allocate h here, lines_pinPiecesAfter [] r.assignments, ?_,
    (nodup_macros_iff r.assignments).trans nodup_toldApart_iff⟩
  rw [names_pinPieces, List.length_map, toldApart, List.length_mapIdx, askedSymbols,
    List.length_map]

/-- A device on a bus that shares some pins. -/
def eyeSharing (shared : List PinNeed) : List BusUse := [⟨"eye", none, "i2c", shared, []⟩]

theorem exists_report (shared : List PinNeed)
    (enough : (allocate (chipOf 4) (eyeSharing shared)).isOk = true) :
    ∃ r, allocate (chipOf 4) (eyeSharing shared) = .ok r ∧
      ∀ {α : Type} (f : PinReport → α),
        (allocate (chipOf 4) (eyeSharing shared)).toOption.map f = some (f r) := by
  cases out : allocate (chipOf 4) (eyeSharing shared) with
  | error o =>
    rw [out] at enough
    cases enough
  | ok r => exact ⟨r, rfl, fun f => rfl⟩

/-- Two pins for one function get two macros, and the pin for another function a third. -/
theorem macros_nodup_iff_numbered :
    ∃ r, allocate (chipOf 4) (eyeSharing [⟨"sda", 2⟩, ⟨"scl", 1⟩]) = .ok r ∧
      pinLines r = ["#define I2C_SDA_PIN P0", "#define I2C_SDA_1_PIN P1", "#define I2C_SCL_PIN P2",
        "// eye select: P3"] ∧
      (Pieces.names (pinPiecesAfter [] r.assignments)).Nodup := by
  obtain ⟨r, given, told⟩ := exists_report [⟨"sda", 2⟩, ⟨"scl", 1⟩] (by decide +kernel)
  obtain ⟨-, -, -, distinct⟩ := macros_nodup_iff given
  have asked : askedSymbols r.assignments = ["I2C_SDA", "I2C_SDA", "I2C_SCL"] :=
    Option.some.inj ((told fun r => askedSymbols r.assignments).symm.trans (by decide +kernel))
  refine ⟨r, given, Option.some.inj ((told pinLines).symm.trans (by decide +kernel)), ?_⟩
  rw [distinct, asked]
  decide +kernel

/-- **Two pins may get the same macro**, although they are different pins: the second pin for one
function is numbered, and another function is named like that. -/
theorem macro_bound_twice :
    ∃ r, allocate (chipOf 4) (eyeSharing [⟨"sda", 2⟩, ⟨"sda_1", 1⟩]) = .ok r ∧
      pinLines r = ["#define I2C_SDA_PIN P0", "#define I2C_SDA_1_PIN P1",
        "#define I2C_SDA_1_PIN P2", "// eye select: P3"] ∧
      ¬ (Pieces.names (pinPiecesAfter [] r.assignments)).Nodup := by
  obtain ⟨r, given, told⟩ := exists_report [⟨"sda", 2⟩, ⟨"sda_1", 1⟩] (by decide +kernel)
  have asked : askedSymbols r.assignments = ["I2C_SDA", "I2C_SDA", "I2C_SDA_1"] :=
    Option.some.inj ((told fun r => askedSymbols r.assignments).symm.trans (by decide +kernel))
  refine ⟨r, given, Option.some.inj ((told pinLines).symm.trans (by decide +kernel)), ?_⟩
  rw [nodup_macros_iff, nodup_toldApart_iff, asked]
  decide +kernel

end DispatchTables
