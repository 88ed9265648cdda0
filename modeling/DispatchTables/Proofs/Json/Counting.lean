import DispatchTables.Proofs.Store.Growth
import DispatchTables.Traversal.Walk

/-!
# How many objects a text holds

Each object of a value that is read begins with a brace of its own.  So a text holds no more objects
than it has characters, and a file no more than it has bytes.

## Main Definitions

* `Json.Grammar.Uses`: a part of the grammar uses up as many characters as something amounts to.

## Main Statements

* `Json.Grammar.value_uses`: a value uses up as many characters as it has objects.
* `objectCount_le_byteCountOf`: a descriptor has no more objects than its file has bytes.
-/

namespace DispatchTables

namespace Json

/-! ### Counting -/

theorem objectCountItems_append (xs ys : List Json) :
    objectCountItems (xs ++ ys) = objectCountItems xs + objectCountItems ys := by
  induction xs with
  | nil => simp [objectCountItems]
  | cons v rest ih => simp [objectCountItems, ih, Nat.add_assoc]

theorem objectCountItems_reverse (items : List Json) :
    objectCountItems items.reverse = objectCountItems items := by
  induction items with
  | nil => rfl
  | cons v rest ih => simp [objectCountItems_append, objectCountItems, ih, Nat.add_comm]

/-- A member that is put in adds no more than the objects of its value. -/
theorem objectCountMembers_insert (doc : Members) (key : String) (v : Json) :
    objectCountMembers (doc.insert key v) ≤ objectCountMembers doc + v.objectCount := by
  induction doc with
  | nil => simp [Members.insert, objectCountMembers]
  | cons m rest ih =>
    obtain ⟨other, value⟩ := m
    unfold Members.insert
    split
    · simp only [objectCountMembers]
      omega
    · simp only [objectCountMembers]
      omega

namespace Grammar

/-! ### Using up characters -/

/-- **A part of the grammar uses up characters**: of so many that there were, at least as many as
what it gives amounts to. -/
def Uses {α : Type} (amount : α → Nat) (length : Nat) (r : Reading (α × Cursor)) : Prop :=
  ∀ a c, r = .ok (a, c) → amount a + c.rest.length ≤ length

variable {α β : Type} {amount : α → Nat} {length : Nat} {c c' : Cursor}

/-- A failure gives nothing. -/
theorem uses_error (e : Failure) : Uses amount length (.error e) := nofun

theorem uses_failAt (c : Cursor) (fault : Fault) : Uses amount length (c.failAt fault) := nofun

theorem uses_failBehind (c : Cursor) (fault : Fault) : Uses amount length (c.failBehind fault) :=
  nofun

theorem uses_ok {a : α} (h : amount a + c.rest.length ≤ length) :
    Uses amount length (.ok (a, c)) := by
  rintro b c' ⟨⟩
  exact h

/-- A part that reads something first, and then goes on from there. -/
theorem uses_bind {amount' : β → Nat} {length' : Nat} {x : Reading (β × Cursor)}
    {f : β × Cursor → Reading (α × Cursor)} (first : Uses amount' length' x)
    (later : ∀ b c, amount' b + c.rest.length ≤ length' → Uses amount length (f (b, c))) :
    Uses amount length (x >>= f) := by
  intro a c read
  obtain ⟨⟨b, c₁⟩, start, rest⟩ := bind_eq_ok read
  exact later b c₁ (first b c₁ start) a c rest

theorem Uses.mono {more : Nat} {r : Reading (α × Cursor)} (h : Uses amount length r)
    (le : length ≤ more) : Uses amount more r :=
  fun a c read => Nat.le_trans (h a c read) le

theorem length_advance (c : Cursor) : c.advance.rest.length = c.rest.length - 1 := by
  unfold Cursor.advance
  split <;> simp_all

theorem length_skipFrom (bytes : Nat) (cs : List Char) :
    (Cursor.skipFrom bytes cs).rest.length ≤ cs.length := by
  induction cs generalizing bytes with
  | nil => exact Nat.le_refl _
  | cons x rest ih =>
    unfold Cursor.skipFrom
    split
    · exact Nat.le_succ_of_le (ih _)
    · exact Nat.le_refl _

theorem length_skip (c : Cursor) : c.skip.rest.length ≤ c.rest.length := length_skipFrom _ _

theorem length_digits (c : Cursor) : c.digits.2.rest.length ≤ c.rest.length :=
  (List.dropWhile_suffix _).length_le

/-! ### Numbers and words -/

variable {negative : Bool} {whole : Nat} {start : Int}

theorem doubleOr_uses (c : Cursor) (x : Option Double) :
    Uses objectCount c.rest.length (doubleOr c x) := by
  cases x with
  | none => exact uses_failBehind _ _
  | some x => exact uses_ok (by simp [objectCount])

theorem wholeNumber_uses : Uses objectCount c.rest.length (wholeNumber negative whole c) := by
  unfold wholeNumber
  split
  · exact uses_ok (by simp [objectCount])
  · split
    · exact doubleOr_uses _ _
    · exact uses_ok (by simp [objectCount])

theorem exponentPart_uses :
    Uses objectCount c.rest.length (exponentPart negative whole start c) := by
  unfold exponentPart
  split
  rename_i down c₁ signed
  -- a sign may have been passed over
  have moved : c₁.rest.length ≤ c.rest.length := by
    have passed := length_advance c
    split at signed <;> cases signed <;> omega
  refine Uses.mono ?_ moved
  split
  · exact uses_failBehind _ _
  · split
    · exact uses_failAt _ _
    · have digits := length_digits c₁
      simp only
      split
      · exact (doubleOr_uses _ _).mono digits
      · split
        · exact uses_error _
        · exact (doubleOr_uses _ _).mono digits

theorem fractionPart_uses :
    Uses objectCount c.rest.length (fractionPart negative whole start c) := by
  have digits := length_digits c
  have passed := length_advance c.digits.2
  unfold fractionPart
  simp only
  split
  · split
    · exact uses_failBehind _ _
    · exact uses_failAt _ _
  · split
    · exact exponentPart_uses.mono (by omega)
    · exact exponentPart_uses.mono (by omega)
    · exact (doubleOr_uses _ _).mono digits

theorem numberPart_uses : Uses objectCount c.rest.length (numberPart negative c) := by
  unfold numberPart
  split
  · exact uses_failBehind _ _
  · split
    · exact uses_failAt _ _
    · rename_i x _ _ _
      have begun : (if x = '0' then (['0'], c.advance) else c.digits).2.rest.length ≤
          c.rest.length := by
        split
        · exact Nat.le_trans (Nat.le_of_eq (length_advance c)) (Nat.sub_le _ _)
        · exact length_digits c
      generalize (if x = '0' then (['0'], c.advance) else c.digits) = read at begun
      obtain ⟨ds, after⟩ := read
      have passed := length_advance after
      simp only at begun ⊢
      refine Uses.mono ?_ begun
      split
      · exact fractionPart_uses.mono (by omega)
      · exact exponentPart_uses.mono (by omega)
      · exact exponentPart_uses.mono (by omega)
      · split
        · exact uses_failAt _ _
        · split
          · exact wholeNumber_uses
          · exact doubleOr_uses _ _
      · split
        · exact wholeNumber_uses
        · exact doubleOr_uses _ _

theorem word_uses {v : Json} (none : v.objectCount = 0) (cs : List Char) :
    Uses objectCount c.rest.length (c.word v cs) := by
  induction cs generalizing c with
  | nil => exact uses_ok (by omega)
  | cons x more ih =>
    unfold Cursor.word
    split
    · exact uses_failBehind _ _
    · split
      · exact ih.mono (by have := length_advance c; omega)
      · exact uses_failAt _ _

/-! ### Strings -/

theorem hexFour_uses : Uses (fun _ => 0) c.rest.length (hexFour c) := by
  have wrong : Uses (fun _ : Nat => 0) c.rest.length
      (if byteCount c.rest < 4 then .error (.endInString, c.bytes + byteCount c.rest)
        else .error (.invalidEscape, c.bytes + 4)) := by
    split <;> exact uses_error _
  unfold hexFour
  simp only
  split
  · rename_i w x y z rest four
    split
    · refine uses_ok ?_
      rw [four]
      simp only [List.length_cons]
      omega
    · exact wrong
  · exact wrong

theorem unicodeEscape_uses : Uses (fun _ => 0) c.rest.length (unicodeEscape c) := by
  unfold unicodeEscape
  refine uses_bind hexFour_uses fun n c₁ le => ?_
  simp only
  split
  · exact uses_failBehind _ _
  · split
    · exact uses_ok le
    · split
      · exact uses_failBehind _ _
      · split
        · exact uses_failBehind _ _
        · refine uses_bind hexFour_uses fun m c₂ le' => ?_
          simp only
          split
          · exact uses_failBehind _ _
          · refine uses_ok ?_
            have := length_advance c₁
            have := length_advance c₁.advance
            omega
        · exact uses_failAt _ _
      · exact uses_failAt _ _

theorem escape_uses : Uses (fun _ => 0) c.rest.length (escape c) := by
  have passed := length_advance c
  have one (x : Char) : Uses (fun _ => 0) c.rest.length (.ok (x, c.advance)) :=
    uses_ok (by omega)
  unfold escape
  split
  case h_1 => exact uses_failBehind _ _
  case h_10 => exact unicodeEscape_uses.mono (by omega)
  case h_11 => exact uses_failAt _ _
  all_goals exact one _

theorem stringBody_uses (rounds : Nat) (behind : List Char) :
    Uses (fun _ => 0) c.rest.length (stringBody rounds behind c) := by
  induction rounds generalizing behind c with
  | zero => exact uses_failBehind _ _
  | succ rounds ih =>
    have passed := length_advance c
    unfold stringBody
    split
    · exact uses_failBehind _ _
    · split
      · exact uses_ok (by omega)
      · split
        · exact uses_bind escape_uses fun y c₁ le => (ih _).mono (by omega)
        · split
          · exact uses_failAt _ _
          · exact (ih _).mono (by omega)

theorem stringPart_uses : Uses (fun _ => 0) c.rest.length (stringPart c) := stringBody_uses _ _

theorem atom_uses (c : Cursor) : Uses objectCount c.rest.length (atom c) := by
  have passed := length_advance c
  unfold atom
  split
  · exact uses_failBehind _ _
  · exact (word_uses rfl _).mono (by omega)
  · exact (word_uses rfl _).mono (by omega)
  · exact (word_uses rfl _).mono (by omega)
  · exact numberPart_uses.mono (by omega)
  · refine uses_bind stringPart_uses fun s c₁ le => uses_ok ?_
    simp only [objectCount]
    omega
  · split
    · exact numberPart_uses
    · exact uses_failAt _ _

/-! ### Containers -/

variable {inner : Cursor → Reading (Json × Cursor)}

/-- The items read so far count, and all characters that are still to come. -/
theorem items_uses (uses : ∀ c, Uses objectCount c.rest.length (inner c)) (rounds : Nat)
    (behind : List Json) :
    Uses objectCountItems (objectCountItems behind + c.rest.length)
      (items inner rounds behind c) := by
  induction rounds generalizing behind c with
  | zero => exact uses_failBehind _ _
  | succ rounds ih =>
    have one (c₁ : Cursor) (le : c₁.rest.length ≤ c.rest.length) :
        Uses objectCountItems (objectCountItems behind + c.rest.length)
          (inner c₁ >>= fun read => items inner rounds (read.1 :: behind) read.2) := by
      refine uses_bind (uses c₁) fun v c₂ used => (ih _).mono ?_
      simp only [objectCountItems]
      omega
    have skipped := length_skip c
    have passed := length_advance c.skip
    have next := length_skip c.skip.advance
    unfold items
    simp only
    split
    · exact uses_failBehind _ _
    · split
      · refine uses_ok ?_
        rw [objectCountItems_reverse]
        omega
      · split
        · exact one _ skipped
        · split
          · split
            · exact uses_failBehind _ _
            · exact uses_failAt _ _
            · exact one _ (by omega)
          · exact uses_failAt _ _

theorem member_uses (uses : ∀ c, Uses objectCount c.rest.length (inner c)) :
    Uses (fun m => m.2.objectCount) c.rest.length (member inner c) := by
  have passed := length_advance c
  unfold member
  refine uses_bind stringPart_uses fun key c₁ le => ?_
  have skipped := length_skip c₁
  have colon := length_advance c₁.skip
  simp only
  split
  · exact uses_failBehind _ _
  · refine uses_bind (uses _) fun v c₂ le' => uses_ok ?_
    simp only
    omega
  · exact uses_failAt _ _

/-- So it is with members. -/
theorem members_uses (uses : ∀ c, Uses objectCount c.rest.length (inner c)) (rounds : Nat)
    (fresh : Bool) (behind : Members) :
    Uses objectCountMembers (objectCountMembers behind + c.rest.length)
      (members inner rounds fresh behind c) := by
  induction rounds generalizing fresh behind c with
  | zero => exact uses_failBehind _ _
  | succ rounds ih =>
    have one (c₁ : Cursor) (le : c₁.rest.length ≤ c.rest.length) :
        Uses objectCountMembers (objectCountMembers behind + c.rest.length)
          (member inner c₁ >>= fun read =>
            members inner rounds false (behind.insert read.1.1 read.1.2) read.2) := by
      refine uses_bind (member_uses uses) fun m c₂ used => (ih _ _).mono ?_
      have added := objectCountMembers_insert behind m.1 m.2
      simp only at used ⊢
      omega
    have skipped := length_skip c
    have passed := length_advance c.skip
    have next := length_skip c.skip.advance
    unfold members
    simp only
    split
    · exact uses_failBehind _ _
    · split
      · exact uses_ok (by omega)
      · split
        · split
          · exact one _ skipped
          · exact uses_failAt _ _
        · split
          · split
            · exact uses_failBehind _ _
            · exact one _ (by omega)
            · exact uses_failAt _ _
          · exact uses_failAt _ _

/-- **A value uses up as many characters as it has objects**, for each begins with a brace. -/
theorem value_uses (depth : Nat) (c : Cursor) : Uses objectCount c.rest.length (value depth c) := by
  induction depth generalizing c with
  | zero =>
    unfold value
    simp only
    refine Uses.mono ?_ (length_skip c)
    split
    · exact uses_failAt _ _
    · exact uses_failAt _ _
    · exact atom_uses _
  | succ depth ih =>
    have passed := length_advance c.skip
    unfold value
    simp only
    refine Uses.mono ?_ (length_skip c)
    split
    · refine uses_bind (items_uses ih _ _) fun xs c₁ used => uses_ok ?_
      simp only [objectCount, objectCountItems] at used ⊢
      omega
    · rename_i rest brace
      refine uses_bind (members_uses ih _ _ _) fun ms c₁ used => uses_ok ?_
      simp only [objectCount, objectCountMembers, brace, List.length_cons] at used passed ⊢
      omega
    · exact atom_uses _

end Grammar

/-- A value has no more objects than its text has characters. -/
theorem objectCount_le_of_parse {text : String} {v : Json} (h : Json.parse text = .ok v) :
    v.objectCount ≤ text.toList.length := by
  unfold Json.parse at h
  simp only at h
  split at h
  · rename_i w read
    cases h
    unfold Grammar.wholeText? at read
    obtain ⟨⟨w, c⟩, value, rest⟩ := bind_eq_ok read
    have used := Grammar.value_uses _ _ _ _ value
    simp only at rest used
    split at rest
    · cases rest
      omega
    · cases rest
  · cases h

end Json

/-! ### Files -/

theorem length_le_utf8ByteSize (text : String) : text.toList.length ≤ text.utf8ByteSize := by
  have bytes (cs : List Char) : cs.length ≤ (String.ofList cs).utf8ByteSize := by
    induction cs with
    | nil => exact Nat.zero_le _
    | cons x rest ih =>
      have one := Char.utf8Size_pos x
      rw [String.ofList_cons, String.utf8ByteSize_append, String.utf8ByteSize_singleton,
        List.length_cons]
      omega
  have all := bytes text.toList
  rwa [String.ofList_toList] at all

theorem utf8ByteSize_of_fromUTF8? {content : ByteArray} {text : String}
    (h : String.fromUTF8? content = some text) : text.utf8ByteSize = content.size := by
  unfold String.fromUTF8? at h
  split at h
  · cases h
    rfl
  · cases h

theorem length_dropByteOrderMark (text : String) :
    (dropByteOrderMark text).toList.length ≤ text.toList.length := by
  unfold dropByteOrderMark
  split
  · rename_i rest marked
    rw [marked, String.toList_ofList]
    exact Nat.le_succ _
  · exact Nat.le_refl _

/-- How many bytes a file has. -/
def byteCountOf (files : FileTree) (path : String) : Nat :=
  match files.read path with
  | .ok content => content.size
  | .error _ => 0

/-- **A descriptor has no more objects than its file has bytes.** -/
theorem objectCount_le_byteCountOf {files : FileTree} {key path : String} {d : Descriptor}
    (h : readDescriptor files key path = .ok d) :
    (Json.object d.doc).objectCount ≤ byteCountOf files path := by
  unfold readDescriptor at h
  cases text : files.readText path with
  | error fault =>
    rw [text] at h
    cases h
  | ok text' =>
    rw [text] at h
    -- the text is what the bytes of the file are
    obtain ⟨content, read, decoded⟩ := bind_eq_ok text
    have size : text'.utf8ByteSize = byteCountOf files path := by
      rw [byteCountOf, read]
      cases said : String.fromUTF8? content with
      | none =>
        rw [said] at decoded
        cases decoded
      | some other =>
        rw [said] at decoded
        cases decoded
        exact utf8ByteSize_of_fromUTF8? said
    cases parsed : Json.parse (dropByteOrderMark text') with
    | error e =>
      simp only [readDocument, parsed] at h
      cases h
    | ok v =>
      have counted := Json.objectCount_le_of_parse parsed
      cases v with
      | object doc =>
        simp only [readDocument, parsed] at h
        cases h
        exact Nat.le_trans counted (Nat.le_trans (length_dropByteOrderMark text')
          (Nat.le_trans (length_le_utf8ByteSize text') (Nat.le_of_eq size)))
      | _ =>
        simp only [readDocument, parsed] at h
        cases h

end DispatchTables
