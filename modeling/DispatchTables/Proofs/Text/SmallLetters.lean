import DispatchTables.Text.Lowercase
import Mathlib.Data.List.Forall2

/-!
# Small letters

What lowercasing writes it leaves alone from then on, and what it writes in place of another
character is never a sign of ASCII: a slash, a dot or a backslash in a lowercase text stood there
before.

The image of a capital sigma depends on its neighbours.  A slash cuts that off, so a text is
lowercased piece by piece between its slashes; and the neighbours count only by their classes, which
a letter of ASCII keeps when its case changes.

## Main Definitions

* `IsSmall`: a character that lowercasing leaves.
* `spares`: whether ascending runs change none of an interval of code points.
* `SameLetter`: equal characters, or the two cases of a letter of ASCII.

## Main Statements

* `isSmall_of_mem_lowercaseFrom`, `lowercaseFrom_of_small`: lowercase texts are left alone.
* `mem_of_mem_lowercaseFrom`: signs of ASCII stood there before.
* `lowercaseFrom_slash`: texts are lowercased piece by piece.
* `lowercaseFrom_congr`, `lowercaseFrom_ascii`: letters of ASCII.
-/

namespace DispatchTables.Text

variable {c x : Char} {cs before : List Char}

/-! ### Runs of the case table -/

/-- Whether ascending runs change no code point of an interval, or none of every other one. -/
def spares (low high : Nat) (others : Bool) : List (Nat × Nat × Nat × Nat) → Bool
  | [] => true
  | (first, last, step, _) :: rest =>
    Nat.blt high first ||
      (Nat.blt last low || (others && step == 2 && (low + first) % 2 == 1)) &&
        spares low high others rest

theorem lowercaseIn_of_spares {runs : List (Nat × Nat × Nat × Nat)} {low high n : Nat}
    {others : Bool} (h : spares low high others runs = true) (lower : low ≤ n) (upper : n ≤ high)
    (same : others = true → n % 2 = low % 2) : lowercaseIn runs n = n := by
  induction runs with
  | nil => rfl
  | cons run rest ih =>
    obtain ⟨first, last, step, image⟩ := run
    rw [spares, Bool.or_eq_true] at h
    rw [lowercaseIn]
    rcases h with beyond | within
    · rw [if_pos (Nat.lt_of_le_of_lt upper (Nat.blt_eq.mp beyond))]
    · obtain ⟨off, later⟩ := Bool.and_eq_true_iff.mp within
      -- the run ends below the interval, or has the code points in between
      have missed : ¬ (n ≤ last ∧ (n - first) % step = 0 ∧ first ≤ n) := by
        rintro ⟨le, even, ge⟩
        rcases Bool.or_eq_true_iff.mp off with below | odd
        · have := Nat.blt_eq.mp below
          omega
        · simp only [Bool.and_eq_true, beq_iff_eq] at odd
          obtain ⟨⟨every, rfl⟩, parity⟩ := odd
          have := same every
          omega
      by_cases below : n < first
      · rw [if_pos below]
      · rw [if_neg below, if_neg, ih later]
        intro covered
        rw [Bool.and_eq_true, decide_eq_true_eq, beq_iff_eq] at covered
        exact missed ⟨covered.1, covered.2, Nat.not_lt.mp below⟩

/-- A code point that runs change is in one of them. -/
theorem lowercaseIn_cases (runs : List (Nat × Nat × Nat × Nat)) (n : Nat) :
    lowercaseIn runs n = n ∨ ∃ first last step image, (first, last, step, image) ∈ runs ∧
      first ≤ n ∧ n ≤ last ∧ (n - first) % step = 0 ∧
      lowercaseIn runs n = image + (n - first) := by
  induction runs with
  | nil => exact .inl rfl
  | cons run rest ih =>
    obtain ⟨first, last, step, image⟩ := run
    rw [lowercaseIn]
    split
    · exact .inl rfl
    · rename_i notBelow
      split
      · rename_i covered
        rw [Bool.and_eq_true, decide_eq_true_eq, beq_iff_eq] at covered
        exact .inr ⟨first, last, step, image, List.mem_cons_self, Nat.not_lt.mp notBelow,
          covered.1, covered.2, rfl⟩
      · rcases ih with same | ⟨first', last', step', image', mem, rest⟩
        · exact .inl same
        · exact .inr ⟨first', last', step', image', List.mem_cons_of_mem _ mem, rest⟩

/-- A code point that stands for a small letter and for no sign of ASCII. -/
structure IsSettled (n : Nat) : Prop where
  letter : 0x61 ≤ n
  valid : n.isValidChar
  undotted : n ≠ 0x130
  fixed : lowercaseIn lowercaseRuns n = n

/-- **The images of the case table** are small letters. -/
theorem isSettled_lowercaseIn (n : Nat) :
    lowercaseIn lowercaseRuns n = n ∨ IsSettled (lowercaseIn lowercaseRuns n) := by
  have table : lowercaseRuns.all (fun (first, last, step, image) =>
      let high := image + (last - first)
      Nat.ble 0x61 image && (Nat.blt high 0x130 || Nat.blt 0x130 image) &&
        (Nat.blt high 0xD800 || Nat.blt 0xDFFF image && Nat.blt high 0x110000) &&
        spares image high (step == 2 || first == last) lowercaseRuns) = true := by
    decide +kernel
  rcases lowercaseIn_cases lowercaseRuns n with same | ⟨first, last, step, image, mem, lower,
    upper, place, eq⟩
  · exact .inl same
  · right
    have run := List.all_eq_true.mp table _ mem
    simp only [Bool.and_eq_true, Bool.or_eq_true, Nat.ble_eq, Nat.blt_eq] at run
    obtain ⟨⟨⟨letter, undotted⟩, valid⟩, spared⟩ := run
    rw [eq]
    refine ⟨by omega, ?_, by omega, lowercaseIn_of_spares spared (by omega) (by omega) ?_⟩
    · rcases valid with low | high
      · exact .inl (by omega)
      · exact .inr ⟨by omega, by omega⟩
    · intro every
      rw [Bool.or_eq_true, beq_iff_eq, beq_iff_eq] at every
      rcases every with rfl | single <;> omega

theorem toNat_ofNat_of_isValidChar {n : Nat} (valid : n.isValidChar) : (Char.ofNat n).toNat = n := by
  rw [Char.ofNat, dif_pos valid]
  rfl

/-! ### Characters -/

/-- **A character that lowercasing leaves.** -/
def IsSmall (c : Char) : Prop := lowercaseChar c = [c]

instance (c : Char) : Decidable (IsSmall c) := inferInstanceAs (Decidable (lowercaseChar c = [c]))

/-- The image of a character is the character itself, or small letters. -/
theorem lowercaseChar_cases (c : Char) :
    lowercaseChar c = [c] ∨
      lowercaseChar c ≠ [] ∧ ∀ x ∈ lowercaseChar c, IsSmall x ∧ 0x61 ≤ x.toNat := by
  unfold lowercaseChar
  split
  · refine .inr ⟨List.cons_ne_nil _ _, List.forall_mem_cons.mpr ⟨by decide +kernel, ?_⟩⟩
    exact List.forall_mem_singleton.mpr (by decide +kernel)
  · rcases isSettled_lowercaseIn c.toNat with same | settled
    · rw [same, Char.ofNat_toNat]
      exact .inl rfl
    · refine .inr ⟨List.cons_ne_nil _ _, fun x mem => ?_⟩
      rw [List.mem_singleton] at mem
      have code : x.toNat = lowercaseIn lowercaseRuns c.toNat := by
        rw [mem, toNat_ofNat_of_isValidChar settled.valid]
      refine ⟨?_, code ▸ settled.letter⟩
      rw [← code] at settled
      rw [IsSmall, lowercaseChar, if_neg settled.undotted, settled.fixed, Char.ofNat_toNat]

theorem IsSmall.ne_sigma (h : IsSmall c) : c.toNat ≠ 0x3A3 := by
  intro sigma
  rw [← Char.ofNat_toNat c, sigma] at h
  revert h
  decide +kernel

/-! ### Texts -/

/-- What stands in place of one character in a lowercase text. -/
theorem exists_image (before cs : List Char) (c : Char) :
    ∃ image, lowercaseFrom before (c :: cs) = image ++ lowercaseFrom (c :: before) cs ∧
      (image = [c] ∧ IsSmall c ∨ image ≠ [] ∧ ∀ x ∈ image, IsSmall x ∧ 0x61 ≤ x.toNat) := by
  refine ⟨_, rfl, ?_⟩
  split
  · right
    split <;>
    · exact ⟨List.cons_ne_nil _ _, List.forall_mem_singleton.mpr (by decide +kernel)⟩
  · rcases lowercaseChar_cases c with same | small
    · exact .inl ⟨same, same⟩
    · exact .inr small

/-- **In a lowercase text all letters are small.** -/
theorem isSmall_of_mem_lowercaseFrom (mem : x ∈ lowercaseFrom before cs) : IsSmall x := by
  induction cs generalizing before with
  | nil => cases mem
  | cons c rest ih =>
    obtain ⟨image, eq, kept | small⟩ := exists_image before rest c
    all_goals
      rw [eq] at mem
      rcases List.mem_append.mp mem with here | later
    · rw [kept.1, List.mem_singleton] at here
      exact here ▸ kept.2
    · exact ih later
    · exact (small.2 x here).1
    · exact ih later

/-- **A text of small letters is left as it is.** -/
theorem lowercaseFrom_of_small (small : ∀ c ∈ cs, IsSmall c) : lowercaseFrom before cs = cs := by
  induction cs generalizing before with
  | nil => rfl
  | cons c rest ih =>
    have first := small c List.mem_cons_self
    rw [lowercaseFrom, if_neg first.ne_sigma, first, List.singleton_append,
      ih fun d mem => small d (List.mem_cons_of_mem c mem)]

/-- **A sign of ASCII in a lowercase text** stood there before. -/
theorem mem_of_mem_lowercaseFrom (mem : x ∈ lowercaseFrom before cs) (sign : x.toNat < 0x61) :
    x ∈ cs := by
  induction cs generalizing before with
  | nil => cases mem
  | cons c rest ih =>
    obtain ⟨image, eq, kept | small⟩ := exists_image before rest c
    all_goals
      rw [eq] at mem
      rcases List.mem_append.mp mem with here | later
    · rw [kept.1, List.mem_singleton] at here
      exact here ▸ List.mem_cons_self
    · exact List.mem_cons_of_mem c (ih later)
    · exact absurd (small.2 x here).2 (Nat.not_le.mpr sign)
    · exact List.mem_cons_of_mem c (ih later)

/-- A lowercase text of signs is what stood there before. -/
theorem lowercaseFrom_of_signs (signs : ∀ x ∈ lowercaseFrom before cs, x.toNat < 0x61) :
    lowercaseFrom before cs = cs := by
  induction cs generalizing before with
  | nil => rfl
  | cons c rest ih =>
    obtain ⟨image, eq, kept | ⟨nonempty, small⟩⟩ := exists_image before rest c
    all_goals rw [eq] at signs ⊢
    · rw [kept.1, List.singleton_append,
        ih fun x mem => signs x (List.mem_append_right image mem)]
    · obtain ⟨x, mem⟩ := List.exists_mem_of_ne_nil image nonempty
      exact absurd (small x mem).2 (Nat.not_le.mpr (signs x (List.mem_append_left _ mem)))

/-! ### Pieces between slashes -/

/-- Nothing beyond a slash matters to a sigma. -/
theorem leadsCased_slash (xs ys : List Char) : leadsCased (xs ++ '/' :: ys) = leadsCased xs := by
  have passed : caseIgnorable.contains '/' = false := by decide +kernel
  have uncased : cased.contains '/' = false := by decide +kernel
  induction xs with
  | nil => simp [leadsCased, passed, uncased]
  | cons c rest ih =>
    by_cases ignored : caseIgnorable.contains c = true
    · simpa only [leadsCased, List.cons_append, List.dropWhile_cons_of_pos ignored] using ih
    · simp only [leadsCased, List.cons_append, List.dropWhile_cons_of_neg ignored]

theorem lowercaseFrom_beyond_slash (front behind cs : List Char) :
    lowercaseFrom (front ++ '/' :: behind) cs = lowercaseFrom front cs := by
  induction cs generalizing front with
  | nil => rfl
  | cons c rest ih =>
    have ends : endsWord (front ++ '/' :: behind) rest = endsWord front rest := by
      rw [endsWord, leadsCased_slash, endsWord]
    rw [lowercaseFrom, lowercaseFrom, ends, ← List.cons_append, ih]

/-- **A text is lowercased piece by piece** between its slashes. -/
theorem lowercaseFrom_slash (before xs ys : List Char) :
    lowercaseFrom before (xs ++ '/' :: ys) =
      lowercaseFrom before xs ++ '/' :: lowercaseFrom [] ys := by
  induction xs generalizing before with
  | nil =>
    have slash : IsSmall '/' := by decide +kernel
    have next : lowercaseFrom before ('/' :: ys) = '/' :: lowercaseFrom ('/' :: before) ys := by
      rw [lowercaseFrom, if_neg slash.ne_sigma, slash, List.singleton_append]
    rw [List.nil_append, next]
    exact congrArg _ (lowercaseFrom_beyond_slash [] before ys)
  | cons c rest ih =>
    have ends : endsWord before (rest ++ '/' :: ys) = endsWord before rest := by
      rw [endsWord, leadsCased_slash, endsWord]
    rw [List.cons_append, lowercaseFrom, ends, ih, lowercaseFrom, List.append_assoc]

/-! ### Letters of ASCII -/

/-- What holds of the first 128 characters holds of every character of ASCII. -/
theorem forall_ascii {p : Char → Prop} (h : ∀ n < 128, p (Char.ofNat n)) (ascii : c.toNat < 128) :
    p c := by
  have checked := h c.toNat ascii
  rwa [Char.ofNat_toNat] at checked

theorem lowercaseChar_ascii (ascii : c.toNat < 128) : lowercaseChar c = [c.toLower] :=
  forall_ascii (p := fun c => lowercaseChar c = [c.toLower]) (by decide +kernel) ascii

/-- **A text of ASCII is lowercased letter by letter.** -/
theorem lowercaseFrom_ascii (ascii : ∀ c ∈ cs, c.toNat < 128) :
    lowercaseFrom before cs = cs.map Char.toLower := by
  induction cs generalizing before with
  | nil => rfl
  | cons c rest ih =>
    have first := ascii c List.mem_cons_self
    have other : c.toNat ≠ 0x3A3 := by omega
    rw [lowercaseFrom, if_neg other, lowercaseChar_ascii first, List.singleton_append,
      ih fun d mem => ascii d (List.mem_cons_of_mem c mem), List.map_cons]

theorem ascii_of_isAlpha (letter : c.isAlpha = true) : c.toNat < 128 := by
  have classes : (c.isUpper || c.isLower) = true := letter
  rcases (Bool.or_eq_true _ _).mp classes with upper | lower
  · have bounds : c.val ≥ 'A'.val ∧ c.val ≤ 'Z'.val := of_decide_eq_true upper
    exact Nat.lt_of_le_of_lt (UInt32.le_iff_toNat_le.mp bounds.2) (by decide)
  · have bounds : (decide (c.val ≥ 'a'.val) && decide (c.val ≤ 'z'.val)) = true := lower
    have last : c.val ≤ 'z'.val := of_decide_eq_true ((Bool.and_eq_true _ _).mp bounds).2
    exact Nat.lt_of_le_of_lt (UInt32.le_iff_toNat_le.mp last) (by decide)

/-- No small letter is a capital letter of ASCII. -/
theorem IsSmall.not_isUpper (h : IsSmall c) : c.isUpper = false := by
  refine Bool.eq_false_iff.mpr fun upper => ?_
  have letter : (c.isUpper || c.isLower) = true := by rw [upper, Bool.true_or]
  have ascii := ascii_of_isAlpha letter
  have changed := forall_ascii (p := fun c => c.isUpper = true → lowercaseChar c ≠ [c])
    (by decide +kernel) ascii
  exact changed upper h

/-- Only letters of ASCII have a lower case there. -/
theorem ascii_of_toLower (ascii : c.toLower.toNat < 128) : c.toNat < 128 := by
  unfold Char.toLower at ascii
  split at ascii
  · rename_i upper
    exact Nat.lt_of_le_of_lt (UInt32.le_iff_toNat_le.mp upper.2) (by decide)
  · exact ascii

/-- Equal characters, or the two cases of a letter of ASCII. -/
def SameLetter (c d : Char) : Prop :=
  c = d ∨ c.isAlpha = true ∧ d.isAlpha = true ∧ c.toLower = d.toLower

/-- The letters of ASCII are of one class. -/
theorem classes_of_isAlpha (letter : c.isAlpha = true) :
    cased.contains c = true ∧ caseIgnorable.contains c = false :=
  forall_ascii (p := fun c => c.isAlpha = true →
    cased.contains c = true ∧ caseIgnorable.contains c = false) (by decide +kernel)
    (ascii_of_isAlpha letter) letter

theorem leadsCased_congr {cs ds : List Char} (same : List.Forall₂ SameLetter cs ds) :
    leadsCased cs = leadsCased ds := by
  induction same with
  | nil => rfl
  | @cons c d cs ds first rest ih =>
    rcases first with rfl | ⟨letter, letter', -⟩
    · by_cases ignored : caseIgnorable.contains c = true
      · simpa only [leadsCased, List.dropWhile_cons_of_pos ignored] using ih
      · simp only [leadsCased, List.dropWhile_cons_of_neg ignored]
    · obtain ⟨isCased, kept⟩ := classes_of_isAlpha letter
      obtain ⟨isCased', kept'⟩ := classes_of_isAlpha letter'
      simp [leadsCased, kept, kept', isCased, isCased']

/-- **The case of a letter of ASCII does not matter** to the lowercase text, even where the letter
is a neighbour of a sigma. -/
theorem lowercaseFrom_congr {before before' cs ds : List Char}
    (behind : List.Forall₂ SameLetter before before') (same : List.Forall₂ SameLetter cs ds) :
    lowercaseFrom before cs = lowercaseFrom before' ds := by
  induction same generalizing before before' with
  | nil => rfl
  | @cons c d cs ds first rest ih =>
    have later := ih (List.Forall₂.cons first behind)
    rcases first with rfl | ⟨letter, letter', lower⟩
    · have ends : endsWord before cs = endsWord before' ds := by
        rw [endsWord, endsWord, leadsCased_congr behind, leadsCased_congr rest]
      rw [lowercaseFrom, lowercaseFrom, ends, later]
    · have ascii := ascii_of_isAlpha letter
      have ascii' := ascii_of_isAlpha letter'
      have other : c.toNat ≠ 0x3A3 := by omega
      have other' : d.toNat ≠ 0x3A3 := by omega
      rw [lowercaseFrom, lowercaseFrom, if_neg other, if_neg other', lowercaseChar_ascii ascii,
        lowercaseChar_ascii ascii', lower, later]

end DispatchTables.Text
