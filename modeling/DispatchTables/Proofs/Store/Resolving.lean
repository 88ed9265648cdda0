import DispatchTables.Proofs.Lists.Places
import DispatchTables.Proofs.Store.Agreement

/-!
# What a reference means

A reference is a list of names.  The key it means is looked for under the whole list, then under
what is left without the first name, and so on, but never under less than the last two names of a
longer reference.  The first of these tails that any key matches decides, even if a shorter one is a
key itself.  It means the key that equals it, or else the least of those that end in it behind a
slash.

All of this is said by the keys of the index alone, without the order in which they are gone
through.  What a look-up leaves behind is at most one warning, and the note that it has been given.

## Main Definitions

* `tailAfter`: what is left of a reference without its first names.
* `Store.Decides`: the first tail that any key matches.
* `Store.Means`: the key that a tail means.
* `Store.IsAmbiguous`: a reference that is reported.
* `Store.Resolves`: what a look-up comes to.

## Main Statements

* `splitOn_normalize`: the names of a reference are those of its normal form.
* `Store.findSome?_matchTail`: which tail decides, and which keys match it.
* `Store.resolveKey_resolves`: what a look-up comes to.
-/

namespace DispatchTables

variable {reference : String} {segments : List String}

/-! ### The names of a reference -/

/-- What is kept on the way are names that have been gone through, but no empty ones and no dots. -/
theorem mem_foldl_descend {pieces above : List (List Char)} {name : List Char}
    (mem : name ∈ pieces.foldl descend above) :
    name ∈ above ∨ name ∈ pieces ∧ name ≠ [] ∧ name ≠ ['.'] ∧ name ≠ ['.', '.'] := by
  induction pieces generalizing above with
  | nil => exact .inl mem
  | cons piece rest ih =>
    rcases ih mem with old | ⟨later, named⟩
    · unfold descend at old
      split at old
      · exact .inl old
      · rename_i kept
        split at old
        · exact .inl (List.mem_of_mem_drop old)
        · rename_i ahead
          rcases List.mem_cons.mp old with rfl | old
          · exact .inr ⟨List.mem_cons_self, fun empty => kept (.inl empty),
              fun dot => kept (.inr dot), ahead⟩
          · exact .inl old
    · exact .inr ⟨List.mem_cons_of_mem piece later, named⟩

/-- The names of a reference are not empty, and there is no slash in them. -/
theorem normalSegments_names {segment : String} (mem : segment ∈ normalSegments reference) :
    segment.toList ≠ [] ∧ '/' ∉ segment.toList := by
  unfold normalSegments at mem
  obtain ⟨name, kept, rfl⟩ := List.mem_map.mp mem
  rw [String.toList_ofList]
  rcases mem_foldl_descend (List.mem_reverse.mp kept) with above | ⟨piece, nonempty, -⟩
  · cases above
  · exact ⟨nonempty, not_mem_of_mem_splitOn piece⟩

theorem toList_joinSegments (segments : List String) :
    (joinSegments segments).toList = ['/'].intercalate (segments.map String.toList) :=
  String.toList_intercalate

/-- **The names of a reference are those of its normal form**, between its slashes. -/
theorem splitOn_normalize (named : normalSegments reference ≠ []) :
    (normalize reference).toList.splitOn '/' = (normalSegments reference).map String.toList := by
  rw [normalize, toList_joinSegments]
  refine List.splitOn_intercalate '/' ?_ (by simpa using named)
  intro name mem
  obtain ⟨segment, inSegments, rfl⟩ := List.mem_map.mp mem
  exact (normalSegments_names inSegments).2

/-- A reference has a name if its normal form is not empty. -/
theorem normalize_eq_empty_iff : normalize reference = "" ↔ normalSegments reference = [] := by
  constructor
  · intro empty
    refine Decidable.byContradiction fun named => ?_
    have pieces := splitOn_normalize named
    rw [empty] at pieces
    cases split : normalSegments reference with
    | nil => exact named split
    | cons first more =>
      have nonempty := (normalSegments_names (split ▸ List.mem_cons_self : first ∈ _)).1
      rw [split, List.map_cons] at pieces
      exact nonempty (List.cons.inj pieces).1.symm
  · intro none
    rw [normalize, none]
    rfl

/-! ### Tails -/

/-- What is left of a reference without its first names. -/
def tailAfter (segments : List String) (dropped : Nat) : String :=
  joinSegments (segments.drop dropped)

/-- **The tails that are tried**: all but the last two names may be dropped. -/
theorem tails_eq (named : segments ≠ []) :
    tails segments = (List.range (segments.length - 2 + 1)).map (tailAfter segments) := by
  fun_induction tails segments with
  | case1 => exact absurd rfl named
  | case2 name => rfl
  | case3 dir name => rfl
  | case4 name more one two ih =>
    -- two names or more are left, so the first may go
    obtain ⟨dir, last, rest, rfl⟩ : ∃ dir last rest, more = dir :: last :: rest := by
      cases more with
      | nil => exact absurd rfl one
      | cons dir rest =>
        cases rest with
        | nil => exact absurd rfl (two dir)
        | cons last rest => exact ⟨dir, last, rest, rfl⟩
    have left : (name :: dir :: last :: rest).length - 2 + 1 =
        (dir :: last :: rest).length - 2 + 1 + 1 := rfl
    rw [left, List.range_succ_eq_map, List.map_cons, List.map_map, ih (List.cons_ne_nil _ _)]
    rfl

namespace Store

variable {s : Store} {tail key : String} {others : List String}

/-- **The key that a tail means**: the one that equals it, or else the least that ends in it. -/
structure Means (s : Store) (tail key : String) : Prop where
  mem : key ∈ s.keys
  whole : tail ∈ s.keys → key = tail
  ends : tail ∉ s.keys → endsIn key tail = true
  least : tail ∉ s.keys → ∀ other ∈ s.keys, endsIn other tail = true → key = other ∨ key < other

/-- **The tail that decides**, by the number of names before it: a key matches it, and none matches
any longer tail. -/
structure Decides (s : Store) (segments : List String) (dropped : Nat) : Prop where
  named : segments ≠ []
  kept : dropped ≤ segments.length - 2
  matched : ∃ key ∈ s.keys, Matches (tailAfter segments dropped) key
  first : ∀ fewer < dropped, ∀ key ∈ s.keys, ¬ Matches (tailAfter segments fewer) key

theorem matchTail_eq_some_iff : s.matchTail tail = some (key, others) ↔
    (tail ∈ s.keys ∧ key = tail ∧ others = []) ∨
      (tail ∉ s.keys ∧ s.keysEndingIn tail = key :: others) := by
  unfold matchTail
  by_cases whole : s.index.has tail = true
  · simp [whole, has_iff.mp whole, eq_comm]
  · have missing : tail ∉ s.keys := fun mem => whole (has_iff.mpr mem)
    rw [if_neg whole]
    cases listed : s.keysEndingIn tail <;> simp [missing]

/-- A tail that no key matches means nothing, and only such a tail. -/
theorem matchTail_eq_none_iff :
    s.matchTail tail = none ↔ ∀ key ∈ s.keys, ¬ Matches tail key := by
  constructor
  · intro none key mem matched
    obtain ⟨chosen, others, some⟩ := exists_matchTail mem matched
    rw [none] at some
    cases some
  · intro unmatched
    cases found : s.matchTail tail with
    | none => rfl
    | some out =>
      obtain ⟨mem, matched, -⟩ := matchTail_spec found
      exact absurd matched (unmatched _ mem)

theorem means_of_matchTail (h : s.matchTail tail = some (key, others)) : s.Means tail key := by
  obtain ⟨mem, matched, whole, least⟩ := matchTail_spec h
  exact ⟨mem, whole, fun missing => matched.resolve_left fun same => missing (same ▸ mem), least⟩

/-- A tail means one key only. -/
theorem Means.unique {key' : String} (h : s.Means tail key) (h' : s.Means tail key') :
    key = key' := by
  by_cases there : tail ∈ s.keys
  · rw [h.whole there, h'.whole there]
  · rcases h.least there key' h'.mem (h'.ends there) with same | lt
    · exact same
    · rcases h'.least there key h.mem (h.ends there) with same | gt
      · exact same.symm
      · exact absurd (String.lt_trans lt gt) (String.lt_irrefl _)

/-- **Which tail decides**, and what it means. -/
theorem findSome?_matchTail :
    (tails segments).findSome? s.matchTail = some (key, others) ↔
      ∃ dropped, s.Decides segments dropped ∧
        s.matchTail (tailAfter segments dropped) = some (key, others) := by
  by_cases named : segments = []
  · subst named
    exact ⟨nofun, fun ⟨_, decides, _⟩ => absurd rfl decides.named⟩
  · rw [tails_eq named, List.findSome?_map, findSome?_range_eq_some_iff]
    constructor
    · rintro ⟨dropped, lt, found, none⟩
      obtain ⟨mem, matched, -⟩ := matchTail_spec found
      exact ⟨dropped, ⟨named, Nat.le_of_lt_succ lt, ⟨key, mem, matched⟩,
        fun fewer lt => matchTail_eq_none_iff.mp (none fewer lt)⟩, found⟩
    · rintro ⟨dropped, decides, found⟩
      exact ⟨dropped, Nat.lt_succ_of_le decides.kept, found,
        fun fewer lt => matchTail_eq_none_iff.mpr (decides.first fewer lt)⟩

/-- No tail decides if none is matched. -/
theorem findSome?_matchTail_eq_none_iff :
    (tails segments).findSome? s.matchTail = none ↔
      segments = [] ∨ ∀ dropped ≤ segments.length - 2, ∀ key ∈ s.keys,
        ¬ Matches (tailAfter segments dropped) key := by
  by_cases named : segments = []
  · subst named
    exact ⟨fun _ => .inl rfl, fun _ => rfl⟩
  · rw [tails_eq named, List.findSome?_eq_none_iff]
    simp only [List.forall_mem_map, List.mem_range, Nat.lt_succ_iff, matchTail_eq_none_iff, named,
      false_or]

/-- **A reference is reported** if keys only end in the tail that decides, at least two of them, and
its normal form has not been reported before. -/
structure IsAmbiguous (s : Store) (reference : String) (dropped : Nat) : Prop where
  decides : s.Decides (normalSegments reference) dropped
  ending : tailAfter (normalSegments reference) dropped ∉ s.keys
  several : ∃ key ∈ s.keys, ∃ other ∈ s.keys, key ≠ other ∧
    endsIn key (tailAfter (normalSegments reference) dropped) = true ∧
    endsIn other (tailAfter (normalSegments reference) dropped) = true
  fresh : normalize reference ∉ s.reported

/-- **What a look-up comes to**: the key it gives, when it gives none, and what it leaves behind. -/
structure Resolves (s : Store) (reference : String) (result : Except Failure String)
    (after : Store) : Prop where
  found : ∀ key, result = .ok key ↔ ∃ dropped, s.Decides (normalSegments reference) dropped ∧
    s.Means (tailAfter (normalSegments reference) dropped) key
  missing : ∀ failure, result = .error failure ↔ failure = .notFound reference ∧
    (normalSegments reference = [] ∨ ∀ dropped ≤ (normalSegments reference).length - 2,
      ∀ key ∈ s.keys, ¬ Matches (tailAfter (normalSegments reference) dropped) key)
  index : after.index = s.index
  cache : after.cache = s.cache
  reported : ∀ dropped, s.IsAmbiguous reference dropped → ∃ key others, result = .ok key ∧
    s.keys.filter (endsIn · (tailAfter (normalSegments reference) dropped)) = key :: others ∧
    after = { s with
      warnings := s.warnings ++ [ambiguity reference key others],
      reported := normalize reference :: s.reported }
  silent : (¬ ∃ dropped, s.IsAmbiguous reference dropped) → after = s

/-- What is found is the key that the tail means which decides. -/
theorem resolveKey_fst_eq_ok_iff (s : Store) (reference key : String) :
    (s.resolveKey reference).1 = .ok key ↔
      ∃ dropped, s.Decides (normalSegments reference) dropped ∧
        s.Means (tailAfter (normalSegments reference) dropped) key := by
  constructor
  · intro h
    obtain ⟨others, found⟩ := resolveKey_fst_eq_ok h
    obtain ⟨dropped, decides, matched⟩ := findSome?_matchTail.mp found
    exact ⟨dropped, decides, means_of_matchTail matched⟩
  · rintro ⟨dropped, decides, means⟩
    obtain ⟨other, mem, matched⟩ := decides.matched
    obtain ⟨chosen, others, matched⟩ := exists_matchTail mem matched
    obtain rfl := (means_of_matchTail matched).unique means
    unfold resolveKey
    rw [findSome?_matchTail.mpr ⟨dropped, decides, matched⟩]

/-- Only a reference that means nothing is not found. -/
theorem resolveKey_fst_eq_error_iff (s : Store) (reference : String) (failure : Failure) :
    (s.resolveKey reference).1 = .error failure ↔ failure = .notFound reference ∧
      (tails (normalSegments reference)).findSome? s.matchTail = none := by
  refine ⟨resolveKey_fst_of_error, fun ⟨failed, missing⟩ => ?_⟩
  unfold resolveKey
  rw [missing, failed]

/-- One tail decides. -/
theorem Decides.unique {dropped dropped' : Nat} (h : s.Decides segments dropped)
    (h' : s.Decides segments dropped') : dropped = dropped' := by
  obtain ⟨key, mem, matched⟩ := h.matched
  obtain ⟨key', mem', matched'⟩ := h'.matched
  rcases Nat.lt_trichotomy dropped dropped' with lt | same | gt
  · exact absurd matched (h'.first dropped lt key mem)
  · exact same
  · exact absurd matched' (h.first dropped' gt key' mem')

/-- What a look-up finds, with the keys that it leaves out, and what it leaves behind. -/
theorem resolveKey_of_decides {dropped : Nat}
    (decides : s.Decides (normalSegments reference) dropped)
    (matched : s.matchTail (tailAfter (normalSegments reference) dropped) = some (key, others)) :
    s.resolveKey reference = (.ok key, s.reportAmbiguity reference key others) := by
  unfold resolveKey
  rw [findSome?_matchTail.mpr ⟨dropped, decides, matched⟩]

/-- A reference is ambiguous if the tail that decides leaves keys out. -/
theorem isAmbiguous_iff {dropped : Nat} (decides : s.Decides (normalSegments reference) dropped)
    (matched : s.matchTail (tailAfter (normalSegments reference) dropped) = some (key, others)) :
    s.IsAmbiguous reference dropped ↔ others ≠ [] ∧ normalize reference ∉ s.reported := by
  rcases matchTail_eq_some_iff.mp matched with ⟨whole, -, rfl⟩ | ⟨ending, listed⟩
  · exact ⟨fun h => absurd whole h.ending, fun h => absurd rfl h.1⟩
  · have inList : ∀ k, k ∈ key :: others ↔ k ∈ s.keys ∧
        endsIn k (tailAfter (normalSegments reference) dropped) = true := by
      intro k
      rw [← listed]
      exact List.mem_filter
    constructor
    · rintro ⟨-, -, ⟨k, mem, k', mem', differs, ends, ends'⟩, fresh⟩
      refine ⟨?_, fresh⟩
      rintro rfl
      have first := List.mem_singleton.mp ((inList k).mpr ⟨mem, ends⟩)
      have second := List.mem_singleton.mp ((inList k').mpr ⟨mem', ends'⟩)
      exact differs (first.trans second.symm)
    · rintro ⟨several, fresh⟩
      cases others with
      | nil => exact absurd rfl several
      | cons other more =>
        have ascending : (key :: other :: more).Pairwise (· < ·) :=
          listed ▸ (pairwise_keys s).filter _
        have lt := (List.pairwise_cons.mp ascending).1 other List.mem_cons_self
        obtain ⟨mem, ends⟩ := (inList key).mp List.mem_cons_self
        obtain ⟨mem', ends'⟩ := (inList other).mp (List.mem_cons_of_mem key List.mem_cons_self)
        exact ⟨decides, ending, ⟨key, mem, other, mem', String.ne_of_lt lt, ends, ends'⟩, fresh⟩

/-- What is left behind when keys are left out. -/
theorem reportAmbiguity_eq (s : Store) (reference chosen : String) (others : List String) :
    s.reportAmbiguity reference chosen others =
      if others ≠ [] ∧ normalize reference ∉ s.reported then
        { s with
          warnings := s.warnings ++ [ambiguity reference chosen others],
          reported := normalize reference :: s.reported }
      else s := by
  unfold reportAmbiguity
  by_cases several : others = []
  · simp [several]
  · by_cases known : normalize reference ∈ s.reported
    · simp [known]
    · simp [several, known, warn]

/-- A look-up that finds nothing leaves nothing behind. -/
theorem resolveKey_of_none
    (missing : (tails (normalSegments reference)).findSome? s.matchTail = none) :
    s.resolveKey reference = (.error (.notFound reference), s) := by
  unfold resolveKey
  rw [missing]

/-- **What a look-up comes to.**  The names are those that the normal form has between its slashes,
and there are none just if it is empty. -/
theorem resolveKey_resolves (s : Store) (reference : String) :
    (normalize reference = "" ↔ normalSegments reference = []) ∧
    (normalSegments reference ≠ [] → (normalize reference).toList.splitOn '/' =
      (normalSegments reference).map String.toList) ∧
    s.Resolves reference (s.resolveKey reference).1 (s.resolveKey reference).2 := by
  refine ⟨normalize_eq_empty_iff, splitOn_normalize, ?_⟩
  have found := resolveKey_fst_eq_ok_iff s reference
  have missing := fun failure => (resolveKey_fst_eq_error_iff s reference failure).trans
    (and_congr_right fun _ => findSome?_matchTail_eq_none_iff)
  cases looked : (tails (normalSegments reference)).findSome? s.matchTail with
  | none =>
    have undecided : ∀ dropped, ¬ s.Decides (normalSegments reference) dropped := by
      intro dropped decides
      rcases findSome?_matchTail_eq_none_iff.mp looked with none | unmatched
      · exact decides.named none
      · obtain ⟨key, mem, matched⟩ := decides.matched
        exact unmatched dropped decides.kept key mem matched
    rw [resolveKey_of_none looked] at found missing ⊢
    exact ⟨found, missing, rfl, rfl, fun dropped h => absurd h.decides (undecided dropped),
      fun _ => rfl⟩
  | some out =>
    obtain ⟨key, others⟩ := out
    obtain ⟨dropped, decides, matched⟩ := findSome?_matchTail.mp looked
    rw [resolveKey_of_decides decides matched, reportAmbiguity_eq] at found missing ⊢
    have ambiguous := isAmbiguous_iff decides matched
    by_cases several : others ≠ [] ∧ normalize reference ∉ s.reported
    · rw [if_pos several] at found missing ⊢
      refine ⟨found, missing, rfl, rfl, fun dropped' h => ?_, fun none => ?_⟩
      · obtain rfl := h.decides.unique decides
        rcases matchTail_eq_some_iff.mp matched with ⟨-, -, empty⟩ | ⟨-, listed⟩
        · exact absurd empty several.1
        · exact ⟨key, others, rfl, listed, rfl⟩
      · exact absurd ⟨dropped, ambiguous.mpr several⟩ none
    · rw [if_neg several] at found missing ⊢
      refine ⟨found, missing, rfl, rfl, fun dropped' h => ?_, fun _ => rfl⟩
      obtain rfl := h.decides.unique decides
      exact absurd (ambiguous.mp h) several

end Store

end DispatchTables
