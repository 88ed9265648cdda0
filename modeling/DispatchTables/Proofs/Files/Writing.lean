import DispatchTables.Proofs.Files.Places

/-!
# Writing files

A path leads to the same place whatever is added to a tree, since a look-up asks only what is there.
So a file that has been written is found again by the path it was written by, also after others have
been written, and it holds what was written last to its place.  Two paths may lead to one place.

## Main Definitions

* `FileTree.Within`: a tree has all the places of another.
* `FileTree.puts`: files put at places, one after the other.

## Main Statements

* `FileTree.Within.locate`: a path leads to the same place in a tree that has more.
* `FileTree.write_eq_ok`: what is written is found by its path.
* `FileTree.content?_put`: only the place that is written to changes.
* `FileTree.files_makeDirectories`: making directories changes no file.
-/

namespace DispatchTables.FileTree

variable {t t' t'' : FileTree} {path name : String} {here place other : Location}
  {content : ByteArray}

/-! ### More places -/

/-- **All places of a tree are in another**, which is seen from the same working directory. -/
structure Within (t t' : FileTree) : Prop where
  workingDirectory : t'.workingDirectory = t.workingDirectory
  directories : ∀ place, t.hasDirectory place = true → t'.hasDirectory place = true
  files : ∀ place, t.hasFile place = true → t'.hasFile place = true

theorem Within.refl (t : FileTree) : t.Within t := ⟨rfl, fun _ => id, fun _ => id⟩

theorem Within.trans (h : t.Within t') (h' : t'.Within t'') : t.Within t'' where
  workingDirectory := h'.workingDirectory.trans h.workingDirectory
  directories place there := h'.directories place (h.directories place there)
  files place there := h'.files place (h.files place there)

/-- **One name further on** is the same place. -/
theorem Within.enter (h : t.Within t') (leads : t.enter here name = .ok place) :
    t'.enter here name = .ok place := by
  unfold FileTree.enter at leads ⊢
  split at leads
  · cases leads
  · rename_i stands
    have there : t.hasDirectory here = true := by simpa using stands
    rw [h.directories here there, if_neg (by decide)]
    split at leads
    · rename_i stays
      rw [if_pos stays, leads]
    · rename_i moves
      rw [if_neg moves]
      split at leads
      · rename_i back
        rw [if_pos back, leads]
      · rename_i onward
        rw [if_neg onward]
        split at leads
        · cases leads
        · rename_i short
          rw [if_neg short]
          split at leads
          · rename_i found
            have still :
                (t'.hasDirectory (here ++ [name]) || t'.hasFile (here ++ [name])) = true := by
              rw [Bool.or_eq_true] at found ⊢
              exact found.imp (h.directories _) (h.files _)
            rw [if_pos still, leads]
          · cases leads

theorem Within.foldlM_enter (h : t.Within t') {names : List String}
    (leads : names.foldlM t.enter here = .ok place) :
    names.foldlM t'.enter here = .ok place := by
  induction names generalizing here with
  | nil => exact leads
  | cons name rest ih =>
    rw [List.foldlM_cons] at leads ⊢
    cases first : t.enter here name with
    | error fault =>
      rw [first] at leads
      cases leads
    | ok next =>
      rw [first] at leads
      rw [h.enter first]
      exact ih leads

theorem Within.start (h : t.Within t') (path : String) : t'.start path = t.start path := by
  unfold FileTree.start
  rw [h.workingDirectory]

/-- **A path leads to the same place** in a tree that has more. -/
theorem Within.locate (h : t.Within t') (leads : t.locate path = .ok place) :
    t'.locate path = .ok place := by
  have found := resolve_of_locate leads
  obtain ⟨noNul, named, walked⟩ := resolve_eq_ok_iff.mp found
  have found' : t'.resolve path = .ok place :=
    resolve_eq_ok_iff.mpr ⟨noNul, named, by rw [h.start]; exact h.foldlM_enter walked⟩
  rw [locate_of_resolve found'] at ⊢
  rwa [locate_of_resolve found] at leads

/-! ### Putting files -/

/-- What is left out at one place is not missed at another. -/
theorem lookup_filter_ne (differs : other ≠ place) (files : List (Location × ByteArray)) :
    (files.filter fun f => f.1 != place).lookup other = files.lookup other := by
  induction files with
  | nil => rfl
  | cons f rest ih =>
    rw [List.filter_cons, List.lookup_cons]
    by_cases old : f.1 = place
    · have unasked : (other == f.1) = false :=
        beq_eq_false_iff_ne.mpr fun same => differs (same.trans old)
      rw [if_neg (by simp [old]), unasked, ih]
    · rw [if_pos (by simp [old]), List.lookup_cons, ih]

/-- **Only the place that a file is put at changes.** -/
theorem content?_put :
    (t.put place content).content? other = if other = place then some content
      else t.content? other := by
  unfold content? put
  rw [List.lookup_cons]
  by_cases same : other = place
  · rw [if_pos same, same, beq_self_eq_true]
  · rw [if_neg same, beq_eq_false_iff_ne.mpr same]
    exact lookup_filter_ne same t.files

theorem within_put (t : FileTree) (place : Location) (content : ByteArray) :
    t.Within (t.put place content) where
  workingDirectory := rfl
  directories _ there := there
  files _ there := hasFile_put.mpr (.inr there)

/-- Files put at places, one after the other. -/
def puts (t : FileTree) (writes : List (Location × ByteArray)) : FileTree :=
  writes.foldl (fun t w => t.put w.1 w.2) t

theorem puts_cons (t : FileTree) (w : Location × ByteArray) (writes : List (Location × ByteArray)) :
    t.puts (w :: writes) = (t.put w.1 w.2).puts writes := rfl

theorem within_puts (t : FileTree) (writes : List (Location × ByteArray)) :
    t.Within (t.puts writes) := by
  induction writes generalizing t with
  | nil => exact .refl t
  | cons w rest ih => exact (within_put t w.1 w.2).trans (ih _)

/-! ### Writing -/

/-- A path that no slash ends is looked up to its last name. -/
theorem parts_of_locateParent (found : t.locateParent path = .ok (here, some name, false)) :
    checkPath path = .ok () ∧ ∃ before, Path.parts path = before ++ [name] ∧
      before.foldlM t.enter (t.start path) = .ok here := by
  unfold locateParent at found
  dsimp only [bind, Except.bind] at found
  split at found
  · cases found
  · rename_i taken
    refine ⟨taken, ?_⟩
    split at found
    · cases found
    · rename_i last before reversed
      split at found
      · cases found
      · rename_i walked
        split at found
        · simp only [Except.ok.injEq, Prod.mk.injEq, Option.some.injEq] at found
          obtain ⟨rfl, rfl, unslashed⟩ := found
          refine ⟨before.reverse, ?_, walked⟩
          -- the last part is the last name, since it is not empty
          rw [← List.head?_reverse] at unslashed
          cases parts : (Path.parts path).reverse with
          | nil =>
            rw [parts] at reversed
            cases reversed
          | cons part front =>
            rw [parts, List.head?_cons] at unslashed
            have named : ¬ (part == "") = true := by simpa using unslashed
            rw [parts, List.dropWhile_cons, if_neg named] at reversed
            rw [← List.reverse_reverse (Path.parts path), parts, reversed, List.reverse_cons]
        · cases found

/-- A path that is not refused is looked up by its parts. -/
theorem locate_of_checkPath (taken : checkPath path = .ok ()) :
    t.locate path = (Path.parts path).foldlM t.enter (t.start path) := by
  have text : checkText path = .ok () := by
    unfold checkPath at taken
    cases checked : checkText path with
    | error fault =>
      rw [checked] at taken
      cases taken
    | ok _ => rfl
  unfold locate resolve
  rw [taken, text]
  rfl

/-- **What is written is found by its path**: the file is put where the path leads afterwards. -/
theorem write_eq_ok (written : t.write path content = .ok t') :
    ∃ place, t' = t.put place content ∧ t'.locate path = .ok place := by
  unfold FileTree.write at written
  dsimp only [bind, Except.bind] at written
  split at written
  · cases written
  · rename_i found
    split at written
    · rename_i here name
      obtain ⟨there, entry⟩ := locateParent_spec found
      obtain ⟨taken, before, parts, walked⟩ := parts_of_locateParent found
      split at written
      · cases written
      · rename_i plain
        split at written
        · cases written
        · rename_i short
          split at written
          · cases written
          · cases written
            refine ⟨here ++ [name], rfl, ?_⟩
            have within := within_put t (here ++ [name]) content
            have found' : (t.put (here ++ [name]) content).enter here name =
                .ok (here ++ [name]) := by
              have named := entry plain short
              have stands := within.directories here there
              have new : (t.put (here ++ [name]) content).hasFile (here ++ [name]) = true :=
                hasFile_put.mpr (.inl rfl)
              unfold FileTree.enter
              rw [stands, if_neg (by decide), if_neg (by simp [named.nonempty, named.ne_dot]),
                if_neg named.ne_dots, if_neg (Nat.not_lt.mpr named.short), new, Bool.or_true,
                if_pos rfl]
            rw [locate_of_checkPath taken, parts, List.foldlM_append, within.start]
            rw [within.foldlM_enter walked]
            exact (bind_pure _).trans found'
    · cases written

/-! ### Making directories -/

theorem files_makeDirectory (made : t.makeDirectory path = .ok t') : t'.files = t.files := by
  unfold FileTree.makeDirectory at made
  dsimp only [bind, Except.bind] at made
  split at made
  · cases made
  · split at made
    · split at made
      · cases made
      · split at made
        · cases made
        · split at made
          · cases made
          · cases made
            rfl
    · cases made

theorem files_ensureDirectory (made : t.ensureDirectory path = .ok t') : t'.files = t.files := by
  unfold FileTree.ensureDirectory at made
  split at made
  · rename_i new
    cases made
    exact files_makeDirectory new
  · split at made
    · cases made
      rfl
    · cases made

/-- **Making directories changes no file.** -/
theorem files_makeNested {paths : List String} {t t' : FileTree}
    (made : t.makeNested paths = .ok t') : t'.files = t.files := by
  induction paths generalizing t' with
  | nil =>
    cases made
    rfl
  | cons path shorter ih =>
    unfold FileTree.makeNested at made
    split at made
    · rename_i first
      cases made
      exact files_ensureDirectory first
    · dsimp only [bind, Except.bind] at made
      split at made
      · cases made
      · rename_i below
        exact (files_ensureDirectory made).trans (ih below)
    · cases made

end DispatchTables.FileTree
