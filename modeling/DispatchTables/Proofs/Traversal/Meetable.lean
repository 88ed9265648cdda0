import DispatchTables.Proofs.Inheritance.Calls
import DispatchTables.Proofs.Inheritance.Placed
import DispatchTables.Proofs.Inheritance.Recall
import DispatchTables.Proofs.Json.Counting

/-!
# What a walk may meet

On a walk two kinds of documents are resolved: those of files, and components in place.  Where
nothing in place names sources and no key that is made up is that of a file, neither depends on what
has been resolved before: a file is resolved as it is alone, and a component in place is what stands
in some file, be it this one or the first that was resolved under the same key.

## Main Definitions

* `Store.Orderly`: nothing in place names sources, and made-up keys are apart from those of files.
* `Store.Places`: a document stands in place in a file.
* `ResolvedInPlace`, `Meetable`: what is resolved of a component in place, and what a walk may meet.
* `Abides`: what is true of a context on a walk.
* `Store.names`: the names of all that a walk may meet.

## Main Statements

* `Abides.resolve_file`, `Abides.resolve_inPlace`: what resolving comes to.
* `length_names_le_nameBound`: there are no more names than a walk is given steps.
-/

namespace DispatchTables

open Keeping (KeysApart MadeUp Rooted)

variable {files : FileTree} {s : Store} {c c' : Context} {d : Descriptor} {r : Resolved}
  {doc x : Members} {parent label key name place : String}

/-- **A store just opened in which nothing in place names sources**, and no file has a key that is
made up. -/
structure Store.Orderly (files : FileTree) (s : Store) : Prop where
  opened : ∃ root, Store.ofDirectory files root = .ok s
  quiet : ∀ d, s.Holds files d → quietLists d.doc = true
  apart : KeysApart s

/-- A document stands in place in some file. -/
def Store.Places (files : FileTree) (s : Store) (doc : Members) : Prop :=
  ∃ d, s.Holds files d ∧ doc ∈ componentsIn d.doc

/-- **What is resolved of a component in place**: what stands in some file, under a key that is made
up of that of a node and its own name. -/
structure ResolvedInPlace (files : FileTree) (s : Store) (r : Resolved) : Prop where
  stands : s.Places files r.doc
  kind : r.kind = Kind.detect r.key r.doc
  made : ∃ parent label, Rooted s parent ∧ declaredName r.doc = some label ∧
    r.key = parent ++ "#" ++ label

/-- **What a walk may meet**: a file as it is resolved alone, or a component in place. -/
inductive Meetable (files : FileTree) (s : Store) : Resolved → Prop where
  | file {d : Descriptor} : s.Holds files d → Meetable files s (resolveAlone files s d)
  | inPlace {r : Resolved} : ResolvedInPlace files s r → Meetable files s r

/-- **What is true of a context on a walk**: beyond files, only components in place are
remembered. -/
structure Abides (files : FileTree) (s : Store) (c : Context) : Prop extends
    Sound files s 0 c where
  inPlace : ∀ {key r}, key ∉ s.keys → c.resolver.memo.get? key = some r →
    r.key = key ∧ ResolvedInPlace files s r

namespace Store

variable (orderly : Orderly files s)

include orderly

theorem Orderly.faithful : s.Faithful files := by
  obtain ⟨root, opened⟩ := orderly.opened
  exact ofDirectory_faithful opened

theorem Orderly.plain : ∀ d, s.Holds files d → plainLists d.doc = true :=
  fun d held => plainLists_of_quietLists (orderly.quiet d held)

/-- Nothing in place names sources, neither itself nor in its own lists. -/
theorem Orderly.quiet_of_places (stands : s.Places files doc) :
    inherits doc = false ∧ quietLists doc = true := by
  obtain ⟨d, held, mem⟩ := stands
  have quiet := quiet_of_mem_componentsIn (orderly.quiet d held) mem
  refine ⟨?_, quietLists_of_quiet quiet⟩
  rw [Json.quiet, Bool.and_eq_true] at quiet
  simpa using quiet.1

end Store

theorem Store.Places.distinct (stands : s.Places files doc) : doc.keys.Nodup := by
  obtain ⟨d, held, mem⟩ := stands
  exact Json.keys_nodup_of_wellKeyed (wellKeyed_of_mem_componentsIn held.wellKeyed mem)

/-- What stands in place in something that stands in place stands in place. -/
theorem Store.Places.inner (stands : s.Places files doc) (mem : x ∈ componentsIn doc) :
    s.Places files x := by
  obtain ⟨d, held, outer⟩ := stands
  exact ⟨d, held, componentsIn_trans outer mem⟩

/-! ### Contexts -/

/-- What only loads and reports leaves a context as it was. -/
theorem Abides.keeps (h : Abides files s c) (grown : Store.Grows files c.store c'.store)
    (memo : c'.resolver.memo = c.resolver.memo) (cut : c'.resolver.cut = c.resolver.cut) :
    Abides files s c' where
  toSound := (h.toSound.keeps grown memo cut).sound
  inPlace fileless found := h.inPlace fileless (memo ▸ found)

theorem Abides.absorb (h : Abides files s c) : Abides files s c.absorb :=
  h.keeps (Store.takeWarnings_grows files _) rfl rfl

theorem Abides.report (h : Abides files s c) (w : Diagnostic) : Abides files s (c.report w) :=
  h.keeps (Store.Grows.refl files _) rfl rfl

/-- In the context of a store just opened nothing is remembered. -/
theorem abides_ofStore (orderly : s.Orderly files) : Abides files s (.ofStore s) where
  faithful := orderly.faithful
  grown := Store.takeWarnings_grows files s
  memo _ found := nomatch found
  cut found := nomatch found
  inPlace _ found := nomatch found

/-- Between calls no cut is open. -/
theorem Abides.uncut (h : Abides files s c) : c.resolver.cut = none := by
  cases cut : c.resolver.cut with
  | none => rfl
  | some place => exact absurd (h.cut cut) (Nat.not_lt_zero place)

theorem Abides.lacks (h : Abides files s c) (fileless : key ∉ s.keys) :
    c.store.Lacks files key := by
  have missing : s.index.get? key = none := by
    rw [← Option.not_isSome_iff_eq_none]
    exact fun has => fileless (KeyMap.mem_keys_iff.mpr has)
  exact (h.faithful.lacks missing).mono h.grown

/-- **A file is resolved as it is alone**, whatever has been met before. -/
theorem Abides.resolve_file (orderly : s.Orderly files) (h : Abides files s c)
    (held : s.Holds files d) :
    (c.resolve files d).1 = resolveAlone files s d ∧ Abides files s (c.resolve files d).2 := by
  obtain ⟨yields, sound⟩ := resolve_sound orderly.plain held h.toSound
  refine ⟨yields, { sound with inPlace := ?_ }⟩
  intro key r fileless found
  -- under a key without a file there is what was there before
  have differs : d.key ≠ key := fun same => fileless (same ▸ held.mem_keys)
  have recalls := resolve_elsewhere ⟨h.lacks fileless, rfl⟩ differs
  rw [recalls.memo] at found
  exact h.inPlace fileless found

/-- A document without sources, and nothing in place that has some, is resolved as it stands. -/
theorem resolveAnew_of_quiet (c : Context) (own : inherits d.doc = false)
    (quiet : quietLists d.doc = true) (distinct : d.doc.keys.Nodup) :
    c.resolveAnew files d = (⟨d.key, d.path, d.kind, d.doc, []⟩, c) := by
  have nothing : ∀ key ∈ inheritanceKeys, d.doc.get? key = none := by
    intro key mem
    have absent := List.any_eq_false.mp own key mem
    simpa [Members.has] using absent
  have alone : merge [] d.doc = d.doc := merge_of_disjoint distinct
  have applied : applyKeys files (resolveAt files c.nestingBound c.store.size) ([] ++ [d.key]) d.key
      inheritanceKeys d.doc { context := c } = (d.doc, { context := c }) :=
    applyKeys_of_none nothing
  rw [Context.resolveAnew,
    resolveDocument_eq_of_quiet c.nestingBound applied (by rw [alone]; exact quiet), alone]
  rfl

/-- **A component in place is resolved to what stands in some file** under the key that is made up
for it. -/
theorem Abides.resolve_inPlace (orderly : s.Orderly files) (h : Abides files s c)
    (stands : s.Places files doc) (rooted : Rooted s parent)
    (named : declaredName doc = some label) (path : String) :
    let d := Descriptor.ofDocument (parent ++ "#" ++ label) path doc
    ResolvedInPlace files s (c.resolve files d).1 ∧ Abides files s (c.resolve files d).2 := by
  intro d
  have fileless : d.key ∉ s.keys := (rooted.madeUp label).fileless orderly.apart
  cases known : c.resolver.memo.get? d.key with
  | some r =>
    rw [resolve_again files known]
    exact ⟨(h.inPlace fileless known).2, h.absorb⟩
  | none =>
    obtain ⟨own, quiet⟩ := orderly.quiet_of_places stands
    have anew : c.resolveAnew files d = (⟨d.key, d.path, d.kind, doc, []⟩, c) :=
      resolveAnew_of_quiet c own quiet stands.distinct
    have first : ResolvedInPlace files s ⟨d.key, d.path, d.kind, doc, []⟩ :=
      ⟨stands, rfl, parent, label, rooted, named, rfl⟩
    rw [resolve_of_none known, anew]
    refine ⟨first, ?_⟩
    -- no cut is open, so it is remembered
    simp only [Context.remember, h.uncut]
    have memo {key : String} {r : Resolved}
        (found :
          (c.resolver.memo.insert d.key ⟨d.key, d.path, d.kind, doc, []⟩).get? key = some r) :
        d.key = key ∧ r = ⟨d.key, d.path, d.kind, doc, []⟩ ∨
          c.resolver.memo.get? key = some r := by
      rw [KeyMap.get?_insert] at found
      split at found
      · rename_i same
        exact .inl ⟨same, (Option.some.inj found).symm⟩
      · exact .inr found
    refine Abides.absorb ⟨⟨h.faithful, h.grown, ?_, nofun⟩, ?_⟩
    · intro key r filed found
      rcases memo found with ⟨rfl, -⟩ | old
      · exact absurd filed fileless
      · exact h.memo filed old
    · intro key r missing found
      rcases memo found with ⟨rfl, rfl⟩ | old
      · exact ⟨rfl, first⟩
      · exact h.inPlace missing old

/-! ### Meetable documents -/

theorem Meetable.rooted (h : Meetable files s r) : Rooted s r.key := by
  cases h with
  | file held => exact .inl (resolveAlong_key ▸ held.mem_keys)
  | inPlace resolved =>
    obtain ⟨parent, label, rooted, -, key⟩ := resolved.made
    exact .inr (key ▸ rooted.madeUp label)

/-- What stands in place in a document that is met stands in place in a file. -/
theorem Meetable.places (h : Meetable files s r) : ∀ x ∈ componentsIn r.doc, s.Places files x := by
  cases h with
  | file held =>
    rw [forall_componentsIn_iff]
    refine listsAll_resolveAlong (by decide) ?_ ?_
    · exact fun e there => forall_componentsIn_iff.mp fun x mem => ⟨e, there, mem⟩
    · exact forall_componentsIn_iff.mp fun x mem => ⟨_, held, mem⟩
  | inPlace resolved => exact fun x mem => resolved.stands.inner mem

/-- A file is called what its own document says. -/
theorem name_resolveAlone (orderly : s.Orderly files) (held : s.Holds files d) :
    (resolveAlone files s d).name = declaredName d.doc := by
  obtain ⟨root, opened⟩ := orderly.opened
  have made : Made files s (.ask (Context.ofStore s).nestingBound
      ((Context.ofStore s).store.size + 1) [] d (.ofStore s)) := .top (.opened opened) (.held held)
  have identity := (Keeping.tells_of_made orderly.apart made held).identity
  have same : (resolveAt files (Context.ofStore s).nestingBound
      ((Context.ofStore s).store.size + 1) [] d (.ofStore s)).1 = resolveAlone files s d :=
    ((abides_ofStore orderly).resolve_file orderly held).1
  rw [same] at identity
  rw [Resolved.name, declaredName, declaredName, identity "name" (by decide),
    identity "component_name" (by decide)]

/-! ### Names -/

/-- The names of a document and of the components in place in it. -/
def namesWithin (doc : Members) : List String := (doc :: componentsIn doc).filterMap declaredName

/-- **The names of all that a walk may meet.** -/
def Store.names (files : FileTree) (s : Store) : List String :=
  s.index.entries.flatMap fun e =>
    match readDescriptor files e.1 e.2 with
    | .ok d => namesWithin d.doc
    | .error _ => []

theorem KeyMap.mem_entries_of_get? {α : Type} {m : KeyMap α} {value : α}
    (found : m.get? key = some value) : (key, value) ∈ m.entries := by
  have among {entries : List (String × α)} (found : findEntry key entries = some value) :
      (key, value) ∈ entries := by
    induction entries with
    | nil => cases found
    | cons e rest ih =>
      obtain ⟨other, first⟩ := e
      unfold findEntry at found
      split at found
      · rename_i same
        rw [same, Option.some.inj found]
        exact List.mem_cons_self
      · exact List.mem_cons_of_mem _ (ih found)
  exact among found

theorem Store.mem_names (held : s.Holds files d) (named : name ∈ namesWithin d.doc) :
    name ∈ s.names files := by
  obtain ⟨path, indexed, read⟩ := held
  refine List.mem_flatMap.mpr ⟨(d.key, path), KeyMap.mem_entries_of_get? indexed, ?_⟩
  dsimp only
  rw [read]
  exact named

/-- **What a walk meets has one of these names**, if it has any. -/
theorem Meetable.mem_names (orderly : s.Orderly files) (h : Meetable files s r)
    (named : r.name = some name) : name ∈ s.names files := by
  cases h with
  | file held =>
    rw [name_resolveAlone orderly held] at named
    exact s.mem_names held (List.mem_filterMap.mpr ⟨_, List.mem_cons_self, named⟩)
  | inPlace resolved =>
    obtain ⟨d, held, mem⟩ := resolved.stands
    exact s.mem_names held (List.mem_filterMap.mpr ⟨_, List.mem_cons_of_mem _ mem, named⟩)

theorem length_namesWithin_le (doc : Members) :
    (namesWithin doc).length ≤ (Json.object doc).objectCount :=
  Nat.le_trans (List.length_filterMap_le _ _) (length_componentsIn_lt doc)

/-- The files have at least as many bytes as there are names in them. -/
theorem length_names_le (files : FileTree) (s : Store) :
    (s.names files).length ≤ s.index.values.foldl (fun n path => n + byteCountOf files path) 0 := by
  have among (entries : List (String × String)) (n : Nat) :
      (entries.flatMap fun e => match readDescriptor files e.1 e.2 with
        | .ok d => namesWithin d.doc
        | .error _ => []).length + n ≤
      (entries.map (·.2)).foldl (fun n path => n + byteCountOf files path) n := by
    induction entries generalizing n with
    | nil => simp
    | cons e rest ih =>
      have later := ih (n + byteCountOf files e.2)
      have first : (match readDescriptor files e.1 e.2 with
          | .ok d => namesWithin d.doc
          | .error _ => []).length ≤ byteCountOf files e.2 := by
        split
        · rename_i d read
          exact Nat.le_trans (length_namesWithin_le d.doc) (objectCount_le_byteCountOf read)
        · exact Nat.zero_le _
      rw [List.flatMap_cons, List.length_append, List.map_cons, List.foldl_cons]
      omega
  exact among s.index.entries 0

/-- **There are no more names than a walk is given steps.** -/
theorem length_names_le_nameBound (index : c.store.index = s.index) (root : Resolved) :
    (s.names files).length ≤ nameBound files c root := by
  have bytes := length_names_le files s
  unfold nameBound
  rw [index]
  refine Nat.le_trans bytes ?_
  show s.index.values.foldl (fun n path => n + byteCountOf files path) 0 ≤ _
  exact Nat.le_trans (Nat.le_add_left _ _)
    (Nat.le_trans (Nat.le_add_right _ _) (Nat.le_add_right _ _))

end DispatchTables
