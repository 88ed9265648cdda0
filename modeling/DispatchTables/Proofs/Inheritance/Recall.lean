import DispatchTables.Proofs.Inheritance.Frame
import DispatchTables.Proofs.Inheritance.Merging

/-!
# What is remembered under a key without a file

A component in place is resolved under a key that is made up for it.  If no file has that key,
nothing is remembered under it but what was resolved there first; whatever comes later under the
same key is answered from memory, whatever it says itself.

## Main Definitions

* `Store.Lacks`: no reference leads to a key.
* `Recalls`: what is remembered under such a key.
* `Resolved.Says`: a resolved document says what was written, but for lists of components.

## Main Statements

* `resolve_elsewhere`: resolving under other keys leaves it alone.
* `resolve_first`: what is resolved first is remembered; `resolve_again`: and is what is found
  later.
* `resolve_says`: a document that builds on nothing is resolved as it is written.
-/

namespace DispatchTables

variable {files : FileTree} {s t : Store} {key : String} {c c' : Context} {d : Descriptor}
  {r : Resolved} {known : Option Resolved}

/-- **No reference leads to a key.** -/
def Store.Lacks (files : FileTree) (s : Store) (key : String) : Prop :=
  ∀ reference d, (s.load files reference).1 = .ok d → d.key ≠ key

theorem Store.Lacks.mono (h : s.Lacks files key) (grown : Store.Grows files s t) :
    t.Lacks files key := by
  intro reference d found
  rw [grown.load_fst_eq] at found
  exact h reference d found

/-- A store just opened has just the keys of its index. -/
theorem Store.Faithful.lacks (h : Store.Faithful files s) (missing : s.index.get? key = none) :
    s.Lacks files key := by
  intro reference d found same
  rw [h.load_eq] at found
  obtain ⟨path, indexed, -⟩ := Store.holds_of_readReference found
  rw [same, missing] at indexed
  cases indexed

/-- What is remembered under a key that no reference leads to. -/
structure Recalls (files : FileTree) (key : String) (known : Option Resolved) (c : Context) :
    Prop where
  lacks : c.store.Lacks files key
  memo : c.resolver.memo.get? key = known

theorem Recalls.loadForResolver (h : Recalls files key known c) (reference : String) :
    Recalls files key known (c.loadForResolver files reference).2 := by
  have grown := Store.load_grows files c.store reference
  unfold Context.loadForResolver
  generalize c.store.load files reference = out at grown
  exact ⟨h.lacks.mono (grown.trans (Store.takeWarnings_grows files _)), h.memo⟩

theorem Recalls.absorb (h : Recalls files key known c) : Recalls files key known c.absorb :=
  ⟨h.lacks.mono (Store.takeWarnings_grows files _), h.memo⟩

theorem Recalls.insert (h : Recalls files key known c) (differs : r.key ≠ key) :
    Recalls files key known
      { c with resolver := { c.resolver with memo := c.resolver.memo.insert r.key r } } := by
  refine ⟨h.lacks, ?_⟩
  show (c.resolver.memo.insert r.key r).get? key = known
  rw [KeyMap.get?_insert, if_neg differs]
  exact h.memo

theorem Recalls.found (h : Recalls files key known c) (reference : String) (d : Descriptor)
    (found : (c.loadForResolver files reference).1 = .ok d) : d.key ≠ key := by
  have same : (c.loadForResolver files reference).1 = (c.store.load files reference).1 := by
    unfold Context.loadForResolver
    generalize c.store.load files reference = out
    rfl
  rw [same] at found
  exact h.lacks reference d found

/-- Nothing is put under a key that no reference leads to while something else is resolved. -/
theorem recalls_keeps (files : FileTree) (key : String) (known : Option Resolved) :
    ResolverKeeps files (fun _ => True) (fun d => d.key ≠ key) (Recalls files key known) where
  down := fun _ _ => trivial
  load := fun reference h => h.loadForResolver reference
  found := fun reference d h => h.found reference d
  warn := fun _ _ h => ⟨h.lacks, h.memo⟩
  cut := fun _ _ _ h => ⟨h.lacks, h.memo⟩
  uncut := fun h => ⟨h.lacks, h.memo⟩
  memo := fun _ differs same h => h.insert (same ▸ differs)

theorem resolve_elsewhere (h : Recalls files key known c) (differs : d.key ≠ key) :
    Recalls files key known (c.resolve files d).2 := by
  have resolved := resolveAt_keeps (recalls_keeps files key known) c.nestingBound
    (c.store.size + 1) [] d c trivial differs h
  unfold Context.resolve
  generalize resolveAt files c.nestingBound (c.store.size + 1) [] d c = out at resolved
  exact resolved.absorb

/-! ### Cuts -/

/-- No cycle is left cut back to the beginning of a path. -/
def Uncut (c : Context) : Prop := c.resolver.cut ≠ some 0

theorem Uncut.noteCut (h : Uncut c) {place : Nat} (deeper : place ≠ 0) :
    Uncut (c.noteCut place) := by
  unfold Uncut Context.noteCut at *
  cases open_ : c.resolver.cut with
  | none => simpa using deeper
  | some shallowest =>
    rw [open_] at h
    have nonzero : shallowest ≠ 0 := fun zero => h (congrArg some zero)
    intro zero
    have zero : min shallowest place = 0 := Option.some.inj zero
    omega

/-- A place on the path is the first only for the key that the path begins with. -/
theorem idxOf?_ne_zero {path : List String} {other : String} {place : Nat}
    (begins : path.head? = some key) (differs : other ≠ key)
    (at_ : path.idxOf? other = some place) : place ≠ 0 := by
  cases path with
  | nil => cases begins
  | cons first rest =>
    obtain rfl := Option.some.inj begins
    rw [List.idxOf?_cons, if_neg (by simpa using Ne.symm differs)] at at_
    obtain ⟨before, -, rfl⟩ := Option.map_eq_some_iff.mp at_
    exact Nat.succ_ne_zero before

/-- Along a path that begins with a key that no reference leads to, no cycle is cut back to the
beginning. -/
theorem uncut_keeps (files : FileTree) (key : String) (known : Option Resolved) :
    ResolverKeeps files (fun path => path.head? = some key) (fun d => d.key ≠ key)
      (fun c => Recalls files key known c ∧ Uncut c) where
  down := by
    intro path other begins
    rw [List.head?_append, begins]
    rfl
  load := by
    intro c reference h
    refine ⟨h.1.loadForResolver reference, ?_⟩
    unfold Context.loadForResolver
    generalize c.store.load files reference = out
    exact h.2
  found := fun reference d h => h.1.found reference d
  warn := fun _ _ h => ⟨⟨h.1.lacks, h.1.memo⟩, h.2⟩
  cut := fun begins differs at_ h =>
    ⟨⟨h.1.lacks, h.1.memo⟩, h.2.noteCut (idxOf?_ne_zero begins differs at_)⟩
  uncut := fun h => ⟨⟨h.1.lacks, h.1.memo⟩, nofun⟩
  memo := fun _ differs same h => ⟨h.1.insert (same ▸ differs), h.2⟩

/-! ### The first and the later ones -/

/-- A descriptor with nothing under its key, over what it builds on. -/
def Context.resolveAnew (files : FileTree) (c : Context) (d : Descriptor) : Resolved × Context :=
  resolveDocument files (resolveAt files c.nestingBound c.store.size) c.nestingBound [] d c

theorem resolve_of_none (unknown : c.resolver.memo.get? d.key = none) :
    c.resolve files d = ((c.resolveAnew files d).1,
      ((c.resolveAnew files d).2.remember 0 (c.resolveAnew files d).1).absorb) := by
  unfold Context.resolve resolveAt
  rw [unknown]
  rfl

/-- **What is resolved later is what is remembered.** -/
theorem resolve_again (files : FileTree) (known : c.resolver.memo.get? d.key = some r) :
    c.resolve files d = (r, c.absorb) := by
  unfold Context.resolve resolveAt
  rw [known]

/-- A cut back to the beginning is left when what is there has been resolved. -/
theorem uncut_remember (c : Context) (r : Resolved) : Uncut (c.remember 0 r) := by
  unfold Uncut Context.remember
  cases open_ : c.resolver.cut with
  | none => simp [open_]
  | some cut =>
    dsimp only
    rw [if_neg (Nat.not_lt_zero cut)]
    split
    · exact nofun
    · rename_i deeper
      simpa [open_] using deeper

theorem resolve_uncut (h : Uncut c) (d : Descriptor) : Uncut (c.resolve files d).2 := by
  cases known : c.resolver.memo.get? d.key with
  | some r =>
    rw [resolve_again files known]
    exact h
  | none =>
    rw [resolve_of_none known]
    exact uncut_remember _ _

/-- With no cut to the beginning, what has been resolved is remembered. -/
theorem Uncut.remember (h : Uncut c) (r : Resolved) : c.remember 0 r =
    { c with resolver := { c.resolver with memo := c.resolver.memo.insert r.key r } } := by
  unfold Uncut at h
  unfold Context.remember
  cases open_ : c.resolver.cut with
  | none => rfl
  | some cut =>
    have deeper : cut ≠ 0 := fun zero => h (open_.trans (congrArg some zero))
    dsimp only
    rw [if_neg (Nat.not_lt_zero cut), if_neg deeper]

/-- **What is resolved first under a key is remembered there.** -/
theorem resolve_first (h : Recalls files d.key none c) (uncut : Uncut c) :
    Recalls files d.key (some (c.resolve files d).1) (c.resolve files d).2 := by
  have keeps := uncut_keeps files d.key none
  obtain ⟨recalls, uncut⟩ : Recalls files d.key none (c.resolveAnew files d).2 ∧
      Uncut (c.resolveAnew files d).2 :=
    resolveDocument_keeps keeps (resolveAt_keeps keeps _ _) _ d rfl ⟨h, uncut⟩
  have same : (c.resolveAnew files d).1.key = d.key := resolveDocument_key _ [] d
  rw [resolve_of_none h.memo]
  dsimp only
  rw [uncut.remember]
  refine Recalls.absorb ⟨recalls.lacks, ?_⟩
  show ((c.resolveAnew files d).2.resolver.memo.insert _ _).get? d.key = _
  rw [KeyMap.get?_insert, if_pos same]

/-! ### Documents that build on nothing -/

/-- **A resolved document says what was written**: it has the same members, and but for lists of
components they hold the same. -/
structure Resolved.Says (r : Resolved) (doc : Members) : Prop where
  keys : r.doc.keys = doc.keys
  get? : ∀ key, key ∉ componentListKeys → r.doc.get? key = doc.get? key

theorem applyKeys_of_none {resolve : ParentResolver} {path : List String} {child : String}
    {keys : List String} {own : Members} {layers : Layers}
    (nothing : ∀ key ∈ keys, own.get? key = none) :
    applyKeys files resolve path child keys own layers = (own, layers) := by
  induction keys with
  | nil => rfl
  | cons key rest ih =>
    rw [applyKeys, nothing key List.mem_cons_self]
    exact ih fun other mem => nothing other (List.mem_cons_of_mem _ mem)

/-- **A document that builds on nothing says what was written** when it is resolved, unless its key
is known. -/
theorem resolve_says (unknown : c.resolver.memo.get? d.key = none) (own : inherits d.doc = false)
    (distinct : d.doc.keys.Nodup) : (c.resolve files d).1.Says d.doc := by
  have nothing : ∀ key ∈ inheritanceKeys, d.doc.get? key = none := by
    intro key mem
    have absent := List.any_eq_false.mp own key mem
    simpa [Members.has] using absent
  have alone : merge [] d.doc = d.doc := merge_of_disjoint distinct
  obtain ⟨own, layers, doc, laid, inPlace, resolved⟩ := resolveDocument_inPlace files
    (resolveAt files c.nestingBound c.store.size) c.nestingBound [] d c
  rw [applyKeys_of_none nothing] at laid
  cases laid
  rw [alone] at inPlace
  rw [resolve_of_none unknown]
  dsimp only
  rw [Context.resolveAnew, resolved]
  exact ⟨inPlace.keys, fun key other => inPlace.get?_eq other⟩

end DispatchTables
