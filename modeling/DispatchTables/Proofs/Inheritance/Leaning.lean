import DispatchTables.Proofs.Inheritance.Citing
import DispatchTables.Proofs.Inheritance.Memory

/-!
# What descriptors lean on

A resolved document keeps, of the keys that name its sources, just those that could not be used up:
their value names no sources, or one of the sources is missing or on the path.  So what is kept
depends on the path.  What is remembered was resolved along another path, and is handed out all the
same; that this makes no difference is because nothing on a cycle is remembered.

A cycle may go through components in place, so it is told by what descriptors cite: one leans on
another if it cites a reference to it, itself or through a component in place.  While a descriptor
is resolved, every way on from it that leads back onto the path leaves a cut, at the place where it
comes back or above; and a descriptor is remembered only without such a cut.

## Main Definitions

* `Barred`: a reference that cannot be used along a path; `Stays`: an inheritance key that is kept.
* `LeansOn`, `Invokes`: what a descriptor builds on, components in place included.
* `Keeping.Leads`, `Keeping.Room`: what is true of the path to a descriptor.
* `Keeping.Tells`: what is true of an outcome.
* `Keeping.Sound`, `Keeping.Keeps`: what is true of a context, and what becomes of it.

## Main Statements

* `Keeping.Tells.along`: what is told of a descriptor on no cycle is told of it along every path.
-/

namespace DispatchTables

open Relation (TransGen ReflTransGen)

/-- A reference cannot be used along a path: what it names is missing, or is on the path already. -/
def Barred (files : FileTree) (s : Store) (path : List String) (reference : String) : Prop :=
  (∃ failure, s.readReference files reference = .error failure) ∨
    ∃ e, s.readReference files reference = .ok e ∧ e.key ∈ path

/-- **An inheritance key stays in a document**: its value names no sources, or one of those that it
names cannot be used. -/
def Stays (files : FileTree) (s : Store) (path : List String) (doc : Members) (key : String) :
    Prop :=
  ∃ value, doc.get? key = some value ∧
    ∀ references, references? value = some references →
      ∃ reference ∈ references, Barred files s path reference

/-- A descriptor leans on another: its document cites a reference to it. -/
def LeansOn (files : FileTree) (s : Store) (depth : Nat) (d e : Descriptor) : Prop :=
  ∃ reference, Cites depth d.doc reference ∧ s.readReference files reference = .ok e

/-- A descriptor invokes a reference: it cites it, or something does that it leans on. -/
def Invokes (files : FileTree) (s : Store) (depth : Nat) (d : Descriptor) (reference : String) :
    Prop :=
  ∃ e, ReflTransGen (LeansOn files s depth) d e ∧ Cites depth e.doc reference

variable {files : FileTree} {s : Store} {depth n budget : Nat} {path : List String}
  {d e x : Descriptor} {key reference : String} {c c' c'' : Context} {r : Resolved}
  {doc : Members}

theorem LeansOn.holds (h : LeansOn files s depth d e) : s.Holds files e := by
  obtain ⟨_, -, read⟩ := h
  exact Store.holds_of_readReference read

theorem Invokes.of_cites (h : Cites depth d.doc reference) : Invokes files s depth d reference :=
  ⟨d, .refl, h⟩

/-- A descriptor leans on whatever it invokes. -/
theorem Invokes.transGen (h : Invokes files s depth d reference)
    (read : s.readReference files reference = .ok e) : TransGen (LeansOn files s depth) d e := by
  obtain ⟨between, leads, cites⟩ := h
  exact .tail' leads ⟨reference, cites, read⟩

theorem Invokes.head (leans : TransGen (LeansOn files s depth) d e)
    (h : Invokes files s depth e reference) : Invokes files s depth d reference := by
  obtain ⟨between, leads, cites⟩ := h
  exact ⟨between, leans.to_reflTransGen.trans leads, cites⟩

namespace Keeping

/-! ### Ways back onto the path -/

/-- One descriptor leans on another; what stands between them is not on the path. -/
inductive Past (files : FileTree) (s : Store) (depth : Nat) (path : List String) :
    Descriptor → Descriptor → Prop where
  | source : ∀ {d x}, LeansOn files s depth d x → Past files s depth path d x
  | beyond : ∀ {d e x}, LeansOn files s depth d e → e.key ∉ path →
      Past files s depth path e x → Past files s depth path d x

theorem Past.transGen (h : Past files s depth path d x) :
    TransGen (LeansOn files s depth) d x := by
  induction h with
  | source edge => exact .single edge
  | beyond edge _ _ ih => exact .head edge ih

/-- A descriptor that leans on one on the path comes to the path somewhere first. -/
theorem exists_past (h : TransGen (LeansOn files s depth) d x) (onPath : x.key ∈ path) :
    ∃ z, s.Holds files z ∧ z.key ∈ path ∧ Past files s depth path d z := by
  induction h using TransGen.head_induction_on with
  | single edge => exact ⟨x, edge.holds, onPath, .source edge⟩
  | @head a b edge _ ih =>
    by_cases met : b.key ∈ path
    · exact ⟨b, edge.holds, met, .source edge⟩
    · obtain ⟨z, held, mem, past⟩ := ih
      exact ⟨z, held, mem, .beyond edge met past⟩

/-- When a descriptor joins the path, a way past the old path leads past the new one, from where it
began or from that descriptor. -/
theorem Past.append (held : s.Holds files d) (h : Past files s depth path e x) :
    Past files s depth (path ++ [d.key]) e x ∨ Past files s depth (path ++ [d.key]) d x := by
  induction h with
  | source edge => exact .inl (.source edge)
  | @beyond a b y edge offPath _ ih =>
    rcases ih with onward | anew
    · by_cases same : b.key = d.key
      · obtain rfl := edge.holds.unique held same
        exact .inr onward
      · exact .inl (.beyond edge (by simp [offPath, same]) onward)
    · exact .inr anew

/-- A key without a file is nowhere in the way. -/
theorem Past.append_fileless (fileless : key ∉ s.keys) (h : Past files s depth path e x) :
    Past files s depth (path ++ [key]) e x := by
  induction h with
  | source edge => exact .source edge
  | @beyond a b y edge offPath _ ih =>
    have other : b.key ≠ key := fun same => fileless (same ▸ edge.holds.mem_keys)
    exact .beyond edge (by simp [offPath, other]) ih

/-! ### Paths -/

/-- A reference is invoked by every descriptor on a path. -/
def Invoked (files : FileTree) (s : Store) (depth : Nat) (path : List String)
    (reference : String) : Prop :=
  ∀ x, s.Holds files x → x.key ∈ path → Invokes files s depth x reference

theorem Invoked.of_append (h : Invoked files s depth (path ++ [key]) reference) :
    Invoked files s depth path reference :=
  fun x held mem => h x held (List.mem_append_left _ mem)

/-- A key without a file invokes nothing. -/
theorem Invoked.append_fileless (fileless : key ∉ s.keys)
    (h : Invoked files s depth path reference) :
    Invoked files s depth (path ++ [key]) reference := by
  intro x held mem
  rcases List.mem_append.mp mem with upper | own
  · exact h x held upper
  · exact absurd (List.mem_singleton.mp own ▸ held.mem_keys) fileless

/-- **What is true of the path to a descriptor**: whatever is on it leans on the descriptor, which
is not on it. -/
structure Leads (files : FileTree) (s : Store) (depth : Nat) (path : List String)
    (d : Descriptor) : Prop where
  held : s.Holds files d
  offPath : d.key ∉ path
  above : ∀ x, s.Holds files x → x.key ∈ path → TransGen (LeansOn files s depth) x d

theorem Leads.nil (held : s.Holds files d) : Leads files s depth [] d :=
  ⟨held, List.not_mem_nil, fun _ _ mem => absurd mem List.not_mem_nil⟩

/-- What a reference names that the whole path invokes is led to, unless it is on the path. -/
theorem Leads.of_invoked (invoked : Invoked files s depth path reference)
    (read : s.readReference files reference = .ok e) (offPath : e.key ∉ path) :
    Leads files s depth path e :=
  ⟨Store.holds_of_readReference read, offPath, fun x held mem =>
    (invoked x held mem).transGen read⟩

/-- What a descriptor invokes is invoked by everything on the path to it. -/
theorem Leads.invoked (h : Leads files s depth path d)
    (invokes : Invokes files s depth d reference) :
    Invoked files s depth (path ++ [d.key]) reference := by
  intro x held mem
  rcases List.mem_append.mp mem with upper | own
  · exact invokes.head (h.above x held upper)
  · rwa [held.unique h.held (List.mem_singleton.mp own)]

/-- A descriptor on no cycle leans on nothing on the path to it. -/
theorem Leads.offPath_of_acyclic (h : Leads files s depth path d)
    (acyclic : ¬ TransGen (LeansOn files s depth) d d)
    (onward : TransGen (LeansOn files s depth) d x) (held : s.Holds files x) : x.key ∉ path :=
  fun onPath => acyclic (onward.trans (h.above x held onPath))

/-- The keys of files on a path. -/
def filed (s : Store) (path : List String) : List String :=
  path.filter fun key => s.keys.contains key

/-- **There is room** for so many more files on a path: those on it are different, and with so many
more they would be all. -/
structure Room (s : Store) (path : List String) (budget : Nat) : Prop where
  distinct : (filed s path).Nodup
  enough : s.size ≤ (filed s path).length + budget

theorem filed_append_file (mem : key ∈ s.keys) :
    filed s (path ++ [key]) = filed s path ++ [key] := by
  simp [filed, List.filter_append, mem]

theorem filed_append_fileless (fileless : key ∉ s.keys) :
    filed s (path ++ [key]) = filed s path := by
  simp [filed, List.filter_append, fileless]

theorem nodup_filed_append (room : Room s path budget) (offPath : key ∉ path) :
    (filed s path ++ [key]).Nodup := by
  rw [List.nodup_append]
  refine ⟨room.distinct, List.pairwise_singleton _ _, ?_⟩
  rintro other inPath last isKey rfl
  rw [List.mem_singleton.mp isKey] at inPath
  exact offPath (List.mem_filter.mp inPath).1

/-- A file that is not on the path needs room. -/
theorem Room.pos (room : Room s path budget) (mem : key ∈ s.keys) (offPath : key ∉ path) :
    0 < budget := by
  have within : filed s path ++ [key] ⊆ s.keys := by
    intro other found
    rcases List.mem_append.mp found with upper | own
    · simpa [filed] using (List.mem_filter.mp upper).2
    · exact List.mem_singleton.mp own ▸ mem
  have bounded := (List.subperm_of_subset (nodup_filed_append room offPath) within).length_le
  rw [List.length_append, List.length_singleton] at bounded
  have counted : s.keys.length = s.size := List.length_map ..
  have enough := room.enough
  omega

theorem Room.file (room : Room s path (budget + 1)) (mem : key ∈ s.keys) (offPath : key ∉ path) :
    Room s (path ++ [key]) budget where
  distinct := filed_append_file mem ▸ nodup_filed_append room offPath
  enough := by
    have enough := room.enough
    rw [filed_append_file mem, List.length_append, List.length_singleton]
    omega

theorem Room.fileless (room : Room s path budget) (fileless : key ∉ s.keys) :
    Room s (path ++ [key]) budget where
  distinct := by rw [filed_append_fileless fileless]; exact room.distinct
  enough := by rw [filed_append_fileless fileless]; exact room.enough

/-! ### Outcomes -/

/-- A document fits a path: each key is there once, and it cites nothing but what the path
invokes. -/
structure Fits (files : FileTree) (s : Store) (depth n : Nat) (path : List String)
    (doc : Members) : Prop where
  keyed : (Json.object doc).wellKeyed = true
  cites : ∀ reference, Cites n doc reference → Invoked files s depth path reference

/-- **What is true of an outcome** along a path, the key of the descriptor included: the document is
who it is, the keys that stay are in it as they are written and the others are gone, and it fits the
path. -/
structure Tells (files : FileTree) (s : Store) (depth n : Nat) (path : List String)
    (d : Descriptor) (r : Resolved) : Prop where
  identity : ∀ key ∈ identityKeys, r.doc.get? key = d.doc.get? key
  stays : ∀ key ∈ inheritanceKeys, Stays files s path d.doc key →
    r.doc.get? key = d.doc.get? key
  used : ∀ key ∈ inheritanceKeys, ¬ Stays files s path d.doc key → r.doc.get? key = none
  fits : Fits files s depth n path r.doc

/-- Of the path it matters only which of the document's own sources are on it. -/
theorem stays_congr {other : List String}
    (same : ∀ reference ∈ allReferences doc, ∀ e, s.readReference files reference = .ok e →
      (e.key ∈ path ↔ e.key ∈ other)) (named : key ∈ inheritanceKeys) :
    Stays files s path doc key ↔ Stays files s other doc key := by
  unfold Stays Barred
  refine exists_congr fun value => and_congr_right fun written =>
    forall₂_congr fun references lists => exists_congr fun reference =>
      and_congr_right fun mem => or_congr_right ?_
  have own : reference ∈ allReferences doc :=
    mem_allReferences.mpr ⟨key, named, value, references, written, lists, mem⟩
  exact exists_congr fun e => and_congr_right fun read => same reference own e read

/-- What is told of a descriptor on no cycle is told of it along every path that leads to it. -/
theorem Tells.along (h : Tells files s depth depth [d.key] d r)
    (acyclic : ¬ TransGen (LeansOn files s depth) d d) (leads : Leads files s depth path d) :
    Tells files s depth depth (path ++ [d.key]) d r := by
  have same : ∀ reference ∈ allReferences d.doc, ∀ e, s.readReference files reference = .ok e →
      (e.key ∈ path ++ [d.key] ↔ e.key ∈ [d.key]) := by
    intro reference mem e read
    have edge : LeansOn files s depth d e := ⟨reference, .own mem, read⟩
    have offPath := leads.offPath_of_acyclic acyclic (.single edge) edge.holds
    simp [offPath]
  exact {
    identity := h.identity
    stays := fun key named stays => h.stays key named ((stays_congr same named).mp stays)
    used := fun key named gone =>
      h.used key named fun stays => gone ((stays_congr same named).mpr stays)
    fits := ⟨h.fits.keyed, fun reference cites =>
      leads.invoked (h.fits.cites reference cites d leads.held (List.mem_singleton.mpr rfl))⟩ }

/-- What is told along a path that a descriptor does not lean on is told of it anywhere. -/
theorem Tells.alone (h : Tells files s depth depth (path ++ [d.key]) d r)
    (offPath : ∀ x, TransGen (LeansOn files s depth) d x → x.key ∉ path) :
    Tells files s depth depth [d.key] d r := by
  have same : ∀ reference ∈ allReferences d.doc, ∀ e, s.readReference files reference = .ok e →
      (e.key ∈ path ++ [d.key] ↔ e.key ∈ [d.key]) := by
    intro reference mem e read
    simp [offPath e (.single ⟨reference, .own mem, read⟩)]
  exact {
    identity := h.identity
    stays := fun key named stays => h.stays key named ((stays_congr same named).mpr stays)
    used := fun key named gone =>
      h.used key named fun stays => gone ((stays_congr same named).mp stays)
    fits := ⟨h.fits.keyed, fun reference cites x held mem =>
      h.fits.cites reference cites x held (List.mem_append_right _ mem)⟩ }

/-! ### Contexts -/

/-- **What is true of a context** while something is resolved along a path.  What is remembered of a
descriptor of the store is on no cycle and tells what is true of it; cycles have been cut at files
on the path only. -/
structure Sound (files : FileTree) (s : Store) (depth : Nat) (path : List String) (c : Context) :
    Prop where
  faithful : s.Faithful files
  grown : Store.Grows files s c.store
  memo : ∀ d r, s.Holds files d → c.resolver.memo.get? d.key = some r →
    ¬ TransGen (LeansOn files s depth) d d ∧ Tells files s depth depth [d.key] d r
  cut : ∀ place, c.resolver.cut = some place → ∃ key ∈ s.keys, path[place]? = some key

/-- What becomes of a context: it stays sound, and no cut on the path is forgotten. -/
structure Keeps (files : FileTree) (s : Store) (depth : Nat) (path : List String)
    (c c' : Context) : Prop where
  sound : Sound files s depth path c'
  cuts : ∀ place < path.length, CutWithin c place → CutWithin c' place

theorem Keeps.trans (h₁ : Keeps files s depth path c c') (h₂ : Keeps files s depth path c' c'') :
    Keeps files s depth path c c'' :=
  ⟨h₂.sound, fun place lt cut => h₂.cuts place lt (h₁.cuts place lt cut)⟩

/-- What only loads and warns keeps everything. -/
theorem Sound.keeps (h : Sound files s depth path c) (grown : Store.Grows files c.store c'.store)
    (memo : c'.resolver.memo = c.resolver.memo) (cut : c'.resolver.cut = c.resolver.cut) :
    Keeps files s depth path c c' where
  sound :=
    { faithful := h.faithful
      grown := h.grown.trans grown
      memo := fun d r held found => h.memo d r held (memo ▸ found)
      cut := fun place found => h.cut place (cut ▸ found) }
  cuts := by
    rintro place - ⟨shallowest, found, le⟩
    exact ⟨shallowest, cut.trans found, le⟩

theorem Sound.refl (h : Sound files s depth path c) : Keeps files s depth path c c :=
  h.keeps (Store.Grows.refl files _) rfl rfl

theorem Sound.warn (h : Sound files s depth path c) (w : Diagnostic) :
    Keeps files s depth path c (c.warnResolver w) :=
  h.keeps (Store.Grows.refl files _) rfl rfl

theorem Sound.absorb (h : Sound files s depth path c) : Keeps files s depth path c c.absorb :=
  h.keeps (Store.takeWarnings_grows files _) rfl rfl

/-- A reference loaded for the resolver means what its file says, and the context loses nothing. -/
theorem loadForResolver_keeps (h : Sound files s depth path c) (reference : String) :
    (c.loadForResolver files reference).1 = s.readReference files reference ∧
      Keeps files s depth path c (c.loadForResolver files reference).2 := by
  obtain ⟨read, grown, same⟩ := loadForResolver_reads h.faithful h.grown reference
  exact ⟨read, h.keeps grown same.memo same.cut⟩

/-- A cycle is cut back to a file on the path. -/
theorem noteCut_keeps (h : Sound files s depth path c) {place : Nat} (filed : key ∈ s.keys)
    (at_ : path[place]? = some key) : Keeps files s depth path c (c.noteCut place) where
  sound :=
    { faithful := h.faithful
      grown := h.grown
      memo := h.memo
      cut := by
        intro other found
        unfold Context.noteCut at found
        cases was : c.resolver.cut with
        | none =>
          simp only [was, Option.some.injEq] at found
          exact ⟨key, filed, found ▸ at_⟩
        | some shallowest =>
          simp only [was, Option.some.injEq] at found
          rcases Nat.le_total shallowest place with le | le
          · rw [Nat.min_eq_left le] at found
            exact h.cut other (found ▸ was)
          · rw [Nat.min_eq_right le] at found
            exact ⟨key, filed, found ▸ at_⟩ }
  cuts := by
    rintro other - ⟨shallowest, found, le⟩
    exact ⟨min shallowest place, by simp only [Context.noteCut, found], by omega⟩

/-- Going down the path a context stays sound. -/
theorem Sound.append (h : Sound files s depth path c) (key : String) :
    Sound files s depth (path ++ [key]) c :=
  { h with
    cut := by
      intro place found
      obtain ⟨other, mem, at_⟩ := h.cut place found
      exact ⟨other, mem, by rwa [List.getElem?_append_left (List.getElem?_eq_some_iff.mp at_).1]⟩ }

/-- Coming back from a key without a file too: no cycle has been cut there. -/
theorem Sound.of_append (fileless : key ∉ s.keys) (h : Sound files s depth (path ++ [key]) c) :
    Sound files s depth path c :=
  { h with
    cut := by
      intro place found
      obtain ⟨other, mem, at_⟩ := h.cut place found
      rcases Nat.lt_or_ge place path.length with lt | ge
      · rw [List.getElem?_append_left lt] at at_
        exact ⟨other, mem, at_⟩
      · rw [List.getElem?_append_right ge] at at_
        have own := List.mem_of_getElem? at_
        exact absurd (List.mem_singleton.mp own ▸ mem) fileless }

end Keeping

end DispatchTables
