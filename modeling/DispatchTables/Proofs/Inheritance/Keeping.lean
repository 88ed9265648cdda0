import DispatchTables.Proofs.Inheritance.Leaning

/-!
# What a document keeps of its own

Resolving a descriptor keeps who it is and the keys that stay, and it owes more than that: what
comes out cites nothing but what the path invokes, and every way from the descriptor back onto the
path has left a cut.  Each function of the resolver owes its part, from one reference to the whole
document and the components in place in it.

Keys are made up for components in place, and such a key might be that of a file.  Here it is not
(`Keeping.KeysApart`), so a key on the path that is that of a file stands for the file.

## Main Definitions

* `Keeping.Passes`: what coming past references owes.
* `Keeping.Resolves`, `Keeping.Documents`: what resolving a descriptor and its document owes.

## Main Statements

* `Keeping.applyKeys_applies`: each inheritance key is used up or stays.
* `Keeping.resolveDocument_enters`: a document is resolved as it should be, if its sources are.
* `Keeping.resolveAt_resolves`: so the resolver resolves whatever it is asked for.
-/

namespace DispatchTables

open Relation (TransGen)

namespace Keeping

variable {files : FileTree} {s : Store} {depth n budget : Nat} {path : List String}
  {d e x : Descriptor} {key reference : String} {c c' c'' : Context} {r : Resolved}
  {doc inner own merged : Members}

/-! ### Sources -/

/-- A reference means a descriptor, or one that leans on it past everything on the path. -/
def NamesPast (files : FileTree) (s : Store) (depth : Nat) (path : List String)
    (reference : String) (x : Descriptor) : Prop :=
  ∃ e, s.readReference files reference = .ok e ∧
    (e = x ∨ e.key ∉ path ∧ Past files s depth path e x)

/-- **What coming past references owes** to the context: it keeps, and every way back onto the path
over one of them has left a cut there or above. -/
structure Passes (files : FileTree) (s : Store) (depth : Nat) (path : List String)
    (P : String → Prop) (c c' : Context) : Prop extends Keeps files s depth path c c' where
  leaves : ∀ reference, P reference → ∀ place x, s.Holds files x → path[place]? = some x.key →
    NamesPast files s depth path reference x → CutWithin c' place

variable {P Q : String → Prop}

theorem Keeps.passes (h : Keeps files s depth path c c')
    (nothing : ∀ reference, ¬ P reference) :
    Passes files s depth path P c c' :=
  ⟨h, fun reference mem => absurd mem (nothing reference)⟩

theorem Passes.mono (h : Passes files s depth path P c c')
    (within : ∀ reference, Q reference → P reference) : Passes files s depth path Q c c' :=
  ⟨h.toKeeps, fun reference mem => h.leaves reference (within reference mem)⟩

theorem Passes.trans (h₁ : Passes files s depth path P c c')
    (h₂ : Passes files s depth path Q c' c'') :
    Passes files s depth path (fun reference => P reference ∨ Q reference) c c'' where
  toKeeps := h₁.toKeeps.trans h₂.toKeeps
  leaves := by
    rintro reference (early | late) place x held at_ past
    · exact h₂.cuts place (List.getElem?_eq_some_iff.mp at_).1
        (h₁.leaves reference early place x held at_ past)
    · exact h₂.leaves reference late place x held at_ past

/-- What has come past everything on a longer path has on the path without a key that has no file.
-/
theorem Passes.of_append (fileless : key ∉ s.keys)
    (h : Passes files s depth (path ++ [key]) P c c') : Passes files s depth path P c c' where
  sound := h.sound.of_append fileless
  cuts place lt cut := h.cuts place (by rw [List.length_append]; omega) cut
  leaves := by
    rintro reference mem place x held at_ ⟨e, read, past⟩
    have at_' : (path ++ [key])[place]? = some x.key :=
      (List.getElem?_append_left (List.getElem?_eq_some_iff.mp at_).1).trans at_
    have filed := (Store.holds_of_readReference read).mem_keys
    have other : e.key ≠ key := fun same => fileless (same ▸ filed)
    refine h.leaves reference mem place x held at_' ⟨e, read, past.imp_right fun past => ?_⟩
    exact ⟨by simp [past.1, other], past.2.append_fileless fileless⟩

/-- **What resolving a descriptor owes** to the path it is resolved along and to the context. -/
structure Resolves (files : FileTree) (s : Store) (depth : Nat) (path : List String)
    (d : Descriptor) (c : Context) (out : Resolved × Context) : Prop extends
    Keeps files s depth path c out.2 where
  tells : Tells files s depth depth (path ++ [d.key]) d out.1
  leaves : ∀ place x, s.Holds files x → path[place]? = some x.key →
    Past files s depth path d x → CutWithin out.2 place

/-- A resolver does what it owes along every path with so much room. -/
def Serves (files : FileTree) (s : Store) (depth budget : Nat) (resolve : ParentResolver) : Prop :=
  ∀ path e c, Room s path budget → Leads files s depth path e → Sound files s depth path c →
    Resolves files s depth path e c (resolve path e c)

/-- What sources amount to that are laid over one another along a path: it fits the path, and has no
key that is not passed on. -/
structure Laid (files : FileTree) (s : Store) (depth : Nat) (path : List String)
    (merged : Members) : Prop extends Fits files s depth depth path merged where
  foreign : ∀ key ∈ identityKeys ++ inheritanceKeys, merged.get? key = none

theorem laid_nil : Laid files s depth path [] where
  keyed := rfl
  foreign _ _ := rfl
  cites := by
    intro reference cited
    cases cited with
    | own mem =>
      obtain ⟨key, -, value, references, written, -⟩ := mem_allReferences.mp mem
      cases written
    | inPlace inside _ =>
      obtain ⟨key, -, items, written, -⟩ := inside
      cases written

theorem keyed_inheritable (h : (Json.object doc).wellKeyed = true) :
    (Json.object (inheritable doc)).wellKeyed = true :=
  Json.wellKeyed_sublist h List.filter_sublist

/-- One more source is laid over those before it. -/
theorem Laid.merge (h : Laid files s depth path merged)
    (fits : Fits files s depth depth path doc) :
    Laid files s depth path (merge merged (inheritable doc)) where
  keyed := wellKeyed_merge h.keyed (keyed_inheritable fits.keyed)
  foreign := by
    intro key mem
    have withheld : ∀ key ∈ identityKeys ++ inheritanceKeys, passedOn key = false := by decide
    rw [get?_merge_of_none (Json.keys_nodup_of_wellKeyed (keyed_inheritable fits.keyed)),
      h.foreign key mem]
    rw [get?_inheritable, withheld key mem]
    rfl
  cites := by
    intro reference cited
    rcases cited.merge (Json.keys_nodup_of_wellKeyed (keyed_inheritable fits.keyed)) with
      low | high
    · exact h.cites reference low
    · refine fits.cites reference (high.of_get? fun key _ value written => ?_)
      rw [get?_inheritable] at written
      split at written
      · exact written
      · cases written

variable {resolve : ParentResolver} {references : List String}

/-- **What comes of a reference** along a path: nothing if it is barred, and otherwise something
that can be laid over other sources. -/
inductive Yields (files : FileTree) (s : Store) (depth : Nat) (path : List String)
    (reference : String) : Option Resolved → Prop where
  | nothing : Barred files s path reference → Yields files s depth path reference none
  | source {r : Resolved} : ¬ Barred files s path reference →
      Fits files s depth depth path r.doc → Yields files s depth path reference (some r)

theorem resolveParent_passes (serves : Serves files s depth budget resolve)
    (room : Room s path budget) (invoked : Invoked files s depth path reference)
    (sound : Sound files s depth path c) (child : String) :
    Yields files s depth path reference
        (resolveParent files resolve path child reference c).1 ∧
      Passes files s depth path (· = reference) c
        (resolveParent files resolve path child reference c).2 := by
  obtain ⟨read, keeps⟩ := loadForResolver_keeps sound reference
  unfold resolveParent
  generalize c.loadForResolver files reference = loaded at read keeps
  obtain ⟨found, c₁⟩ := loaded
  dsimp only at read keeps
  rw [read]
  cases meant : s.readReference files reference with
  | error failure =>
    -- a reference that means nothing leads nowhere
    refine ⟨.nothing (.inl ⟨failure, meant⟩), keeps.trans (keeps.sound.warn _), ?_⟩
    rintro other rfl place x - - ⟨e, read, -⟩
    rw [meant] at read
    cases read
  | ok parent =>
    have held := Store.holds_of_readReference meant
    dsimp only
    cases placed : path.idxOf? parent.key with
    | some place =>
      obtain ⟨lt, same, least⟩ := List.idxOf?_eq_some_iff.mp placed
      have onPath : parent.key ∈ path := same ▸ List.getElem_mem lt
      have at_ : path[place]? = some parent.key := List.getElem?_eq_some_iff.mpr ⟨lt, same⟩
      have noted := noteCut_keeps keeps.sound held.mem_keys at_
      refine ⟨.nothing (.inr ⟨parent, meant, onPath⟩),
        keeps.trans (noted.trans (noted.sound.warn _)), ?_⟩
      rintro other rfl upper x - there ⟨e, read, past⟩
      rw [meant] at read
      cases read
      -- the parent is on the path, so there is no way past it
      obtain rfl : parent = x := past.resolve_right fun h => h.1 onPath
      obtain ⟨shallowest, cut, le⟩ := cutWithin_noteCut c₁ place
      obtain ⟨_, same'⟩ := List.getElem?_eq_some_iff.mp there
      have first : place ≤ upper := by
        apply Nat.le_of_not_lt
        intro before
        exact least upper before same'
      exact ⟨shallowest, cut, Nat.le_trans le first⟩
    | none =>
      have offPath : parent.key ∉ path := List.idxOf?_eq_none_iff.mp placed
      have resolved := serves path parent c₁ room (.of_invoked invoked meant offPath) keeps.sound
      have fits := resolved.tells.fits
      refine ⟨.source ?_ ⟨fits.keyed, fun other cited => (fits.cites other cited).of_append⟩,
        keeps.trans resolved.toKeeps, ?_⟩
      · rintro (⟨failure, failed⟩ | ⟨e, read, onPath⟩)
        · rw [meant] at failed
          cases failed
        · rw [meant] at read
          cases read
          exact offPath onPath
      · -- a way onto the path leads on from the parent, which owes the cut
        rintro other rfl place x xHeld at_ ⟨e, read, past⟩
        rw [meant] at read
        cases read
        rcases past with rfl | ⟨-, past⟩
        · exact absurd (List.mem_of_getElem? at_) offPath
        · exact resolved.leaves place x xHeld at_ past

/-- Sources are laid over one another; all of them can be had if none is barred. -/
theorem applySources_passes (serves : Serves files s depth budget resolve)
    (room : Room s path budget)
    (invoked : ∀ reference ∈ references, Invoked files s depth path reference) (layers : Layers)
    (laid : Laid files s depth path layers.merged)
    (sound : Sound files s depth path layers.context) (child : String) :
    ((applySources files resolve path child references layers).1 = true ↔
        ∀ reference ∈ references, ¬ Barred files s path reference) ∧
      Laid files s depth path (applySources files resolve path child references layers).2.merged ∧
      Passes files s depth path (· ∈ references) layers.context
        (applySources files resolve path child references layers).2.context := by
  induction references generalizing layers with
  | nil => exact ⟨by simp [applySources], laid, sound.refl.passes (by simp)⟩
  | cons reference rest ih =>
    obtain ⟨here, later⟩ := List.forall_mem_cons.mp invoked
    obtain ⟨yields, passes⟩ := resolveParent_passes serves room here sound child
    unfold applySources
    generalize resolveParent files resolve path child reference layers.context = out
      at yields passes
    obtain ⟨found, c₁⟩ := out
    have all : ∀ {c'}, Passes files s depth path (· ∈ rest) c₁ c' →
        Passes files s depth path (· ∈ reference :: rest) layers.context c' :=
      fun more => (passes.trans more).mono fun other mem => List.mem_cons.mp mem
    cases yields with
    | nothing barred =>
      obtain ⟨-, laid', more⟩ := ih later { layers with context := c₁ } laid passes.sound
      have incomplete : ¬ ∀ other ∈ reference :: rest, ¬ Barred files s path other :=
        fun free => free reference List.mem_cons_self barred
      exact ⟨iff_of_false Bool.false_ne_true incomplete, laid', all more⟩
    | @source r free fits =>
      obtain ⟨complete, laid', more⟩ := ih later {
        merged := DispatchTables.merge layers.merged (inheritable r.doc)
        log := layers.log ++ r.log ++ [r.key]
        context := c₁ } (laid.merge fits) passes.sound
      refine ⟨complete.trans ?_, laid', all more⟩
      rw [List.forall_mem_cons]
      exact (and_iff_right free).symm

/-! ### Keys -/

/-- What applying some of the inheritance keys leaves of a document: those keys are there if they
stay, and all else is as it was. -/
structure Leaves (files : FileTree) (s : Store) (path : List String) (doc : Members)
    (keys : List String) (own own' : Members) : Prop where
  sublist : own'.Sublist own
  stays : ∀ key ∈ keys, Stays files s path doc key → own'.get? key = doc.get? key
  used : ∀ key ∈ keys, ¬ Stays files s path doc key → own'.get? key = none
  other : ∀ key, key ∉ keys → own'.get? key = own.get? key

/-- A key that stays leaves the document as it is. -/
theorem leaves_of_stays (written : own.get? key = doc.get? key)
    (stays : Stays files s path doc key) : Leaves files s path doc [key] own own where
  sublist := List.Sublist.refl _
  stays := List.forall_mem_singleton.mpr fun _ => written
  used := List.forall_mem_singleton.mpr fun gone => absurd stays gone
  other _ _ := rfl

/-- A key that is used up is dropped. -/
theorem leaves_of_used (gone : ¬ Stays files s path doc key) :
    Leaves files s path doc [key] own (own.erase key) where
  sublist := List.filter_sublist
  stays := List.forall_mem_singleton.mpr fun stays => absurd stays gone
  used := List.forall_mem_singleton.mpr fun _ => by rw [Members.get?_erase, if_pos rfl]
  other other unlisted := by
    rw [Members.get?_erase, if_neg fun same => unlisted (List.mem_singleton.mpr same.symm)]

/-- One key is applied, and then others. -/
theorem Leaves.cons {own₁ own₂ : Members} {keys : List String} (fresh : key ∉ keys)
    (first : Leaves files s path doc [key] own own₁)
    (more : Leaves files s path doc keys own₁ own₂) :
    Leaves files s path doc (key :: keys) own own₂ where
  sublist := more.sublist.trans first.sublist
  stays := List.forall_mem_cons.mpr ⟨fun stays =>
    (more.other key fresh).trans (first.stays key List.mem_cons_self stays), more.stays⟩
  used := List.forall_mem_cons.mpr ⟨fun gone =>
    (more.other key fresh).trans (first.used key List.mem_cons_self gone), more.used⟩
  other := by
    intro other unlisted
    have differs : other ∉ [key] := fun mem =>
      unlisted (List.mem_singleton.mp mem ▸ List.mem_cons_self)
    rw [more.other other (List.not_mem_of_not_mem_cons unlisted), first.other other differs]

/-- What applying one key, or several, comes to. -/
structure Applies (files : FileTree) (s : Store) (depth : Nat) (path : List String)
    (doc : Members) (keys : List String) (own : Members) (layers : Layers) (own' : Members)
    (layers' : Layers) : Prop where
  leaves : Leaves files s path doc keys own own'
  laid : Laid files s depth path layers'.merged
  passes : Passes files s depth path
    (fun reference => ∃ key ∈ keys, reference ∈ referencesUnder doc key)
    layers.context layers'.context

/-- **One inheritance key is applied**: it is used up or stays. -/
theorem applyKeys_cons (serves : Serves files s depth budget resolve) (room : Room s path budget)
    (invoked : ∀ reference ∈ allReferences doc, Invoked files s depth path reference)
    (named : key ∈ inheritanceKeys) (written : own.get? key = doc.get? key) (layers : Layers)
    (laid : Laid files s depth path layers.merged)
    (sound : Sound files s depth path layers.context) (child : String) :
    ∃ own₁ layers₁, Applies files s depth path doc [key] own layers own₁ layers₁ ∧
      ∀ rest, applyKeys files resolve path child (key :: rest) own layers =
        applyKeys files resolve path child rest own₁ layers₁ := by
  -- where no sources are named there is nothing to come past
  have quiet : ∀ {c₁}, referencesUnder doc key = [] →
      Keeps files s depth path layers.context c₁ → Passes files s depth path
        (fun reference => ∃ other ∈ [key], reference ∈ referencesUnder doc other)
        layers.context c₁ := by
    intro c₁ nothing keeps
    exact keeps.passes (by simp [nothing])
  cases said : doc.get? key with
  | none =>
    have gone : ¬ Stays files s path doc key := by
      rintro ⟨value, said', -⟩
      rw [said] at said'
      cases said'
    have untouched : Leaves files s path doc [key] own own :=
      ⟨List.Sublist.refl _, List.forall_mem_singleton.mpr fun stays => absurd stays gone,
        List.forall_mem_singleton.mpr fun _ => written.trans said, fun _ _ => rfl⟩
    refine ⟨own, layers, ⟨untouched, laid, quiet ?_ sound.refl⟩, fun rest => ?_⟩
    · exact referencesUnder_of_none (by rw [said]; rfl)
    · rw [applyKeys, written, said]
  | some value =>
    cases lists : references? value with
    | none =>
      have stays : Stays files s path doc key :=
        ⟨value, said, fun references named => by rw [lists] at named; cases named⟩
      have warned := sound.warn (.warn .malformedInheritance child
        ("'" ++ key ++ "' must be a string or a list of strings"))
      refine ⟨own, { layers with context := layers.context.warnResolver _ },
        ⟨leaves_of_stays written stays, laid, quiet ?_ warned⟩, fun rest => ?_⟩
      · exact referencesUnder_of_none (by rw [said, Option.bind_some, lists])
      · rw [applyKeys, written, said]
        simp only [lists]
    | some references =>
      have cited : ∀ reference ∈ references, Invoked files s depth path reference :=
        fun reference mem => invoked reference
          (mem_allReferences.mpr ⟨key, named, value, references, said, lists, mem⟩)
      obtain ⟨complete, laid₁, passes⟩ :=
        applySources_passes serves room cited layers laid sound child
      have under : referencesUnder doc key = references :=
        referencesUnder_of_some (by rw [said, Option.bind_some, lists])
      have passes' := passes.mono (Q := fun reference =>
        ∃ other ∈ [key], reference ∈ referencesUnder doc other) (by simp [under])
      have gone : (applySources files resolve path child references layers).1 = true ↔
          ¬ Stays files s path doc key := by
        rw [complete]
        constructor
        · rintro free ⟨_, said', bars⟩
          rw [said] at said'
          cases said'
          obtain ⟨reference, mem, barred⟩ := bars references lists
          exact free reference mem barred
        · intro gone reference mem barred
          refine gone ⟨value, said, fun others named => ⟨reference, ?_, barred⟩⟩
          rw [lists] at named
          cases named
          exact mem
      refine ⟨if (applySources files resolve path child references layers).1 then own.erase key
        else own, _, ⟨?_, laid₁, passes'⟩, fun rest => ?_⟩
      · split
        · rename_i completed
          exact leaves_of_used (gone.mp completed)
        · rename_i stuck
          exact leaves_of_stays written (not_not.mp fun lost => stuck (gone.mpr lost))
      · rw [applyKeys, written, said]
        simp only [lists]

/-- **Inheritance keys are applied**: each is used up or stays. -/
theorem applyKeys_applies (serves : Serves files s depth budget resolve)
    (room : Room s path budget)
    (invoked : ∀ reference ∈ allReferences doc, Invoked files s depth path reference)
    {keys : List String} (names : ∀ key ∈ keys, key ∈ inheritanceKeys) (distinct : keys.Nodup)
    (untouched : ∀ key ∈ keys, own.get? key = doc.get? key) (layers : Layers)
    (laid : Laid files s depth path layers.merged)
    (sound : Sound files s depth path layers.context) (child : String) :
    Applies files s depth path doc keys own layers
      (applyKeys files resolve path child keys own layers).1
      (applyKeys files resolve path child keys own layers).2 := by
  induction keys generalizing own layers with
  | nil =>
    exact ⟨⟨List.Sublist.refl _, by simp, by simp, fun _ _ => rfl⟩, laid,
      sound.refl.passes (by simp)⟩
  | cons key rest ih =>
    obtain ⟨fresh, later⟩ := List.nodup_cons.mp distinct
    obtain ⟨named, names'⟩ := List.forall_mem_cons.mp names
    obtain ⟨written, untouched'⟩ := List.forall_mem_cons.mp untouched
    obtain ⟨own₁, layers₁, first, step⟩ :=
      applyKeys_cons serves room invoked named written layers laid sound child
    rw [step rest]
    have untouched₁ : ∀ other ∈ rest, own₁.get? other = doc.get? other := by
      intro other mem
      rw [first.leaves.other other (by rintro (_ | ⟨_, ⟨⟩⟩); exact fresh mem)]
      exact untouched' other mem
    have more := ih names' later untouched₁ layers₁ first.laid first.passes.sound
    refine ⟨first.leaves.cons fresh more.leaves, more.laid,
      (first.passes.trans more.passes).mono ?_⟩
    rintro reference ⟨other, listed, mem⟩
    rcases List.mem_cons.mp listed with rfl | listed
    · exact .inl ⟨other, List.mem_cons_self, mem⟩
    · exact .inr ⟨other, listed, mem⟩

/-! ### Components in place -/

/-- An item of a component list fits a path: if it is a component in place that names sources, it
cites nothing but what the path invokes. -/
structure ItemFits (files : FileTree) (s : Store) (depth n : Nat) (path : List String)
    (item : Json) : Prop where
  keyed : item.wellKeyed = true
  cites : ∀ inner, item = .object inner → inherits inner = true → ∀ reference,
    Cites n inner reference → Invoked files s depth path reference

theorem Fits.item (h : Fits files s depth n path inner) :
    ItemFits files s depth n path (.object inner) where
  keyed := h.keyed
  cites := by
    rintro _ ⟨⟩ - reference cited
    exact h.cites reference cited

theorem ItemFits.fits (h : ItemFits files s depth n path (.object inner))
    (names : inherits inner = true) : Fits files s depth n path inner :=
  ⟨h.keyed, h.cites inner rfl names⟩

variable {items : List Json} {one : String → Members → Context → Members × Context}
  {parent : String}

/-- The items of a list of components fit where the document does. -/
theorem Fits.listed (h : Fits files s depth (n + 1) path doc) (listed : key ∈ componentListKeys)
    (written : doc.get? key = some (.array items)) :
    ∀ item ∈ items, ItemFits files s depth n path item := by
  intro item mem
  refine ⟨Json.wellKeyed_array_iff.mp (Json.wellKeyed_of_get? h.keyed written) item mem, ?_⟩
  rintro inner rfl names reference cited
  exact h.cites reference (.inPlace ⟨key, listed, items, written, mem, names⟩ cited)

/-- A document fits with other items in a list of components, if they do. -/
theorem Fits.insert (h : Fits files s depth (n + 1) path doc) (listed : key ∈ componentListKeys)
    (fits : ∀ item ∈ items, ItemFits files s depth n path item) :
    Fits files s depth (n + 1) path (doc.insert key (.array items)) where
  keyed := Json.wellKeyed_insert h.keyed
    (Json.wellKeyed_array_iff.mpr fun item mem => (fits item mem).keyed)
  cites := by
    intro reference cited
    cases cited with
    | own mem =>
      have apart : ∀ key ∈ inheritanceKeys, key ∉ componentListKeys := by decide
      refine h.cites reference
        (.own (allReferences_subset (fun other named value written => ?_) mem))
      rwa [Members.get?_insert, if_neg fun same : key = other => apart other named (same ▸ listed)]
        at written
    | inPlace inside cited =>
      obtain ⟨other, listed', items', written, mem, names⟩ := inside
      rw [Members.get?_insert] at written
      split at written
      · cases written
        exact (fits _ mem).cites _ rfl names reference cited
      · exact h.cites reference (.inPlace ⟨other, listed', items', written, mem, names⟩ cited)

/-- What resolving a component in place owes: the outcome fits, and the references that the
component cites have been come past. -/
structure FitsInPlace (files : FileTree) (s : Store) (depth n : Nat) (path : List String)
    (inner : Members) (c : Context) (out : Members × Context) : Prop where
  fits : Fits files s depth n path out.1
  passes : Passes files s depth path (Cites n inner) c out.2

/-- Components in place in a parent are resolved as they should be. -/
def ServesInPlace (files : FileTree) (s : Store) (depth n : Nat) (path : List String)
    (parent : String) (one : String → Members → Context → Members × Context) : Prop :=
  ∀ label inner c, Fits files s depth n path inner → Sound files s depth path c →
    FitsInPlace files s depth n path inner c (one (parent ++ "#" ++ label) inner c)

/-- What the components in place cite that are among some items. -/
def CitedIn (n : Nat) (items : List Json) (reference : String) : Prop :=
  ∃ inner, .object inner ∈ items ∧ inherits inner = true ∧ Cites n inner reference

theorem resolveItems_fits (serves : ServesInPlace files s depth n path parent one)
    (fits : ∀ item ∈ items, ItemFits files s depth n path item) (index : Nat)
    (sound : Sound files s depth path c) :
    (∀ item ∈ (resolveItems one parent index items c).1, ItemFits files s depth n path item) ∧
      Passes files s depth path (CitedIn n items) c (resolveItems one parent index items c).2 := by
  induction items generalizing index c with
  | nil => exact ⟨fits, sound.refl.passes (by simp [CitedIn])⟩
  | cons item rest ih =>
    obtain ⟨here, later⟩ := List.forall_mem_cons.mp fits
    -- an item that names no sources stays as it is
    have plain : (∀ inner, item = .object inner → ¬ inherits inner = true) →
        (∀ other ∈ item :: (resolveItems one parent (index + 1) rest c).1,
          ItemFits files s depth n path other) ∧
        Passes files s depth path (CitedIn n (item :: rest)) c
          (resolveItems one parent (index + 1) rest c).2 := by
      intro quiet
      obtain ⟨fits', passes⟩ := ih later (index + 1) sound
      refine ⟨List.forall_mem_cons.mpr ⟨here, fits'⟩, passes.mono ?_⟩
      rintro reference ⟨inner, mem, names, cited⟩
      rcases List.mem_cons.mp mem with same | mem
      · exact absurd names (quiet inner same.symm)
      · exact ⟨inner, mem, names, cited⟩
    cases item with
    | object inner =>
      unfold resolveItems
      split
      · rename_i names
        obtain ⟨fits₁, passes₁⟩ := serves _ inner c (here.fits names) sound
        obtain ⟨fits', passes⟩ := ih later (index + 1) passes₁.sound
        refine ⟨List.forall_mem_cons.mpr ⟨fits₁.item, fits'⟩, (passes₁.trans passes).mono ?_⟩
        rintro reference ⟨other, mem, names', cited⟩
        rcases List.mem_cons.mp mem with same | mem
        · cases same
          exact .inl cited
        · exact .inr ⟨other, mem, names', cited⟩
      · rename_i quiet
        exact plain (by rintro _ ⟨⟩; exact quiet)
    | _ =>
      refine plain fun _ same => ?_
      cases same

/-- What the components in place cite that are in the lists of a document under some keys. -/
def CitedUnder (n : Nat) (keys : List String) (doc : Members) (reference : String) : Prop :=
  ∃ key ∈ keys, ∃ items, doc.get? key = some (.array items) ∧ CitedIn n items reference

theorem resolveLists_fits (serves : ServesInPlace files s depth n path parent one)
    {keys : List String} (lists : ∀ key ∈ keys, key ∈ componentListKeys) (distinct : keys.Nodup)
    (fits : Fits files s depth (n + 1) path doc) (sound : Sound files s depth path c) :
    Fits files s depth (n + 1) path (resolveLists one parent keys doc c).1 ∧
      Passes files s depth path (CitedUnder n keys doc) c
        (resolveLists one parent keys doc c).2 := by
  induction keys generalizing doc c with
  | nil => exact ⟨fits, sound.refl.passes (by simp [CitedUnder])⟩
  | cons key rest ih =>
    obtain ⟨listed, lists'⟩ := List.forall_mem_cons.mp lists
    obtain ⟨fresh, distinct'⟩ := List.nodup_cons.mp distinct
    unfold resolveLists
    split
    · rename_i items written
      obtain ⟨fits₁, passes₁⟩ := resolveItems_fits serves (fits.listed listed written) 0 sound
      obtain ⟨fits', passes⟩ := ih lists' distinct' (fits.insert listed fits₁) passes₁.sound
      refine ⟨fits', (passes₁.trans passes).mono ?_⟩
      rintro reference ⟨other, mem, items', written', cited⟩
      rcases List.mem_cons.mp mem with rfl | mem
      · rw [written] at written'
        cases written'
        exact .inl cited
      · refine .inr ⟨other, mem, items', ?_, cited⟩
        rwa [Members.get?_insert, if_neg fun same : key = other => fresh (same ▸ mem)]
    · rename_i other
      obtain ⟨fits', passes⟩ := ih lists' distinct' fits sound
      refine ⟨fits', passes.mono ?_⟩
      rintro reference ⟨key', mem, items', written', cited⟩
      rcases List.mem_cons.mp mem with rfl | mem
      · exact absurd written' (other items')
      · exact ⟨key', mem, items', written', cited⟩

/-! ### One document -/

/-- A key is made up for a component in place, below the key of a file. -/
def MadeUp (s : Store) (key : String) : Prop :=
  ∃ root ∈ s.keys, ∃ label, key = root ++ "#" ++ label

/-- **No file has a key that is made up.** -/
def KeysApart (s : Store) : Prop := ∀ key ∈ s.keys, ¬ MadeUp s key

/-- A key that a file has, or one made up. -/
def Rooted (s : Store) (key : String) : Prop := key ∈ s.keys ∨ MadeUp s key

theorem Rooted.madeUp (h : Rooted s key) (label : String) : MadeUp s (key ++ "#" ++ label) := by
  rcases h with mem | ⟨root, mem, more, rfl⟩
  · exact ⟨key, mem, label, rfl⟩
  · exact ⟨root, mem, more ++ "#" ++ label, by simp only [String.append_assoc]⟩

theorem MadeUp.fileless (h : MadeUp s key) (apart : KeysApart s) : key ∉ s.keys :=
  fun mem => apart key mem h

/-- **What is true of a document** that is to be resolved below a path, be it that of a file or a
component in place. -/
structure Enters (files : FileTree) (s : Store) (depth n : Nat) (path : List String)
    (d : Descriptor) : Prop where
  deep : n ≤ depth
  rooted : Rooted s d.key
  fits : Fits files s depth n (path ++ [d.key]) d.doc

/-- Whatever a path leads to may be entered. -/
theorem Leads.enters (h : Leads files s depth path d) : Enters files s depth depth path d where
  deep := Nat.le_refl depth
  rooted := .inl h.held.mem_keys
  fits := ⟨h.held.wellKeyed, fun _ cited => h.invoked (.of_cites cited)⟩

/-- What is left of a document says what the document says. -/
theorem Leaves.get?_some {keys : List String} {value : Json} (distinct : doc.keys.Nodup)
    (h : Leaves files s path doc keys doc own) (said : own.get? key = some value) :
    doc.get? key = some value :=
  (Members.get?_eq_some_iff distinct).mpr (h.sublist.subset (Members.mem_of_get? said))

section Laying

variable {layers layers' : Layers}

/-- What is left of a document fits over its sources. -/
theorem Applies.fits (enters : Enters files s depth n path d)
    (h : Applies files s depth (path ++ [d.key]) d.doc inheritanceKeys d.doc layers own layers') :
    Fits files s depth n (path ++ [d.key]) (merge layers'.merged own) := by
  have keyedOwn := Json.wellKeyed_sublist enters.fits.keyed h.leaves.sublist
  refine ⟨wellKeyed_merge h.laid.keyed keyedOwn, fun reference cited => ?_⟩
  rcases cited.merge (Json.keys_nodup_of_wellKeyed keyedOwn) with low | high
  · exact h.laid.cites reference (low.mono enters.deep)
  · exact enters.fits.cites reference (high.of_get? fun _ _ _ said =>
      h.leaves.get?_some (Json.keys_nodup_of_wellKeyed enters.fits.keyed) said)

/-- Of who it is and of what it builds on, a document says over its sources what it says itself. -/
theorem Applies.get?_merge (enters : Enters files s depth n path d)
    (h : Applies files s depth (path ++ [d.key]) d.doc inheritanceKeys d.doc layers own layers')
    (withheld : key ∈ identityKeys ++ inheritanceKeys) :
    (merge layers'.merged own).get? key = own.get? key := by
  have keyedOwn := Json.wellKeyed_sublist enters.fits.keyed h.leaves.sublist
  rw [DispatchTables.get?_merge (Json.keys_nodup_of_wellKeyed keyedOwn),
    h.laid.foreign key withheld]
  cases own.get? key with
  | none => rfl
  | some value => rfl

/-- **What is told of a document over its sources**, whatever its components in place become. -/
theorem Applies.tells (enters : Enters files s depth n path d)
    (h : Applies files s depth (path ++ [d.key]) d.doc inheritanceKeys d.doc layers own layers')
    (fits : Fits files s depth n (path ++ [d.key]) doc)
    (inPlace : InPlace (merge layers'.merged own) doc) (log : List String) :
    Tells files s depth n (path ++ [d.key]) d
      ⟨d.key, d.path, d.kind, withLog doc log, log⟩ := by
  have apart : ∀ key ∈ identityKeys ++ inheritanceKeys, key ∉ componentListKeys ∧ logKey ≠ key := by
    decide
  have final : ∀ key ∈ identityKeys ++ inheritanceKeys,
      (withLog doc log).get? key = own.get? key := by
    intro key withheld
    obtain ⟨unlisted, other⟩ := apart key withheld
    rw [get?_withLog_of_ne other, inPlace.get?_eq unlisted, h.get?_merge enters withheld]
  refine ⟨?_, ?_, ?_, ?_, ?_⟩
  · intro key mem
    have unnamed : ∀ key ∈ identityKeys, key ∉ inheritanceKeys := by decide
    rw [final key (List.mem_append_left _ mem), h.leaves.other key (unnamed key mem)]
  · intro key named stays
    rw [final key (List.mem_append_right _ named), h.leaves.stays key named stays]
  · intro key named gone
    rw [final key (List.mem_append_right _ named), h.leaves.used key named gone]
  · show (Json.object (withLog doc log)).wellKeyed = true
    unfold withLog
    split
    · exact fits.keyed
    · exact Json.wellKeyed_insert fits.keyed
        (Json.wellKeyed_array_iff.mpr (by simp [Json.wellKeyed]))
  · intro reference cited
    refine fits.cites reference (cited.of_get? fun key relevant value written => ?_)
    have other : ∀ key ∈ inheritanceKeys ++ componentListKeys, logKey ≠ key := by decide
    rwa [get?_withLog_of_ne (other key relevant)] at written

/-- What the document has in place, the document over its sources has in place, or something that
cites all of it. -/
theorem Applies.citedUnder (enters : Enters files s depth n path d)
    (h : Applies files s depth (path ++ [d.key]) d.doc inheritanceKeys d.doc layers own layers')
    (inside : InPlaceOf d.doc inner) {m : Nat} (cited : Cites m inner reference) :
    CitedUnder m componentListKeys (merge layers'.merged own) reference := by
  have own_ : InPlaceOf own inner := by
    obtain ⟨key, listed, items, written, mem, names⟩ := inside
    have unnamed : ∀ key ∈ componentListKeys, key ∉ inheritanceKeys := by decide
    exact ⟨key, listed, items, (h.leaves.other key (unnamed key listed)).trans written, mem, names⟩
  obtain ⟨inner', ⟨key, listed, items, written, mem, names⟩, all⟩ := own_.exists_merge h.laid.keyed
    (Json.wellKeyed_sublist enters.fits.keyed h.leaves.sublist)
  exact ⟨key, listed, items, written, inner', mem, names, all m reference cited⟩

end Laying

/-- What resolving a document owes. -/
structure Documents (files : FileTree) (s : Store) (depth n : Nat) (path : List String)
    (d : Descriptor) (c : Context) (out : Resolved × Context) : Prop where
  tells : Tells files s depth n (path ++ [d.key]) d out.1
  passes : Passes files s depth (path ++ [d.key]) (Cites n d.doc) c out.2

/-- The inheritance keys of what is entered are applied, some of them or all. -/
theorem Enters.applies (enters : Enters files s depth n path d)
    (serves : Serves files s depth budget resolve) (room : Room s (path ++ [d.key]) budget)
    (sound : Sound files s depth path c) {keys : List String}
    (names : ∀ key ∈ keys, key ∈ inheritanceKeys) (distinct : keys.Nodup) :
    Applies files s depth (path ++ [d.key]) d.doc keys d.doc { context := c }
      (applyKeys files resolve (path ++ [d.key]) d.key keys d.doc { context := c }).1
      (applyKeys files resolve (path ++ [d.key]) d.key keys d.doc { context := c }).2 :=
  applyKeys_applies serves room (fun reference mem => enters.fits.cites reference (.own mem)) names
    distinct (fun _ _ => rfl) { context := c } laid_nil (sound.append d.key) d.key

/-- How a component is resolved that is in place in a document, under the key it gets. -/
def inPlaceIn (files : FileTree) (resolve : ParentResolver) (n : Nat) (path : List String)
    (d : Descriptor) (key : String) (inner : Members) (c : Context) : Members × Context :=
  let (r, c) := resolveDocument files resolve n path ⟨key, d.path, Kind.detect "" inner, inner⟩ c
  (r.doc, c)

/-- A component in place is entered one level down, under a key that no file has. -/
theorem Enters.inPlace (apart : KeysApart s) (enters : Enters files s depth (n + 1) path d)
    (fits : Fits files s depth n (path ++ [d.key]) inner) (label : String) :
    Enters files s depth n (path ++ [d.key])
      ⟨d.key ++ "#" ++ label, d.path, Kind.detect "" inner, inner⟩ where
  deep := Nat.le_of_succ_le enters.deep
  rooted := .inr (enters.rooted.madeUp label)
  fits := ⟨fits.keyed, fun reference cited =>
    (fits.cites reference cited).append_fileless ((enters.rooted.madeUp label).fileless apart)⟩

/-- Documents are resolved as they should be, so deep. -/
def ServesDocuments (files : FileTree) (s : Store) (depth budget n : Nat)
    (resolve : ParentResolver) : Prop :=
  ∀ path d c, Room s (path ++ [d.key]) budget → Enters files s depth n path d →
    Sound files s depth path c →
    Documents files s depth n path d c (resolveDocument files resolve n path d c)

theorem ServesDocuments.inPlace (serves : ServesDocuments files s depth budget n resolve)
    (apart : KeysApart s) (room : Room s (path ++ [d.key]) budget)
    (enters : Enters files s depth (n + 1) path d) :
    ServesInPlace files s depth n (path ++ [d.key]) d.key
      (inPlaceIn files resolve n (path ++ [d.key]) d) := by
  intro label inner c fits sound
  have fileless := (enters.rooted.madeUp label).fileless apart
  obtain ⟨tells, passes⟩ :=
    serves _ _ c (room.fileless fileless) (enters.inPlace apart fits label) sound
  exact ⟨⟨tells.fits.keyed, fun reference cited => (tells.fits.cites reference cited).of_append⟩,
    passes.of_append fileless⟩

/-- **A document is resolved as it should be**, if its sources are. -/
theorem resolveDocument_enters (apart : KeysApart s)
    (serves : Serves files s depth budget resolve) (n : Nat) :
    ServesDocuments files s depth budget n resolve := by
  induction n with
  | zero =>
    intro path d c room enters sound
    have applies := enters.applies serves room sound (fun key mem => mem) (by decide)
    refine ⟨applies.tells enters (applies.fits enters) (.refl _) _, applies.passes.mono ?_⟩
    rintro reference ⟨mem⟩
    exact List.mem_flatMap.mp mem
  | succ n ih =>
    intro path d c room enters sound
    have applies := enters.applies serves room sound (fun key mem => mem) (by decide)
    obtain ⟨fits, passes⟩ := resolveLists_fits (ih.inPlace apart room enters) (fun key mem => mem)
      (by decide) (applies.fits enters) applies.passes.sound
    refine ⟨applies.tells enters fits (resolveLists_inPlace d.key (fun key mem => mem) _ _) _,
      (applies.passes.trans passes).mono ?_⟩
    intro reference cited
    cases cited with
    | own mem => exact .inl (List.mem_flatMap.mp mem)
    | inPlace inside cited => exact .inr (applies.citedUnder enters inside cited)

/-! ### The resolver -/

/-- Without a cut there is no way from a descriptor back to its path or to itself. -/
theorem offPath_of_no_cut (uncut : c.resolver.cut = none)
    (leaves : ∀ place x, s.Holds files x → path[place]? = some x.key →
      Past files s depth path d x → CutWithin c place)
    (onward : TransGen (LeansOn files s depth) d x) : x.key ∉ path := by
  intro onPath
  obtain ⟨z, held, mem, past⟩ := exists_past onward onPath
  obtain ⟨place, lt, there⟩ := List.getElem_of_mem mem
  obtain ⟨cut, found, -⟩ := leaves place z held (List.getElem?_eq_some_iff.mpr ⟨lt, there⟩) past
  rw [uncut] at found
  cases found

/-- A cut on a path that ends with a key goes back to that key or is above it. -/
theorem Sound.cut_le (h : Sound files s depth (path ++ [key]) c) {place : Nat}
    (cut : c.resolver.cut = some place) : place ≤ path.length := by
  obtain ⟨_, -, at_⟩ := h.cut place cut
  have lt := (List.getElem?_eq_some_iff.mp at_).1
  rw [List.length_append, List.length_singleton] at lt
  omega

/-- **What is remembered is on no cycle.**  Remembering a descriptor, or leaving the cut that goes
back to it, keeps a context sound with the path unwound by one. -/
theorem remember_keeps (held : s.Holds files d)
    (tells : Tells files s depth depth (path ++ [d.key]) d r) (same : r.key = d.key)
    (sound : Sound files s depth (path ++ [d.key]) c)
    (leaves : ∀ place x, s.Holds files x → (path ++ [d.key])[place]? = some x.key →
      Past files s depth (path ++ [d.key]) d x → CutWithin c place) :
    Keeps files s depth path c (c.remember path.length r) := by
  unfold Context.remember
  cases cut : c.resolver.cut with
  | none =>
    -- nothing has been cut, so nothing leads back to the path or to the descriptor
    have offPath := fun x => offPath_of_no_cut (x := x) cut leaves
    refine ⟨⟨sound.faithful, sound.grown, ?_, ?_⟩, fun place _ h => h⟩
    · intro e r' held' found
      rw [KeyMap.get?_insert, same] at found
      split at found
      · rename_i own
        obtain rfl := held.unique held' own
        cases found
        refine ⟨fun onCycle => offPath d onCycle (by simp), ?_⟩
        exact tells.alone fun x onward onPath => offPath x onward (List.mem_append_left _ onPath)
      · exact sound.memo e r' held' found
    · intro place found
      rw [cut] at found
      cases found
  | some shallowest =>
    dsimp only
    have le := sound.cut_le cut
    split
    · rename_i above
      refine ⟨{ sound with cut := ?_ }, fun place _ h => h⟩
      intro place found
      obtain ⟨key, mem, at_⟩ := sound.cut place found
      rw [cut] at found
      cases found
      exact ⟨key, mem, (List.getElem?_append_left above).symm.trans at_⟩
    · rename_i notAbove
      -- the cut goes back to this very place and is dropped; there was none above
      rw [if_pos (by omega : shallowest = path.length)]
      refine ⟨⟨sound.faithful, sound.grown, sound.memo, fun _ found => nomatch found⟩, ?_⟩
      rintro place lt ⟨other, found, le'⟩
      rw [cut] at found
      cases found
      omega

/-- What is resolved under a key without a file, at the beginning of a path, may be remembered. -/
theorem remember_fileless (fileless : key ∉ s.keys) (same : r.key = key)
    (sound : Sound files s depth [key] c) : Sound files s depth [] (c.remember 0 r) := by
  have uncut : c.resolver.cut = none := by
    cases cut : c.resolver.cut with
    | none => rfl
    | some place =>
      obtain ⟨other, mem, at_⟩ := sound.cut place cut
      exact absurd (List.mem_singleton.mp (List.mem_of_getElem? at_) ▸ mem) fileless
  unfold Context.remember
  rw [uncut]
  refine ⟨sound.faithful, sound.grown, fun d r' held found => ?_, fun place found => ?_⟩
  · rw [KeyMap.get?_insert, same,
      if_neg fun own : key = d.key => fileless (own ▸ held.mem_keys)] at found
    exact sound.memo d r' held found
  · exact absurd (uncut ▸ found) nofun

/-- **The resolver owes what it should**, as long as there is room on the path. -/
theorem resolveAt_resolves (apart : KeysApart s) (budget : Nat) :
    Serves files s depth budget (resolveAt files depth budget) := by
  induction budget with
  | zero =>
    intro path d c room leads sound
    exact absurd (room.pos leads.held.mem_keys leads.offPath) (Nat.lt_irrefl 0)
  | succ budget ih =>
    intro path d c room leads sound
    unfold resolveAt
    cases known : c.resolver.memo.get? d.key with
    | some r =>
      obtain ⟨acyclic, tells⟩ := sound.memo d r leads.held known
      -- what is remembered is on no cycle, so no way leads from it back onto the path
      refine ⟨sound.refl, tells.along acyclic leads, fun place x held at_ past => ?_⟩
      exact absurd (List.mem_of_getElem? at_)
        (leads.offPath_of_acyclic acyclic past.transGen held)
    | none =>
      have below := room.file leads.held.mem_keys leads.offPath
      obtain ⟨tells, passes⟩ :=
        resolveDocument_enters apart ih depth path d c below leads.enters sound
      have same := @resolveDocument_key files c (resolveAt files depth budget) depth path d
      generalize resolveDocument files (resolveAt files depth budget) depth path d c = out
        at tells passes same
      obtain ⟨r, c₁⟩ := out
      dsimp only at tells passes same ⊢
      have leaves : ∀ place x, s.Holds files x → (path ++ [d.key])[place]? = some x.key →
          Past files s depth (path ++ [d.key]) d x → CutWithin c₁ place := by
        intro place x held at_ past
        cases past with
        | source edge =>
          obtain ⟨reference, cited, read⟩ := edge
          exact passes.leaves reference cited place x held at_ ⟨x, read, .inl rfl⟩
        | @beyond _ e _ edge offPath past =>
          obtain ⟨reference, cited, read⟩ := edge
          exact passes.leaves reference cited place x held at_ ⟨e, read, .inr ⟨offPath, past⟩⟩
      have remembered := remember_keeps leads.held tells same passes.sound leaves
      have kept : Keeps files s depth path c (c₁.remember path.length r) :=
        ⟨remembered.sound, fun place lt cut => remembered.cuts place lt
          (passes.cuts place (by rw [List.length_append]; omega) cut)⟩
      refine ⟨kept, tells, fun place x held at_ past => ?_⟩
      have lt := (List.getElem?_eq_some_iff.mp at_).1
      -- a way that comes through the descriptor again starts anew from it
      have anew : Past files s depth (path ++ [d.key]) d x :=
        (past.append leads.held).elim id id
      exact remembered.cuts place lt
        (leaves place x held ((List.getElem?_append_left lt).trans at_) anew)

end Keeping

end DispatchTables
