import DispatchTables.Proofs.Inheritance.Alone
import DispatchTables.Proofs.Inheritance.Frame
import Mathlib.Data.List.Perm.Subperm

/-!
# What the resolver remembers

The resolver keeps what it has resolved, and one number beside it: the shallowest place on the path
that a cycle has been cut back to.  The number is shared by everything on the path; it is lowered by
later cuts, outlives the descriptor below which the cut was made, and is dropped where the path has
been unwound to the very place.

What it is good for is said by one invariant.  While a descriptor is resolved along a path, every
way back onto the path from it leaves a cut at that place or above.  A descriptor is remembered only
without a cut at its own place or above, so nothing that is part of a cycle is remembered, and what
is remembered does not depend on the path it was resolved along.

## Main Definitions

* `BuildsPast`: one descriptor builds on another, past everything on a path.
* `Leads`: what is true of the path to a descriptor.
* `Sound`: what is true of a context while something is resolved.
* `Resolves`: what resolving a descriptor owes to the path and the context.
* `Reached`: the contexts that loading and resolving lead to.

## Main Statements

* `resolveAt_resolves`: the resolver yields what `resolveAlong` does, and keeps the invariant.
* `resolveAll_eq_map_resolveAlone`: what has been resolved before makes no difference.
-/

namespace DispatchTables

open Relation (TransGen)

variable {files : FileTree} {s : Store} {path : List String} {d e x : Descriptor}

/-! ### Ways back onto the path -/

/-- One descriptor builds on another; what stands between them is not on the path. -/
inductive BuildsPast (files : FileTree) (s : Store) (path : List String) :
    Descriptor → Descriptor → Prop where
  | source : ∀ {d x}, BuildsOn files s d x → BuildsPast files s path d x
  | beyond : ∀ {d e x}, BuildsOn files s d e → e.key ∉ path → BuildsPast files s path e x →
      BuildsPast files s path d x

theorem BuildsPast.transGen (h : BuildsPast files s path d x) :
    TransGen (BuildsOn files s) d x := by
  induction h with
  | source edge => exact .single edge
  | beyond edge _ _ ih => exact .head edge ih

/-- A descriptor that builds on one on the path comes to the path somewhere first. -/
theorem exists_buildsPast (h : TransGen (BuildsOn files s) d x) (onPath : x.key ∈ path) :
    ∃ z, z.key ∈ path ∧ BuildsPast files s path d z := by
  induction h using TransGen.head_induction_on with
  | single edge => exact ⟨x, onPath, .source edge⟩
  | @head a c edge _ ih =>
    by_cases met : c.key ∈ path
    · exact ⟨c, met, .source edge⟩
    · obtain ⟨z, hz, past⟩ := ih
      exact ⟨z, hz, .beyond edge met past⟩

/-- When a descriptor joins the path, a way past the old path leads past the new one, from where it
began or from that descriptor. -/
theorem BuildsPast.append (held : s.Holds files d) (h : BuildsPast files s path e x) :
    BuildsPast files s (path ++ [d.key]) e x ∨ BuildsPast files s (path ++ [d.key]) d x := by
  induction h with
  | source edge => exact .inl (.source edge)
  | @beyond a c y edge offPath _ ih =>
    rcases ih with onward | anew
    · by_cases same : c.key = d.key
      · obtain rfl := edge.holds.unique held same
        exact .inr onward
      · exact .inl (.beyond edge (by simp [offPath, same]) onward)
    · exact .inr anew

/-- What is true of the path to a descriptor: no key is on it twice, nor is its own, and each is
that of a descriptor that builds on it. -/
structure Leads (files : FileTree) (s : Store) (path : List String) (d : Descriptor) : Prop where
  held : s.Holds files d
  distinct : (path ++ [d.key]).Nodup
  above : ∀ key ∈ path, ∃ e, s.Holds files e ∧ e.key = key ∧ TransGen (BuildsOn files s) e d

theorem Leads.nil (held : s.Holds files d) : Leads files s [] d :=
  ⟨held, by simp, by simp⟩

theorem Leads.step (h : Leads files s path d) (edge : BuildsOn files s d e)
    (offPath : e.key ∉ path ++ [d.key]) : Leads files s (path ++ [d.key]) e where
  held := edge.holds
  distinct := by
    rw [List.nodup_append]
    refine ⟨h.distinct, by simp, ?_⟩
    rintro key mem other same rfl
    rw [List.mem_singleton.mp same] at mem
    exact offPath mem
  above := by
    intro key mem
    rcases List.mem_append.mp mem with upper | own
    · obtain ⟨a, held, same, leads⟩ := h.above key upper
      exact ⟨a, held, same, .tail leads edge⟩
    · exact ⟨d, h.held, (List.mem_singleton.mp own).symm, .single edge⟩

/-- The path is shorter than the list of keys. -/
theorem Leads.length_lt (h : Leads files s path d) : path.length < s.size := by
  have within : path ++ [d.key] ⊆ s.keys := by
    intro key mem
    rcases List.mem_append.mp mem with upper | own
    · obtain ⟨a, held, same, -⟩ := h.above key upper
      exact same ▸ held.mem_keys
    · exact List.mem_singleton.mp own ▸ h.held.mem_keys
  have bounded := (List.subperm_of_subset h.distinct within).length_le
  rw [List.length_append, List.length_singleton] at bounded
  have counted : s.keys.length = s.size := List.length_map ..
  omega

/-- A descriptor on no cycle does not build on anything on the path to it. -/
theorem Leads.offPath_of_acyclic (h : Leads files s path d)
    (acyclic : ¬ TransGen (BuildsOn files s) d d) (onward : TransGen (BuildsOn files s) d x) :
    x.key ∉ path := by
  intro onPath
  obtain ⟨a, held, same, leads⟩ := h.above x.key onPath
  obtain rfl := held.unique (holds_of_transGen onward) same
  exact acyclic (onward.trans leads)

/-- A descriptor that does not build on anything on the path is resolved as it is alone. -/
theorem resolveAlong_eq_resolveAlone
    (offPath : ∀ e, TransGen (BuildsOn files s) d e → e.key ∉ path) :
    resolveAlong files s (path ++ [d.key]) d = resolveAlone files s d := by
  apply resolveAlong_congr
  intro e onward
  simp only [List.mem_append, offPath e onward, false_or]

/-! ### Contexts while something is resolved -/

/-- Whether a cycle has been cut back to a place on the path, or to one above it. -/
def CutWithin (c : Context) (place : Nat) : Prop :=
  ∃ cut, c.resolver.cut = some cut ∧ cut ≤ place

/-- **What is true of a context** while there are `depth` keys on the path.  What is remembered
under the key of a file is on no cycle and is what it would be if nothing were remembered; cycles
have been cut on the path only. -/
structure Sound (files : FileTree) (s : Store) (depth : Nat) (c : Context) : Prop where
  faithful : s.Faithful files
  grown : Store.Grows files s c.store
  memo : ∀ {key r}, key ∈ s.keys → c.resolver.memo.get? key = some r →
    ∃ d, s.Holds files d ∧ d.key = key ∧ ¬ TransGen (BuildsOn files s) d d ∧
      r = resolveAlone files s d
  cut : ∀ {place}, c.resolver.cut = some place → place < depth

/-- What becomes of a context: it stays sound, and no cut on the path is forgotten. -/
structure Keeps (files : FileTree) (s : Store) (depth : Nat) (c c' : Context) : Prop where
  sound : Sound files s depth c'
  cuts : ∀ place < depth, CutWithin c place → CutWithin c' place

variable {depth : Nat} {c c' c'' : Context}

theorem Keeps.trans (h₁ : Keeps files s depth c c') (h₂ : Keeps files s depth c' c'') :
    Keeps files s depth c c'' :=
  ⟨h₂.sound, fun place lt cut => h₂.cuts place lt (h₁.cuts place lt cut)⟩

/-- What only loads and warns keeps everything. -/
theorem Sound.keeps (h : Sound files s depth c) (grown : Store.Grows files c.store c'.store)
    (memo : c'.resolver.memo = c.resolver.memo) (cut : c'.resolver.cut = c.resolver.cut) :
    Keeps files s depth c c' where
  sound :=
    { faithful := h.faithful
      grown := h.grown.trans grown
      memo := fun filed found => h.memo filed (memo ▸ found)
      cut := fun found => h.cut (cut ▸ found) }
  cuts := by
    rintro place - ⟨shallowest, found, le⟩
    exact ⟨shallowest, cut.trans found, le⟩

theorem Sound.refl (h : Sound files s depth c) : Keeps files s depth c c :=
  h.keeps (Store.Grows.refl files _) rfl rfl

theorem Sound.warn (h : Sound files s depth c) (w : Diagnostic) :
    Keeps files s depth c (c.warnResolver w) :=
  h.keeps (Store.Grows.refl files _) rfl rfl

/-- A reference loaded for the resolver means what its file says, and the context loses nothing. -/
theorem loadForResolver_keeps (h : Sound files s depth c) (reference : String) :
    (c.loadForResolver files reference).1 = s.readReference files reference ∧
      Keeps files s depth c (c.loadForResolver files reference).2 := by
  obtain ⟨read, grown, same⟩ := loadForResolver_reads h.faithful h.grown reference
  exact ⟨read, h.keeps grown same.memo same.cut⟩

theorem cutWithin_noteCut (c : Context) (place : Nat) : CutWithin (c.noteCut place) place := by
  unfold CutWithin Context.noteCut
  cases c.resolver.cut with
  | none => exact ⟨place, rfl, Nat.le_refl _⟩
  | some shallowest => exact ⟨min shallowest place, rfl, Nat.min_le_right ..⟩

theorem noteCut_keeps (h : Sound files s depth c) {place : Nat} (lt : place < depth) :
    Keeps files s depth c (c.noteCut place) where
  sound :=
    { faithful := h.faithful
      grown := h.grown
      memo := h.memo
      cut := by
        intro other found
        unfold Context.noteCut at found
        cases was : c.resolver.cut with
        | none =>
          simp only [was, Option.some.injEq] at found
          omega
        | some shallowest =>
          simp only [was, Option.some.injEq] at found
          omega }
  cuts := by
    rintro other - ⟨shallowest, found, le⟩
    exact ⟨min shallowest place, by simp only [Context.noteCut, found], by omega⟩

/-! ### Sources -/

/-- **What resolving a descriptor owes** to the path it is resolved along and to the context: the
outcome is that without memory, and every way from the descriptor back onto the path has left a cut
there or above. -/
structure Resolves (files : FileTree) (s : Store) (path : List String) (d : Descriptor)
    (c : Context) (out : Resolved × Context) : Prop extends
    Keeps files s path.length c out.2 where
  yields : out.1 = resolveAlong files s (path ++ [d.key]) d
  leaves : ∀ place x, path[place]? = some x.key → BuildsPast files s path d x →
    CutWithin out.2 place

/-- A resolver does what it owes for the sources of a descriptor, as far as they are not on the
path. -/
def Serves (files : FileTree) (s : Store) (path : List String) (d : Descriptor)
    (resolve : ParentResolver) : Prop :=
  ∀ e c, BuildsOn files s d e → e.key ∉ path → Sound files s path.length c →
    Resolves files s path e c (resolve path e c)

/-- A reference means a descriptor, or one that builds on it past everything on the path. -/
def NamesPast (files : FileTree) (s : Store) (path : List String) (reference : String)
    (x : Descriptor) : Prop :=
  ∃ e, s.readReference files reference = .ok e ∧
    (e = x ∨ e.key ∉ path ∧ BuildsPast files s path e x)

theorem BuildsPast.exists_namesPast (h : BuildsPast files s path d x) :
    ∃ reference ∈ allReferences d.doc, NamesPast files s path reference x := by
  cases h with
  | source edge =>
    obtain ⟨reference, mem, read⟩ := edge
    exact ⟨reference, mem, x, read, .inl rfl⟩
  | @beyond _ e _ edge offPath past =>
    obtain ⟨reference, mem, read⟩ := edge
    exact ⟨reference, mem, e, read, .inr ⟨offPath, past⟩⟩

/-- What applying references owes to the context. -/
structure Passes (files : FileTree) (s : Store) (path references : List String)
    (c c' : Context) : Prop extends Keeps files s path.length c c' where
  leaves : ∀ reference ∈ references, ∀ place x, path[place]? = some x.key →
    NamesPast files s path reference x → CutWithin c' place

theorem Keeps.passes (h : Keeps files s path.length c c') : Passes files s path [] c c' :=
  ⟨h, by simp⟩

theorem Passes.append {first second : List String} (h₁ : Passes files s path first c c')
    (h₂ : Passes files s path second c' c'') : Passes files s path (first ++ second) c c'' where
  toKeeps := h₁.toKeeps.trans h₂.toKeeps
  leaves := by
    intro reference mem place x at_ past
    rcases List.mem_append.mp mem with early | late
    · have lt : place < path.length := (List.getElem?_eq_some_iff.mp at_).1
      exact h₂.cuts place lt (h₁.leaves reference early place x at_ past)
    · exact h₂.leaves reference late place x at_ past

variable {resolve : ParentResolver} {reference : String} {references : List String}

theorem resolveParent_passes (serves : Serves files s path d resolve)
    (mem : reference ∈ allReferences d.doc) (sound : Sound files s path.length c)
    (child : String) :
    (resolveParent files resolve path child reference c).1 =
        sourceAlong files s path reference ∧
      Passes files s path [reference] c
        (resolveParent files resolve path child reference c).2 := by
  obtain ⟨read, keeps⟩ := loadForResolver_keeps sound reference
  unfold resolveParent sourceAlong
  generalize c.loadForResolver files reference = loaded at read keeps
  obtain ⟨found, c₁⟩ := loaded
  dsimp only at read keeps
  rw [read]
  cases meant : s.readReference files reference with
  | error failure =>
    -- a reference that means nothing leads nowhere
    refine ⟨rfl, keeps.trans (keeps.sound.warn _), ?_⟩
    rintro other only place x - ⟨e, read, -⟩
    rw [List.mem_singleton.mp only, meant] at read
    cases read
  | ok parent =>
    dsimp only
    cases placed : path.idxOf? parent.key with
    | some place =>
      obtain ⟨lt, same, least⟩ := List.idxOf?_eq_some_iff.mp placed
      have onPath : parent.key ∈ path := same ▸ List.getElem_mem lt
      have noted := noteCut_keeps keeps.sound lt
      refine ⟨(if_pos onPath).symm,
        keeps.trans (noted.trans (noted.sound.warn _)), ?_⟩
      rintro other only upper x at_ ⟨e, read, past⟩
      rw [List.mem_singleton.mp only, meant] at read
      cases read
      -- the parent is on the path, so there is no way past it
      obtain rfl : parent = x := past.resolve_right fun h => h.1 onPath
      obtain ⟨shallowest, cut, le⟩ := cutWithin_noteCut c₁ place
      obtain ⟨_, there⟩ := List.getElem?_eq_some_iff.mp at_
      have first : place ≤ upper := by
        apply Nat.le_of_not_lt
        intro before
        exact least upper before there
      exact ⟨shallowest, cut, Nat.le_trans le first⟩
    | none =>
      have offPath : parent.key ∉ path := List.idxOf?_eq_none_iff.mp placed
      have resolved := serves parent c₁ ⟨reference, mem, meant⟩ offPath keeps.sound
      refine ⟨?_, keeps.trans resolved.toKeeps, ?_⟩
      · rw [if_neg offPath, ← resolved.yields]
      · -- a way onto the path leads on from the parent, which owes the cut
        rintro other only place x at_ ⟨e, read, past⟩
        rw [List.mem_singleton.mp only, meant] at read
        cases read
        rcases past with rfl | ⟨-, past⟩
        · exact absurd (List.mem_of_getElem? at_) offPath
        · exact resolved.leaves place x at_ past

/-- What applying references owes to the layers: they are laid as they are without memory. -/
structure Lays (files : FileTree) (s : Store) (path references : List String)
    (layers layers' : Layers) : Prop extends
    Passes files s path references layers.context layers'.context where
  merged : layers'.merged =
    layeredOn layers.merged (references.filterMap (sourceAlong files s path))
  log : layers'.log = layers.log ++ logOf (references.filterMap (sourceAlong files s path))

variable {layers layers' layers'' : Layers}

theorem Lays.append {first second : List String} (h₁ : Lays files s path first layers layers')
    (h₂ : Lays files s path second layers' layers'') :
    Lays files s path (first ++ second) layers layers'' where
  toPasses := h₁.toPasses.append h₂.toPasses
  merged := by
    rw [List.filterMap_append, layeredOn, List.foldl_append, h₂.merged, h₁.merged]
    rfl
  log := by
    rw [List.filterMap_append, logOf, List.flatMap_append, ← List.append_assoc, h₂.log, h₁.log]
    rfl

/-- Sources are laid in order, and the outcome says whether all of them could be had. -/
theorem applySources_lays (serves : Serves files s path d resolve)
    (within : ∀ reference ∈ references, reference ∈ allReferences d.doc) (layers : Layers)
    (sound : Sound files s path.length layers.context) (child : String) :
    (applySources files resolve path child references layers).1 =
        references.all (fun reference => (sourceAlong files s path reference).isSome) ∧
      Lays files s path references layers
        (applySources files resolve path child references layers).2 := by
  induction references generalizing layers with
  | nil =>
    refine ⟨rfl, sound.refl.passes, rfl, ?_⟩
    simp [applySources, logOf]
  | cons reference rest ih =>
    obtain ⟨yields, passes⟩ :=
      resolveParent_passes serves (within reference List.mem_cons_self) sound child
    have later := fun other mem => within other (List.mem_cons_of_mem _ mem)
    unfold applySources
    generalize resolveParent files resolve path child reference layers.context = out
      at yields passes
    obtain ⟨found, c⟩ := out
    dsimp only at yields passes
    cases found with
    | none =>
      obtain ⟨-, lays⟩ := ih later { layers with context := c } passes.sound
      have one : Lays files s path [reference] layers { layers with context := c } := by
        refine ⟨passes, ?_, ?_⟩ <;> simp [← yields, layeredOn, logOf]
      exact ⟨by simp [← yields], one.append lays⟩
    | some parent =>
      obtain ⟨all, lays⟩ := ih later {
        merged := merge layers.merged (inheritable parent.doc)
        log := layers.log ++ parent.log ++ [parent.key]
        context := c } passes.sound
      have one : Lays files s path [reference] layers {
          merged := merge layers.merged (inheritable parent.doc)
          log := layers.log ++ parent.log ++ [parent.key]
          context := c } := by
        refine ⟨passes, ?_, ?_⟩ <;> simp [← yields, layeredOn, logOf]
      refine ⟨?_, one.append lays⟩
      rw [List.all_cons, ← yields]
      exact all

/-- Leaving out one key more. -/
theorem withoutUsed_cons (source : String → Option Resolved) (key : String) (keys : List String)
    (doc own : Members) :
    withoutUsed source (key :: keys) doc own =
      withoutUsed source keys doc (if usedUp source doc key then own.erase key else own) := by
  unfold withoutUsed
  by_cases used : usedUp source doc key
  · rw [if_pos used, Members.erase, List.filter_filter]
    apply List.filter_congr
    intro m _
    by_cases same : m.1 = key
    · simp [same, used]
    · simp [same]
  · rw [if_neg used]
    apply List.filter_congr
    intro m _
    by_cases same : m.1 = key
    · simp [same, used]
    · simp [same]

/-- Inheritance keys are applied in order, and dropped as far as they are used up. -/
theorem applyKeys_lays (serves : Serves files s path d resolve) {keys : List String}
    (within : ∀ key ∈ keys, key ∈ inheritanceKeys) (distinct : keys.Nodup) {own : Members}
    (untouched : ∀ key ∈ keys, own.get? key = d.doc.get? key) (layers : Layers)
    (sound : Sound files s path.length layers.context) (child : String) :
    (applyKeys files resolve path child keys own layers).1 =
        withoutUsed (sourceAlong files s path) keys d.doc own ∧
      Lays files s path (keys.flatMap (referencesUnder d.doc)) layers
        (applyKeys files resolve path child keys own layers).2 := by
  induction keys generalizing own layers with
  | nil =>
    refine ⟨?_, sound.refl.passes, rfl, ?_⟩
    · simp [applyKeys, withoutUsed]
    · simp [applyKeys, logOf]
  | cons key rest ih =>
    obtain ⟨fresh, distinct⟩ := List.nodup_cons.mp distinct
    have value := untouched key List.mem_cons_self
    have later := fun other mem => within other (List.mem_cons_of_mem _ mem)
    have kept := fun other mem => untouched other (List.mem_cons_of_mem _ mem)
    rw [withoutUsed_cons]
    unfold applyKeys
    rw [value]
    cases written : d.doc.get? key with
    | none =>
      have nothing : (d.doc.get? key).bind references? = none := by rw [written, Option.bind_none]
      rw [usedUp_of_none nothing, List.flatMap_cons, referencesUnder_of_none nothing]
      exact ih later distinct kept layers sound
    | some json =>
      dsimp only
      cases named : references? json with
      | none =>
        have nothing : (d.doc.get? key).bind references? = none := by
          rw [written, Option.bind_some, named]
        rw [usedUp_of_none nothing, List.flatMap_cons, referencesUnder_of_none nothing]
        -- the value stays where it is, with one warning or the other
        have one : ∀ w : Diagnostic, Lays files s path [] layers
            { layers with context := layers.context.warnResolver w } := by
          intro w
          refine ⟨(sound.warn w).passes, rfl, ?_⟩
          simp [logOf]
        have step := fun w => ih later distinct kept _ (one w).sound
        exact ⟨(step _).1, (one _).append (step _).2⟩
      | some references =>
        have names : (d.doc.get? key).bind references? = some references := by
          rw [written, Option.bind_some, named]
        have under := referencesUnder_of_some names
        have members : ∀ reference ∈ references, reference ∈ allReferences d.doc := by
          intro reference mem
          exact List.mem_flatMap.mpr ⟨key, within key List.mem_cons_self, under ▸ mem⟩
        obtain ⟨all, lays⟩ := applySources_lays serves members layers sound child
        rw [usedUp_of_some names, ← all, List.flatMap_cons, under]
        dsimp only
        generalize applySources files resolve path child references layers = out at lays
        obtain ⟨complete, layers₁⟩ := out
        dsimp only at lays ⊢
        -- the other keys are as they were written, since none is listed twice
        have untouched : ∀ other ∈ rest,
            (if complete then own.erase key else own).get? other = d.doc.get? other := by
          intro other mem
          split
          · rw [Members.get?_erase, if_neg fun same : key = other => fresh (same ▸ mem)]
            exact kept other mem
          · exact kept other mem
        obtain ⟨left, more⟩ := ih later distinct untouched layers₁ lays.sound
        exact ⟨left, lays.append more⟩

/-! ### Components in place -/

theorem resolveItems_plain {one : String → Members → Context → Members × Context}
    {parent : String} {items : List Json} (plain : items.all plainItem = true) (index : Nat) :
    resolveItems one parent index items c = (items, c) := by
  induction items generalizing index with
  | nil => rfl
  | cons item rest ih =>
    rw [List.all_cons, Bool.and_eq_true] at plain
    have later := ih plain.2 (index + 1)
    cases item with
    | object inner =>
      have own : inherits inner = false := by simpa [plainItem] using plain.1
      simp only [resolveItems, own, later]
      rfl
    | _ => simp only [resolveItems, later]

/-- In a plain document there is nothing to resolve in place. -/
theorem resolveLists_plain {one : String → Members → Context → Members × Context}
    {parent : String} {keys : List String} {doc : Members} (plain : plainLists doc = true)
    (lists : ∀ key ∈ keys, key ∈ componentListKeys) :
    resolveLists one parent keys doc c = (doc, c) := by
  induction keys with
  | nil => rfl
  | cons key rest ih =>
    have later := ih fun other mem => lists other (List.mem_cons_of_mem _ mem)
    unfold resolveLists
    split
    · rename_i items found
      have listed : plainValue (.array items) = true :=
        plainLists_iff.mp plain _ (Members.mem_of_get? found) (lists key List.mem_cons_self)
      simp only [resolveItems_plain listed, Members.insert_of_get? found]
      exact later
    · exact later

/-! ### The resolver -/

theorem Sound.deeper (h : Sound files s depth c) : Sound files s (depth + 1) c :=
  { h with cut := fun found => Nat.lt_succ_of_lt (h.cut found) }

/-- A document is laid over its sources as it is without memory. -/
theorem resolveDocument_passes (plain : ∀ e, s.Holds files e → plainLists e.doc = true)
    (leads : Leads files s path d) (serves : Serves files s (path ++ [d.key]) d resolve)
    (sound : Sound files s path.length c) (nesting : Nat) :
    (resolveDocument files resolve nesting path d c).1 =
        resolveAlong files s (path ++ [d.key]) d ∧
      Passes files s (path ++ [d.key]) (allReferences d.doc) c
        (resolveDocument files resolve nesting path d c).2 := by
  have deeper : Sound files s (path ++ [d.key]).length c := by
    rw [List.length_append]
    exact sound.deeper
  obtain ⟨left, lays⟩ := applyKeys_lays serves (fun key mem => mem) (by decide)
    (fun key _ => rfl) { context := c } deeper d.key
  have laid := plainLists_laid (plain d leads.held)
    (plainLists_sourceAlong plain (path ++ [d.key]))
  rw [resolveAlong_eq]
  unfold resolveDocument
  dsimp only
  generalize applyKeys files resolve (path ++ [d.key]) d.key inheritanceKeys d.doc
    { context := c } = out at left lays
  obtain ⟨own, layers⟩ := out
  dsimp only at left lays ⊢
  -- plain members over plain sources are plain, so nothing is left to resolve in place
  have inner : plainLists (merge layers.merged own) = true := by
    rw [lays.merged, left]
    exact laid
  have outcome : ⟨d.key, d.path, d.kind, withLog (merge layers.merged own) layers.log, layers.log⟩ =
      overlay (sourceAlong files s (path ++ [d.key])) d := by
    rw [lays.merged, lays.log, left]
    rfl
  cases nesting with
  | zero => exact ⟨outcome, lays.toPasses⟩
  | succ nesting =>
    simp only [resolveLists_plain inner fun key mem => mem]
    exact ⟨outcome, lays.toPasses⟩

/-- Without a cut there is no way from a descriptor back to its path or to itself. -/
theorem offPath_of_no_cut (none_ : c.resolver.cut = none)
    (leaves : ∀ place x, (path ++ [d.key])[place]? = some x.key →
      BuildsPast files s (path ++ [d.key]) d x → CutWithin c place)
    (onward : TransGen (BuildsOn files s) d e) : e.key ∉ path ++ [d.key] := by
  intro onPath
  obtain ⟨z, mem, past⟩ := exists_buildsPast onward onPath
  obtain ⟨place, lt, there⟩ := List.getElem_of_mem mem
  obtain ⟨cut, found, -⟩ := leaves place z (List.getElem?_eq_some_iff.mpr ⟨lt, there⟩) past
  rw [none_] at found
  cases found

/-- **What is remembered is on no cycle.**  Remembering a descriptor, or leaving the cut that goes
back to it, keeps a context sound with the path unwound by one. -/
theorem remember_keeps (held : s.Holds files d)
    (sound : Sound files s (path.length + 1) c)
    (leaves : ∀ place x, (path ++ [d.key])[place]? = some x.key →
      BuildsPast files s (path ++ [d.key]) d x → CutWithin c place) :
    Keeps files s path.length c
      (c.remember path.length (resolveAlong files s (path ++ [d.key]) d)) := by
  unfold Context.remember
  cases cut : c.resolver.cut with
  | none =>
    -- nothing has been cut, so nothing leads back to the path or to the descriptor
    have offPath := fun e => offPath_of_no_cut (e := e) cut leaves
    refine ⟨⟨sound.faithful, sound.grown, ?_, ?_⟩, fun place _ h => h⟩
    · intro key r filed found
      rw [KeyMap.get?_insert, resolveAlong_key] at found
      split at found
      · rename_i same
        refine ⟨d, held, same, fun onCycle => offPath d onCycle (by simp), ?_⟩
        rw [← resolveAlong_eq_resolveAlone fun e onward onPath =>
          offPath e onward (List.mem_append_left _ onPath)]
        exact (Option.some.inj found).symm
      · exact sound.memo filed found
    · intro place found
      rw [cut] at found
      cases found
  | some shallowest =>
    dsimp only
    have deepest := sound.cut cut
    split
    · rename_i above
      refine ⟨{ sound with cut := ?_ }, fun place _ h => h⟩
      intro place found
      rw [cut] at found
      cases found
      exact above
    · rename_i notAbove
      -- the cut goes back to this very place and is dropped; there was none above
      rw [if_pos (by omega : shallowest = path.length)]
      refine ⟨⟨sound.faithful, sound.grown, sound.memo, fun found => nomatch found⟩, ?_⟩
      rintro place lt ⟨other, found, le⟩
      rw [cut] at found
      cases found
      omega

/-- **The resolver owes what it should**, as long as the path may still grow within the store. -/
theorem resolveAt_resolves (plain : ∀ e, s.Holds files e → plainLists e.doc = true)
    (nesting budget : Nat) (room : s.size ≤ path.length + budget)
    (leads : Leads files s path d) (sound : Sound files s path.length c) :
    Resolves files s path d c (resolveAt files nesting budget path d c) := by
  induction budget generalizing path d c with
  | zero => exact absurd leads.length_lt (by omega)
  | succ budget ih =>
    unfold resolveAt
    cases known : c.resolver.memo.get? d.key with
    | some r =>
      obtain ⟨other, held, same, acyclic, rfl⟩ := sound.memo leads.held.mem_keys known
      obtain rfl := held.unique leads.held same
      -- what is remembered is on no cycle, so no way leads from it back onto the path
      refine ⟨sound.refl, ?_, ?_⟩
      · symm
        apply resolveAlong_eq_resolveAlone
        intro e onward
        exact leads.offPath_of_acyclic acyclic onward
      · intro place x at_ past
        exact absurd (List.mem_of_getElem? at_)
          (leads.offPath_of_acyclic acyclic past.transGen)
    | none =>
      have serves : Serves files s (path ++ [d.key]) d (resolveAt files nesting budget) := by
        intro e c' edge offPath sound'
        refine ih ?_ (leads.step edge offPath) sound'
        rw [List.length_append, List.length_singleton]
        omega
      obtain ⟨yields, passes⟩ := resolveDocument_passes plain leads serves sound nesting
      generalize resolveDocument files (resolveAt files nesting budget) nesting path d c = out
        at yields passes
      obtain ⟨r, c₁⟩ := out
      dsimp only at yields passes ⊢
      subst yields
      have leaves : ∀ place x, (path ++ [d.key])[place]? = some x.key →
          BuildsPast files s (path ++ [d.key]) d x → CutWithin c₁ place := by
        intro place x at_ past
        obtain ⟨reference, mem, names⟩ := past.exists_namesPast
        exact passes.leaves reference mem place x at_ names
      have length : (path ++ [d.key]).length = path.length + 1 := by simp
      have remembered := remember_keeps leads.held (length ▸ passes.sound) leaves
      have kept : Keeps files s path.length c _ :=
        ⟨remembered.sound, fun place lt h =>
          remembered.cuts place lt (passes.cuts place (by omega) h)⟩
      refine ⟨kept, rfl, ?_⟩
      intro place x at_ past
      obtain ⟨lt, -⟩ := List.getElem?_eq_some_iff.mp at_
      -- a way that comes through the descriptor again starts anew from it
      have anew : BuildsPast files s (path ++ [d.key]) d x := (past.append leads.held).elim id id
      rw [← List.getElem?_append_left lt] at at_
      exact remembered.cuts place lt (leaves place x at_ anew)

/-! ### Sequences of calls -/

theorem absorb_keeps (h : Sound files s depth c) : Keeps files s depth c c.absorb :=
  h.keeps (Store.takeWarnings_grows files _) rfl rfl

/-- Between calls nothing is on the path, and what is asked for is had as it is without memory. -/
theorem resolve_sound (plain : ∀ e, s.Holds files e → plainLists e.doc = true)
    (held : s.Holds files d) (sound : Sound files s 0 c) :
    (c.resolve files d).1 = resolveAlone files s d ∧ Sound files s 0 (c.resolve files d).2 := by
  have size : c.store.size = s.size := by
    unfold Store.size
    rw [sound.grown.index]
  have resolved := resolveAt_resolves plain c.nestingBound (c.store.size + 1)
    (by rw [size]; simp) (.nil held) sound
  unfold Context.resolve
  generalize resolveAt files c.nestingBound (c.store.size + 1) [] d c = out at resolved
  exact ⟨resolved.yields, (absorb_keeps resolved.sound).sound⟩

/-- **The contexts of a store**: it is opened, and then, in any order, descriptors are loaded and
reports are made and taken, or descriptors that it holds are resolved. -/
inductive Reached (files : FileTree) (s : Store) : Context → Prop where
  | opened {root : String} : Store.ofDirectory files root = .ok s → Reached files s (.ofStore s)
  | loaded {c c' : Context} : Reached files s c → Store.Grows files c.store c'.store →
      c'.resolver.memo = c.resolver.memo → c'.resolver.cut = c.resolver.cut → Reached files s c'
  | resolved {c : Context} {d : Descriptor} : Reached files s c → s.Holds files d →
      Reached files s (c.resolve files d).2

/-- Every context of a store of plain documents is sound. -/
theorem Reached.sound (plain : ∀ e, s.Holds files e → plainLists e.doc = true)
    (h : Reached files s c) : Sound files s 0 c := by
  induction h with
  | @opened root opened =>
    exact {
      faithful := Store.ofDirectory_faithful opened
      grown := Store.takeWarnings_grows files s
      memo := fun _ found => by cases found
      cut := fun found => by cases found }
  | loaded _ grown memo cut ih => exact (ih.keeps grown memo cut).sound
  | resolved _ held ih => exact (resolve_sound plain held ih).2

/-- Resolves some descriptors, one after the other. -/
def Context.resolveAll (files : FileTree) : List Descriptor → Context → List Resolved × Context
  | [], c => ([], c)
  | d :: rest, c =>
    let (r, c) := c.resolve files d
    let (rs, c) := resolveAll files rest c
    (r :: rs, c)

/-- **What has been resolved before makes no difference.**  In a store of plain documents, whatever
descriptors are resolved, in whatever order and how often, after whatever has been done with the
store, each is what it is when nothing is remembered. -/
theorem resolveAll_eq_map_resolveAlone
    (plain : ∀ e, s.Holds files e → plainLists e.doc = true) (reached : Reached files s c)
    (ds : List Descriptor) (held : ∀ d ∈ ds, s.Holds files d) :
    (c.resolveAll files ds).1 = ds.map (resolveAlone files s) := by
  induction ds generalizing c with
  | nil => rfl
  | cons d rest ih =>
    have here := held d List.mem_cons_self
    have later := ih (reached.resolved here) fun e mem => held e (List.mem_cons_of_mem _ mem)
    have first := (resolve_sound plain here (reached.sound plain)).1
    rw [List.map_cons, ← first, ← later]
    rfl

/-- Two templates that build on each other, and one that builds on both. -/
def cyclicTemplates : FileTree where
  workingDirectory := []
  directories := [["lib"]]
  files := [
    (["lib", "a.json"], "\x7b\"name\": \"a\", \"inherits_from\": \"b\", \"x\": 1\x7d".toUTF8),
    (["lib", "b.json"], "\x7b\"name\": \"b\", \"inherits_from\": \"a\", \"y\": 2\x7d".toUTF8),
    (["lib", "c.json"], "\x7b\"name\": \"c\", \"inherits_from\": [\"b\", \"a\"]\x7d".toUTF8)]

/-- The store of these templates. -/
def cyclicStore : Store :=
  [["a.json"], ["b.json"], ["c.json"]].foldl Store.addFile (.empty "/lib")

theorem ofDirectory_cyclicTemplates :
    Store.ofDirectory cyclicTemplates "/lib" = .ok cyclicStore :=
  Store.ofDirectory_of_ordered ["lib"] _ (by decide +kernel) (by decide +kernel)
    (by decide +kernel) (by decide +kernel) (by decide +kernel)

theorem plain_cyclicTemplates (d : Descriptor) (held : cyclicStore.Holds cyclicTemplates d) :
    plainLists d.doc = true := by
  have all : (cyclicStore.held cyclicTemplates).all (fun d => plainLists d.doc) = true := by
    decide +kernel
  exact List.all_eq_true.mp all d (Store.mem_held_iff.mpr held)

theorem resolveAll_cyclicTemplates :
    let c := Context.ofStore cyclicStore
    let ds := cyclicStore.held cyclicTemplates
    (c.resolveAll cyclicTemplates (ds ++ ds.reverse)).1 =
        (ds ++ ds.reverse).map (resolveAlone cyclicTemplates cyclicStore) ∧
      (c.resolveAll cyclicTemplates (ds ++ ds.reverse)).1.map (·.log) =
        [["b"], ["a"], ["a", "b", "b", "a"], ["a", "b", "b", "a"], ["a"], ["b"]] := by
  refine ⟨resolveAll_eq_map_resolveAlone plain_cyclicTemplates
    (.opened ofDirectory_cyclicTemplates) _ ?_, by decide +kernel⟩
  intro d mem
  rw [List.mem_append, List.mem_reverse, or_self] at mem
  exact Store.mem_held_iff.mp mem

end DispatchTables
