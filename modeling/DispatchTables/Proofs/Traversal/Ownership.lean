import DispatchTables.Pipeline.Run
import DispatchTables.Proofs.Traversal.Trail

/-!
# Whose a bus encounter is

What is met on a bus belongs to a row of the tables, or to none.  The owner is handed down the walk,
kept with every name that has been met, and charged again when the name comes back below other
nodes; throughout it is a row that is there.  A filter drops rows and what belongs to them, so it
leaves no encounter behind whose row is gone.

## Main Definitions

* `Charged`: rows have different names, and every owner is one of them.
* `Walk.Owned`: the same of a walk under way, with the owners it has noted.
* `Underway`: the compilations that passes lead to, in any order.

## Main Statements

* `Walks.owned`: walking keeps owners.
* `Charged.filter`: so does filtering.
* `busUses_belong`: so nothing else reaches the pins.
-/

namespace DispatchTables

/-- **Rows have different names, and what belongs to a row belongs to one that is there.** -/
structure Charged (entries : List DispatchEntry) (uses : List BusUse) : Prop where
  distinct : (entries.map (·.name)).Nodup
  owned : ∀ u ∈ uses, ∀ o, u.owner = some o → o ∈ entries.map (·.name)

namespace Walk

/-- An owner, if there is one, has a row. -/
def Owns (w : Walk) (owner : Option String) : Prop :=
  ∀ o, owner = some o → o ∈ w.entries.map (·.name)

/-- What holds of the rows of a walk under way: they and what is charged are as they should be, a
row is there only for a name that has been met, and every owner noted has a row. -/
structure Owned (w : Walk) : Prop extends Charged w.entries w.busUses where
  noted : ∀ name ∈ w.entries.map (·.name), (w.seen.get? name).isSome
  owners : ∀ name owner, w.seen.get? name = some owner → w.Owns owner

variable {w w' : Walk} {owner : Option String}

theorem Owns.mono (h : w.Owns owner)
    (more : w.entries.map (·.name) ⊆ w'.entries.map (·.name)) : w'.Owns owner :=
  fun o is => more (h o is)

/-- A name that is charged to an owner with a row. -/
theorem Owned.recordBus (h : w.Owned) (owns : w.Owns owner) (name : String) (node : NodeRecord) :
    (w.recordBus name owner node).Owned := by
  rw [recordBus_eq]
  refine ⟨⟨h.distinct, ?_⟩, h.noted, h.owners⟩
  intro u mem o is
  rcases List.mem_append.mp mem with old | new
  · exact h.owned u old o is
  · obtain ⟨bus, -, rfl⟩ := Option.map_eq_some_iff.mp (Option.mem_toList.mp new)
    exact owns o is

/-- A name met for the first time is noted with an owner that has a row, its own if it gets one. -/
theorem Owned.register (h : w.Owned) (owns : w.Owns owner) {name : String}
    (unknown : w.seen.get? name = none) (key : String) (node : NodeRecord) (kind : EdgeKind)
    (config : Option Expansion) :
    (w.register key name node kind owner config).2.Owned ∧
      (w.register key name node kind owner config).2.Owns (ownerBelow kind name owner node) ∧
      w.entries.map (·.name) ⊆
        (w.register key name node kind owner config).2.entries.map (·.name) := by
  rw [register_eq]
  have names : (w.entries ++ (rowOf kind key name node config).toList).map (·.name) =
      w.entries.map (·.name) ++ if registers kind node then [name] else [] := by
    rw [List.map_append, rowOf]
    split <;> rfl
  have fresh : name ∉ w.entries.map (·.name) := by
    intro mem
    have noted := h.noted name mem
    rw [unknown] at noted
    cases noted
  have more : w.entries.map (·.name) ⊆
      (w.entries ++ (rowOf kind key name node config).toList).map (·.name) := by
    rw [names]
    exact List.subset_append_left _ _
  have below : ∀ o, ownerBelow kind name owner node = some o →
      o ∈ (w.entries ++ (rowOf kind key name node config).toList).map (·.name) := by
    intro o is
    unfold ownerBelow at is
    split at is
    · rename_i rowed
      rw [names, if_pos rowed, ← Option.some.inj is]
      exact List.mem_append_right _ List.mem_cons_self
    · exact more (owns o is)
  refine ⟨⟨⟨?_, ?_⟩, ?_, ?_⟩, below, more⟩
  · -- the new row has a name that no other has
    show (List.map _ (_ ++ _)).Nodup
    rw [names]
    split
    · refine List.nodup_append.mpr ⟨h.distinct, by simp, ?_⟩
      rintro a mem b only rfl
      exact fresh (List.mem_singleton.mp only ▸ mem)
    · rw [List.append_nil]
      exact h.distinct
  · -- the new encounter is charged to what is below the node
    intro u mem o is
    rcases List.mem_append.mp mem with old | new
    · exact more (h.owned u old o is)
    · obtain ⟨bus, -, rfl⟩ := Option.map_eq_some_iff.mp (Option.mem_toList.mp new)
      exact below o is
  · intro other mem
    show ((w.seen.insert name _).get? other).isSome
    rw [KeyMap.get?_insert]
    split
    · rfl
    · rename_i differs
      refine h.noted other ?_
      rw [names] at mem
      refine (List.mem_append.mp mem).resolve_right ?_
      intro new
      split at new
      · exact differs (List.mem_singleton.mp new).symm
      · cases new
  · intro other noted known
    have known : (w.seen.insert name (ownerBelow kind name owner node)).get? other =
        some noted := known
    rw [KeyMap.get?_insert] at known
    split at known
    · rw [← Option.some.inj known]
      exact below
    · exact (h.owners other noted known).mono more

end Walk

variable {files : FileTree} {path : List String} {legs : List Leg} {w w' : Walk} {trail : Trail}

theorem owner_hardwareLegs {parent : Resolved} {name : String} {owner : Option String}
    {node : NodeRecord} {leg : Leg} (mem : leg ∈ hardwareLegs parent name owner node) :
    leg.owner = owner := by
  obtain ⟨text, -, rfl⟩ := List.mem_map.mp mem
  rfl

theorem owner_edgeLegs {parent : Resolved} {kind : EdgeKind} {owner : Option String}
    {edges : List ComponentEdge} {leg : Leg} (mem : leg ∈ edgeLegs parent kind owner edges) :
    leg.owner = owner := by
  obtain ⟨edge, -, rfl⟩ := List.mem_map.mp mem
  rfl

/-- **Walking keeps owners**, and rows that are there stay. -/
theorem Walks.owned (walks : Walks files path legs w trail w') (owned : w.Owned)
    (owns : ∀ leg ∈ legs, w.Owns leg.owner) :
    w'.Owned ∧ w.entries.map (·.name) ⊆ w'.entries.map (·.name) := by
  induction walks with
  | nil => exact ⟨owned, List.Subset.refl _⟩
  | blocked met _ ih =>
    exact ih ⟨owned.toCharged, owned.noted, owned.owners⟩
      fun leg mem => owns leg (List.mem_cons_of_mem _ mem)
  | @again path leg rest w r reference name node first c trail w' met known _ ih =>
    have moved : Walk.Owned { w with context := c } :=
      ⟨owned.toCharged, owned.noted, owned.owners⟩
    -- the owner noted when the name was first met still has its row
    have charged := moved.recordBus (owned.owners name first known) name node
    have rows : (Walk.recordBus { w with context := c } name first node).entries = w.entries := by
      rw [recordBus_eq]
    have later := ih charged fun leg mem => by
      unfold Walk.Owns
      rw [rows]
      exact owns leg (List.mem_cons_of_mem _ mem)
    rwa [rows] at later
  | @entered path leg rest w r reference name node config c hardware w₂ components w₃ trail w'
      met unknown configured up down _ ihUp ihDown ihRest =>
    have moved : Walk.Owned { w with context := c } :=
      ⟨owned.toCharged, owned.noted, owned.owners⟩
    obtain ⟨registered, below, more⟩ := moved.register (owns leg List.mem_cons_self) unknown r.key
      node leg.kind config
    obtain ⟨owned₂, more₂⟩ := ihUp registered fun leg mem => owner_hardwareLegs mem ▸ below
    rw [edgesBelow_eq] at ihDown
    -- rows only join, so owners above and beside the node keep theirs
    obtain ⟨owned₃, more₃⟩ := ihDown ⟨owned₂.toCharged, owned₂.noted, owned₂.owners⟩
      fun leg mem => owner_edgeLegs mem ▸ below.mono more₂
    have onward : w.entries.map (·.name) ⊆ w₃.entries.map (·.name) :=
      fun name mem => more₃ (more₂ (more mem))
    obtain ⟨owned', more'⟩ := ihRest owned₃ fun leg mem =>
      (owns leg (List.mem_cons_of_mem _ mem)).mono onward
    exact ⟨owned', fun name mem => more' (onward mem)⟩

/-- Every traversal has rows of different names, and charges what is there. -/
theorem charged_of_traverse {c c' : Context} {root : Resolved} {t : Traversal}
    (h : traverse files c root = (.ok t, c')) : Charged t.entries t.busUses := by
  obtain ⟨bot, hardware, w₁, subsystems, w₂, components, w, -, walks, rfl, -⟩ := traverse_walks h
  have unowned : (unwalked bot c).Owns none := fun o is => nomatch is
  have blank : (unwalked bot c).Owned :=
    ⟨⟨List.nodup_nil, by simp [unwalked]⟩, by simp [unwalked], by simp [unwalked]⟩
  obtain ⟨start, owns, -⟩ := blank.register unowned rfl root.key bot.node .subsystem none
  obtain ⟨owned₁, more₁⟩ := walks.hardware.owned start fun leg mem => owner_hardwareLegs mem ▸ owns
  obtain ⟨owned₂, more₂⟩ := walks.subsystems.owned owned₁
    fun leg mem => owner_edgeLegs mem ▸ owns.mono more₁
  obtain ⟨owned, -⟩ := walks.components.owned ⟨owned₂.toCharged, owned₂.noted, owned₂.owners⟩
    fun leg mem => owner_edgeLegs mem ▸ (owns.mono more₁).mono more₂
  exact owned.toCharged

/-! ### Filtering -/

/-- Whether an encounter belongs to no row, or to one of some rows. -/
def belongsTo (entries : List DispatchEntry) (u : BusUse) : Bool :=
  match u.owner with
  | none => true
  | some owner => entries.any fun e => e.name == owner

/-- Of encounters that belong to rows that are there, a filter keeps those whose rows it keeps. -/
theorem busUses_filter {t : Traversal} (charged : Charged t.entries t.busUses)
    (allow : AllowList) :
    (allow.filter t).busUses = t.busUses.filter (belongsTo (allow.filter t).entries) := by
  apply List.filter_congr
  intro u mem
  unfold AllowList.keepsUse belongsTo
  cases owner : u.owner with
  | none => rfl
  | some o =>
    obtain ⟨e, row, named⟩ := List.mem_map.mp (charged.owned u mem o owner)
    rw [Bool.eq_iff_iff, Bool.not_eq_true', List.any_eq_false, List.any_eq_true]
    -- a use is dropped with a row of its owner's name that is refused; rows of one name go together
    constructor
    · intro undropped
      refine ⟨e, List.mem_filter.mpr ⟨row, ?_⟩, beq_iff_eq.mpr named⟩
      apply Decidable.byContradiction
      intro refused
      exact undropped e (List.mem_filter.mpr ⟨row, by simpa using refused⟩) (beq_iff_eq.mpr named)
    · rintro ⟨kept, rowKept, sameKept⟩ gone rowGone sameGone
      have allowed := (List.mem_filter.mp rowKept).2
      have refused := (List.mem_filter.mp rowGone).2
      rw [beq_iff_eq.mp sameGone, ← beq_iff_eq.mp sameKept, allowed] at refused
      cases refused

theorem Charged.filter {t : Traversal} (charged : Charged t.entries t.busUses)
    (allow : AllowList) : Charged (allow.filter t).entries (allow.filter t).busUses where
  distinct := charged.distinct.sublist (List.filter_sublist.map _)
  owned := by
    intro u mem o is
    rw [busUses_filter charged, List.mem_filter] at mem
    have belongs := mem.2
    simp only [belongsTo, is] at belongs
    obtain ⟨e, row, named⟩ := List.any_eq_true.mp belongs
    exact List.mem_map.mpr ⟨e, row, beq_iff_eq.mp named⟩

theorem Charged.belongs {entries : List DispatchEntry} {uses : List BusUse}
    (charged : Charged entries uses) : ∀ u ∈ uses, belongsTo entries u = true := by
  intro u mem
  unfold belongsTo
  cases owner : u.owner with
  | none => rfl
  | some o =>
    obtain ⟨e, row, named⟩ := List.mem_map.mp (charged.owned u mem o owner)
    exact List.any_eq_true.mpr ⟨e, row, beq_iff_eq.mpr named⟩

/-! ### Compilations -/

/-- **The compilations that passes lead to**, in whatever order and whether or not they fail, from
one that has yielded nothing yet. -/
inductive Underway (files : FileTree) (options : CompileOptions) : Compilation → Prop where
  | fresh : ∀ {c}, c.artifacts = {} → Underway files options c
  | pass : ∀ {c} pass, Underway files options c →
      Underway files options (Compilation.finishPass (c.runPass files options pass)).2

/-- One pass leaves a traversal whose rows and encounters fit, if it finds one. -/
theorem runPass_charged {options : CompileOptions} {c : Compilation}
    (h : ∀ t, c.artifacts.traversal = some t → Charged t.entries t.busUses) (pass : Pass) :
    ∀ t, (c.runPass files options pass).2.artifacts.traversal = some t →
      Charged t.entries t.busUses := by
  cases pass with
  | load =>
    unfold Compilation.runPass Compilation.load
    dsimp only
    split <;> exact h
  | resolve =>
    unfold Compilation.runPass Compilation.resolve
    dsimp only
    split <;> exact h
  | traverse =>
    unfold Compilation.runPass Compilation.traverse
    dsimp only
    split
    · exact h
    · split
      · rename_i walked
        intro t found
        obtain rfl := Option.some.inj found
        exact charged_of_traverse walked
      · exact h
  | filter =>
    unfold Compilation.runPass Compilation.filter
    dsimp only
    split
    · exact h
    · split
      · exact h
      · exact h
      · rename_i allow t _ found
        intro filtered kept
        obtain rfl := Option.some.inj kept
        exact (h t found).filter allow
  | allocate =>
    unfold Compilation.runPass Compilation.allocate
    dsimp only
    split
    · exact h
    · split
      · exact h
      · split <;> exact h
  | emit =>
    unfold Compilation.runPass Compilation.emit
    dsimp only
    split
    · exact h
    · split <;> exact h

/-- What the pins are given out to, in any compilation under way, belongs to rows that are there. -/
theorem Underway.charged {options : CompileOptions} {c : Compilation}
    (h : Underway files options c) {t : Traversal} (found : c.artifacts.traversal = some t) :
    Charged t.entries t.busUses := by
  induction h generalizing t with
  | fresh nothing =>
    rw [nothing] at found
    cases found
  | pass pass _ ih => exact runPass_charged (fun t found => ih found) pass t found

/-- A run of passes leads to a compilation under way. -/
theorem Underway.runAll {options : CompileOptions} {c : Compilation}
    (h : Underway files options c) (passes : List Pass) :
    Underway files options (Compilation.runAll files options passes c).2 := by
  induction passes generalizing c with
  | nil => exact h
  | cons pass rest ih =>
    have first := h.pass pass
    unfold Compilation.runAll
    dsimp only
    split
    · exact first
    · exact ih first

/-- **Whatever is charged belongs to a row that is there.**  So it is with what a walk yields and
with what a filter leaves of it: just the rows that are allowed, and just the encounters of these
rows and of none.  In a compilation there is never a traversal to give out pins for of which this is
not true. -/
theorem busUses_belong (files : FileTree) :
    (∀ c root t c', traverse files c root = (.ok t, c') → ∀ allow : AllowList,
      (t.entries.map (·.name)).Nodup ∧
      (∀ u ∈ t.busUses, belongsTo t.entries u = true) ∧
      (allow.filter t).entries = t.entries.filter (fun e => allow.contains e.name) ∧
      (allow.filter t).busUses = t.busUses.filter (belongsTo (allow.filter t).entries)) ∧
    (∀ options c t, Underway files options c → c.artifacts.traversal = some t →
      ∀ u ∈ t.busUses, belongsTo t.entries u = true) := by
  constructor
  · intro c root t c' walked allow
    have charged := charged_of_traverse walked
    exact ⟨charged.distinct, charged.belongs, rfl, busUses_filter charged allow⟩
  · intro options c t underway found
    exact (underway.charged found).belongs

/-- The small bot compiled up to a pass. -/
def smallRun (last : Pass) : Compilation :=
  (Compilation.run noFiles { bot := "bot" } last (.ofStore (storeOf smallDocuments))).2

theorem busUses_belong_smallBot :
    (∃ t c, smallWalk = (.ok t, c) ∧
      t.busUses.map (fun u => (u.device, u.owner)) =
        [("p", none), ("h", some "m"), ("h", some "m")] ∧
      (∀ u ∈ t.busUses, belongsTo t.entries u = true) ∧
      ∀ allow : AllowList, (allow.filter t).busUses =
        t.busUses.filter (belongsTo (allow.filter t).entries)) ∧
    ∃ t, (smallRun .traverse).artifacts.traversal = some t ∧ t.busUses.length = 3 ∧
      ∀ u ∈ t.busUses, belongsTo t.entries u = true := by
  constructor
  · obtain ⟨t, c, walked⟩ := exists_smallWalk
    have uses : (smallWalk.1.toOption.map fun t => t.busUses.map fun u => (u.device, u.owner)) =
        some [("p", none), ("h", some "m"), ("h", some "m")] := by decide +kernel
    rw [walked] at uses
    have belong := (busUses_belong noFiles).1 _ _ t c walked
    exact ⟨t, c, walked, Option.some.inj uses, (belong ⟨"", []⟩).2.1,
      fun allow => (belong allow).2.2.2⟩
  · have underway : Underway noFiles { bot := "bot" } (smallRun .traverse) :=
      (Underway.fresh rfl).runAll _
    have uses : ((smallRun .traverse).artifacts.traversal.map fun t => t.busUses.length) =
        some 3 := by decide +kernel
    obtain ⟨t, found, length⟩ := Option.map_eq_some_iff.mp uses
    exact ⟨t, found, length, (busUses_belong noFiles).2 _ _ t underway found⟩

end DispatchTables
