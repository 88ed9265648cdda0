import DispatchTables.Proofs.Traversal.Trail
import Mathlib.Data.List.Basic

/-!
# What a trail leaves

The end of an edge leaves a warning or an encounter.  So a trail tells what a walk along it does to
its state: what it reports of edges, which buses it charges, which names it notes with which owner,
and whether it hands on the family's components.

## Main Definitions

* `Trail.encounters`, `Trail.uses`, `Trail.warnings`: what a trail leaves, in walk order.
* `Encounter.ownerOf?`: the owner that a name has been met with first.
* `Trail.entersSubsystem`: whether the family's components have found a place on a trail.
* `Tells`: what becomes of a context on a walk.

## Main Statements

* `Walks.legs_eq`: the edges of a trail are those that were to be followed.
* `Walks.family_eq`: the family waits until a subsystem is entered.
* `Walks.seen_eq`: what a walk has noted of a name.
* `Walks.tells`, `Walks.busUses_eq`: the walk reports and charges what its trail says, and no more.
-/

namespace DispatchTables

/-! ### What there is at the ends of edges -/

namespace Encounter

/-- What the bus of a node is charged, if it has one. -/
def use? (e : Encounter) : Option BusUse := useOf e.name e.owner e.node

/-- The edges of a node: to its hardware, then to some components of a family and its own. -/
def legs (e : Encounter) (family : List ComponentEdge) : List Leg :=
  hardwareLegs e.source e.name e.owner e.node ++
    edgeLegs e.source .component e.owner (family ++ e.node.childEdges)

/-- The name and the node are those that the document says. -/
structure Reads (e : Encounter) : Prop where
  name : e.source.name = some e.name
  node : nodeOf? e.source = some e.node

/-- The owner that a name has been met with first, if it has been met. -/
def ownerOf? (met : List Encounter) (name : String) : Option (Option String) :=
  (met.find? (·.name == name)).map (·.owner)

theorem ownerOf?_append (met more : List Encounter) (name : String) :
    ownerOf? (met ++ more) name = (ownerOf? met name).or (ownerOf? more name) := by
  rw [ownerOf?, List.find?_append, Option.map_or]
  rfl

theorem ownerOf?_cons (e : Encounter) (met : List Encounter) (name : String) :
    ownerOf? (e :: met) name = if e.name = name then some e.owner else ownerOf? met name := by
  unfold ownerOf?
  rw [List.find?_cons]
  by_cases same : e.name = name
  · rw [beq_iff_eq.mpr same, if_pos same]
    rfl
  · rw [beq_eq_false_iff_ne.mpr same, if_neg same]

end Encounter

namespace Trace

/-- The encounter that an edge ends in, if it does. -/
def encounter? : Trace → Option Encounter
  | blocked _ => none
  | again e | entered e => some e

/-- Whether a node is entered. -/
def isEntered : Trace → Bool
  | blocked _ | again _ => false
  | entered _ => true

/-- The path below the end of an edge. -/
def pathBelow (path : List String) : Trace → List String
  | blocked _ | again _ => path
  | entered e => path ++ [e.source.key]

/-- The edges below the end of an edge: those of the node that is entered there. -/
def legsBelow (family : List ComponentEdge) : Trace → List Leg
  | blocked _ | again _ => []
  | entered e => e.legs family

/-- What is reported at the end of an edge. -/
def warnings (path : List String) (leg : Leg) : Trace → List Diagnostic
  | blocked o => [o.warning path leg]
  | again _ | entered _ => []

end Trace

namespace Trail

/-- The encounters of a trail, in walk order. -/
def encounters : Trail → List Encounter
  | nil => []
  | step _ trace below rest =>
    trace.encounter?.toList ++ (below.encounters ++ rest.encounters)

/-- What is charged on a trail, in walk order: one use for each encounter that has a bus. -/
def uses (trail : Trail) : List BusUse := trail.encounters.filterMap Encounter.use?

/-- What is reported on a trail, in walk order. -/
def warnings (path : List String) : Trail → List Diagnostic
  | nil => []
  | step leg trace below rest =>
    trace.warnings path leg ++ (below.warnings (trace.pathBelow path) ++ rest.warnings path)

/-- Whether one of the edges leads to a subsystem that is entered. -/
def entersSubsystem : Trail → Bool
  | nil => false
  | step leg trace _ rest =>
    (leg.kind == .subsystem && trace.isEntered) || rest.entersSubsystem

variable {trail : Trail}

theorem legs_append (t u : Trail) : (t.append u).legs = t.legs ++ u.legs := by
  induction t with
  | nil => rfl
  | step leg trace below rest _ ih => exact congrArg (leg :: ·) ih

theorem encounters_append (t u : Trail) :
    (t.append u).encounters = t.encounters ++ u.encounters := by
  induction t with
  | nil => rfl
  | step leg trace below rest _ ih =>
    simp only [append, encounters, ih, List.append_assoc]

theorem warnings_append (path : List String) (t u : Trail) :
    (t.append u).warnings path = t.warnings path ++ u.warnings path := by
  induction t with
  | nil => rfl
  | step leg trace below rest _ ih =>
    simp only [append, warnings, ih, List.append_assoc]

theorem uses_append (t u : Trail) : (t.append u).uses = t.uses ++ u.uses := by
  rw [uses, encounters_append, List.filterMap_append]
  rfl

theorem uses_step (leg : Leg) (trace : Trace) (below rest : Trail) :
    (step leg trace below rest).uses =
      (trace.encounter?.bind Encounter.use?).toList ++ (below.uses ++ rest.uses) := by
  have one : trace.encounter?.toList.filterMap Encounter.use? =
      (trace.encounter?.bind Encounter.use?).toList := by
    cases trace.encounter? with
    | none => rfl
    | some e => cases used : e.use? <;> simp [used]
  rw [uses, encounters, List.filterMap_append, List.filterMap_append, one]
  rfl

/-- Along edges that lead to no subsystem, none is entered. -/
theorem entersSubsystem_eq_false (h : ∀ leg ∈ trail.legs, leg.kind ≠ .subsystem) :
    trail.entersSubsystem = false := by
  induction trail with
  | nil => rfl
  | step leg trace below rest _ ih =>
    have other : (leg.kind == .subsystem) = false :=
      beq_eq_false_iff_ne.mpr (h leg List.mem_cons_self)
    rw [entersSubsystem, other, ih fun leg mem => h leg (List.mem_cons_of_mem _ mem)]
    rfl

end Trail

variable {files : FileTree} {path : List String} {legs : List Leg} {w w' : Walk} {trail : Trail}
  {c c' c'' : Context}

/-! ### What a walk does -/

/-- The edges of a trail are those that were to be followed. -/
theorem Walks.legs_eq (walks : Walks files path legs w trail w') : trail.legs = legs := by
  induction walks with
  | nil => rfl
  | blocked _ _ ih => exact congrArg _ ih
  | again _ _ _ ih => exact congrArg _ ih
  | entered _ _ _ _ _ _ _ _ ih => exact congrArg _ ih

theorem kind_hardwareLegs {parent : Resolved} {name : String} {owner : Option String}
    {node : NodeRecord} {leg : Leg} (mem : leg ∈ hardwareLegs parent name owner node) :
    leg.kind = .hardware := by
  obtain ⟨text, -, rfl⟩ := List.mem_map.mp mem
  rfl

theorem kind_edgeLegs {parent : Resolved} {kind : EdgeKind} {owner : Option String}
    {edges : List ComponentEdge} {leg : Leg} (mem : leg ∈ edgeLegs parent kind owner edges) :
    leg.kind = kind := by
  obtain ⟨edge, -, rfl⟩ := List.mem_map.mp mem
  rfl

theorem Walks.entersSubsystem_eq_false (walks : Walks files path legs w trail w')
    (h : ∀ leg ∈ legs, leg.kind ≠ .subsystem) : trail.entersSubsystem = false :=
  Trail.entersSubsystem_eq_false (walks.legs_eq ▸ h)

theorem hardware_not_subsystem {parent : Resolved} {name : String} {owner : Option String}
    {node : NodeRecord} : ∀ leg ∈ hardwareLegs parent name owner node, leg.kind ≠ .subsystem := by
  intro leg mem
  rw [kind_hardwareLegs mem]
  decide

theorem component_not_subsystem {parent : Resolved} {owner : Option String}
    {edges : List ComponentEdge} :
    ∀ leg ∈ edgeLegs parent .component owner edges, leg.kind ≠ .subsystem := by
  intro leg mem
  rw [kind_edgeLegs mem]
  decide

/-- The family waits until a subsystem is entered. -/
theorem Walks.family_eq (walks : Walks files path legs w trail w') :
    w'.family = if trail.entersSubsystem then none else w.family := by
  induction walks with
  | nil => rfl
  | blocked _ _ ih =>
    rw [ih, Trail.entersSubsystem]
    simp only [Trace.isEntered, Bool.and_false, Bool.false_or]
    rfl
  | again _ _ _ ih =>
    rw [ih, recordBus_eq, Trail.entersSubsystem]
    simp only [Trace.isEntered, Bool.and_false, Bool.false_or]
  | @entered path leg rest w r reference name node config c hardware w₂ components w₃ trail w'
      met unknown configured up down _ ihUp ihDown ihRest =>
    rw [up.entersSubsystem_eq_false hardware_not_subsystem, register_eq] at ihUp
    rw [down.entersSubsystem_eq_false component_not_subsystem, edgesBelow_eq] at ihDown
    have waits : w₃.family = if leg.kind = .subsystem then none else w.family :=
      ihDown.trans (by rw [show w₂.family = w.family from ihUp]; rfl)
    rw [ihRest, waits, Trail.entersSubsystem]
    by_cases sub : leg.kind = .subsystem
    · simp [sub, Trace.isEntered]
    · simp [sub, Trace.isEntered]

/-- Along edges that lead to no subsystem it waits on. -/
theorem Walks.family_kept (walks : Walks files path legs w trail w')
    (h : ∀ leg ∈ legs, leg.kind ≠ .subsystem) : w'.family = w.family := by
  rw [walks.family_eq, walks.entersSubsystem_eq_false h]
  rfl

theorem register_family (w : Walk) (key name : String) (node : NodeRecord) (kind : EdgeKind)
    (owner : Option String) (config : Option Expansion) :
    (w.register key name node kind owner config).2.family = w.family := by
  rw [register_eq]

theorem edgesBelow_family (kind : EdgeKind) (node : NodeRecord) (w : Walk) :
    (edgesBelow kind node w).2.family = if kind = .subsystem then none else w.family := by
  rw [edgesBelow_eq]

/-- A name that is registered is noted with the owner of what is below it. -/
theorem register_seen (w : Walk) (key name : String) (node : NodeRecord) (kind : EdgeKind)
    (owner : Option String) (config : Option Expansion) (other : String) :
    (w.register key name node kind owner config).2.seen.get? other =
      if name = other then some (ownerBelow kind name owner node) else w.seen.get? other := by
  rw [register_eq]
  exact KeyMap.get?_insert ..

/-- The owners that names have been met with are those from before and those on the trail. -/
theorem Walks.seen_eq (walks : Walks files path legs w trail w') (name : String) :
    w'.seen.get? name = (w.seen.get? name).or (Encounter.ownerOf? trail.encounters name) := by
  induction walks with
  | nil => exact Option.or_none.symm
  | blocked _ _ ih => exact ih
  | @again path leg rest w r reference other node first c trail w' met known _ ih =>
    rw [ih, recordBus_eq, Trail.encounters]
    show (w.seen.get? name).or _ = (w.seen.get? name).or (Encounter.ownerOf? (_ :: _) name)
    rw [Encounter.ownerOf?_cons]
    split
    · rename_i same
      rw [← same, known]
      rfl
    · rfl
  | @entered path leg rest w r reference other node config c hardware w₂ components w₃ trail w'
      met unknown configured up down _ ihUp ihDown ihRest =>
    rw [edgesBelow_eq] at ihDown
    rw [ihRest, ihDown, ihUp, register_seen, Trail.encounters, Trail.encounters_append,
      Encounter.ownerOf?_append, Encounter.ownerOf?_append, Encounter.ownerOf?_append,
      Trace.encounter?, Option.toList_some, Encounter.ownerOf?_cons]
    split
    · rename_i same
      rw [← same, unknown]
      rfl
    · simp only [Option.or_assoc]
      rfl

/-- **Each encounter is charged, in walk order**, whether its node is entered or not. -/
theorem Walks.busUses_eq (walks : Walks files path legs w trail w') :
    w'.busUses = w.busUses ++ trail.uses := by
  induction walks with
  | nil => exact (List.append_nil _).symm
  | blocked _ _ ih =>
    rw [ih, Trail.uses_step]
    rfl
  | again _ _ _ ih =>
    rw [ih, recordBus_eq, Trail.uses_step, List.append_assoc]
    rfl
  | @entered path leg rest w r reference name node config c hardware w₂ components w₃ trail w'
      met unknown configured up down _ ihUp ihDown ihRest =>
    rw [register_eq] at ihUp
    rw [edgesBelow_eq] at ihDown
    calc w'.busUses
        = w₂.busUses ++ components.uses ++ trail.uses := ihRest.trans (congrArg (· ++ _) ihDown)
      _ = (w.busUses ++ (useOf name _ node).toList ++ hardware.uses) ++ components.uses ++
            trail.uses := congrArg (· ++ _ ++ _) ihUp
      _ = _ := by
        rw [Trail.uses_step, Trail.uses_append]
        simp only [List.append_assoc]
        rfl

/-! ### What is reported -/

/-- Whether a diagnostic is one that a walk gives of an edge. -/
def isEdgeWarning (d : Diagnostic) : Bool :=
  d.code == some .componentCycle || d.code == some .componentSkipped

/-- What becomes of a context on a walk: files are read and resolved, and of edges just some
warnings are reported. -/
structure Tells (files : FileTree) (ws : List Diagnostic) (c c' : Context) : Prop where
  settled : Settled c'
  keyed : Keyed c'
  grown : Store.Grows files c.store c'.store
  said : c'.diagnostics.filter isEdgeWarning = c.diagnostics.filter isEdgeWarning ++ ws

theorem Tells.refl (settled : Settled c) (keyed : Keyed c) : Tells files [] c c :=
  ⟨settled, keyed, Store.Grows.refl files _, (List.append_nil _).symm⟩

theorem Tells.trans {ws ws' : List Diagnostic} (h₁ : Tells files ws c c')
    (h₂ : Tells files ws' c' c'') : Tells files (ws ++ ws') c c'' :=
  ⟨h₂.settled, h₂.keyed, h₁.grown.trans h₂.grown, by
    rw [h₂.said, h₁.said, List.append_assoc]⟩

theorem Diagnostic.IsLoading.not_edgeWarning {d : Diagnostic} (h : d.IsLoading) :
    isEdgeWarning d = false := by
  obtain ⟨code, mem, is⟩ := h
  have others : ∀ code ∈ loadingCodes, code ≠ .componentCycle ∧ code ≠ .componentSkipped := by
    decide
  simp only [isEdgeWarning, is, Bool.or_eq_false_iff, beq_eq_false_iff_ne, ne_eq,
    Option.some.injEq]
  exact others code mem

/-- Looking says nothing of edges. -/
theorem look_tells {parent : Resolved} {edge : ComponentEdge} {target : Target}
    (settled : Settled c) (keyed : Keyed c)
    (looked : look files parent edge c = .ok (target, c')) : Tells files [] c c' := by
  have extended := look_extends settled looked
  obtain ⟨more, reported, loading⟩ := extended.reported
  refine ⟨extended.settled, look_keyed keyed looked, extended.grown, ?_⟩
  have silent : more.filter isEdgeWarning = [] := by
    rw [List.filter_eq_nil_iff]
    intro w mem
    rw [(loading w mem).not_edgeWarning]
    exact Bool.false_ne_true
  rw [reported, List.filter_append, silent]

theorem isEdgeWarning_warning (path : List String) (leg : Leg) (o : Obstacle) :
    isEdgeWarning (o.warning path leg) = true := by
  cases o <;> rfl

/-- An obstacle is reported by one warning. -/
theorem report_tells (h : Tells files [] c c') (path : List String) (leg : Leg) (o : Obstacle) :
    Tells files [o.warning path leg] c (c'.report (o.warning path leg)) := by
  refine ⟨⟨h.settled.store, h.settled.resolver⟩, h.keyed, h.grown, ?_⟩
  have said : c'.diagnostics.filter isEdgeWarning = c.diagnostics.filter isEdgeWarning := by
    rw [h.said, List.append_nil]
  show (c'.diagnostics ++ [o.warning path leg]).filter isEdgeWarning = _
  rw [List.filter_append, said, List.filter_cons_of_pos (isEdgeWarning_warning path leg o)]
  rfl

/-- **A walk reports, of edges, what its trail says**, and no more. -/
theorem Walks.tells (walks : Walks files path legs w trail w') (settled : Settled w.context)
    (keyed : Keyed w.context) : Tells files (trail.warnings path) w.context w'.context := by
  induction walks with
  | nil => exact Tells.refl settled keyed
  | @blocked path leg _ w o c _ w' met _ ih =>
    obtain ⟨target, looked, -⟩ := meet_eq_ok met
    have first := report_tells (look_tells settled keyed looked) path leg o
    exact first.trans (ih first.settled first.keyed)
  | @again path leg rest w r reference name node first c trail w' met known _ ih =>
    obtain ⟨target, looked, -⟩ := meet_eq_ok met
    have here := look_tells settled keyed looked
    rw [recordBus_eq] at ih
    exact here.trans (ih here.settled here.keyed)
  | @entered path leg rest w r reference name node config c hardware w₂ components w₃ trail w'
      met unknown configured up down _ ihUp ihDown ihRest =>
    obtain ⟨target, looked, -⟩ := meet_eq_ok met
    have here := look_tells settled keyed looked
    rw [register_eq] at ihUp
    have above := ihUp here.settled here.keyed
    rw [edgesBelow_eq] at ihDown
    have below := ihDown above.settled above.keyed
    have later := ihRest below.settled below.keyed
    rw [Trail.warnings, Trail.warnings_append]
    exact here.trans ((above.trans below).trans later)

/-! ### Before the first edge of a bot -/

theorem unwalked_family (bot : BotRecord) (c : Context) :
    (unwalked bot c).family.getD [] = bot.familyComponents := by
  unfold unwalked
  cases bot.familyComponents <;> rfl

theorem botStart_family (root : Resolved) (bot : BotRecord) (c : Context) :
    (botStart root bot c).family.getD [] = bot.familyComponents := by
  unfold botStart
  rw [register_eq]
  exact unwalked_family bot c

theorem botStart_context (root : Resolved) (bot : BotRecord) (c : Context) :
    (botStart root bot c).context = c := by
  unfold botStart
  rw [register_eq]
  rfl

theorem botStart_busUses (root : Resolved) (bot : BotRecord) (c : Context) :
    (botStart root bot c).busUses =
      (useOf (rootName root) (botOwner root bot) bot.node).toList := by
  unfold botStart
  rw [register_eq]
  rfl

end DispatchTables
