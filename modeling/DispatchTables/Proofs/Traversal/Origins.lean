import DispatchTables.Proofs.Lists.Places
import DispatchTables.Proofs.Traversal.Tale

/-!
# Where rows come from

Every row of a traversal is that of one node that was entered: the node's name, its functions or
those named after it, and the configuration that its templates give for some reference.  The rows
stand in the order in which the nodes were entered.

## Main Definitions

* `Followed.Yields`: the row that an edge has led to.
* `Followed.declared`: the functions that are declared where an edge has led to.

## Main Statements

* `Walks.rows`: what a walk adds to the rows.
* `Tale.rows`: the rows of a traversal, one for each edge that has led to one.
* `functions_of_yields`: the functions of a row are declared or named after it.
-/

namespace DispatchTables

variable {files : FileTree} {path : List String} {legs : List Leg} {w w' : Walk} {trail : Trail}
  {c c' : Context} {root : Resolved} {bot : BotRecord} {t : Traversal} {row : DispatchEntry}

/-- **The row that an edge has led to**: it is of the node that was entered there, and its
configuration, if there is one, is an expansion of the node's templates. -/
inductive Followed.Yields : Followed → DispatchEntry → Prop where
  | row {leg : Leg} {e : Encounter} {config : Option Expansion} :
      Walk.registers leg.kind e.node = true →
      (∀ x ∈ config, ∃ reference, expand e.name e.node.templates reference = .ok x) →
      Yields ⟨leg, .entered e⟩ (Walk.entryOf e.source.key e.name e.node config)

/-- The edges that have led to rows. -/
def Trail.rowed (trail : Trail) : List Followed := trail.followed.filter (·.row?.isSome)

theorem Trail.rowed_append (t u : Trail) : (t.append u).rowed = t.rowed ++ u.rowed := by
  rw [rowed, followed_append, List.filter_append]
  rfl

theorem Trail.rowed_step (leg : Leg) (trace : Trace) (below rest : Trail) :
    (step leg trace below rest).rowed =
      [(⟨leg, trace⟩ : Followed)].filter (·.row?.isSome) ++ (below.rowed ++ rest.rowed) := by
  rw [rowed, followed, ← List.singleton_append, List.filter_append, List.filter_append]
  rfl

theorem expand_of_configOf {name : String} {node : NodeRecord} {reference : Reference}
    {config : Option Expansion} (h : configOf name node reference = .ok config) :
    ∀ x ∈ config, ∃ reference, expand name node.templates reference = .ok x := by
  intro x mem
  unfold configOf at h
  split at h
  · cases expanded : expand name node.templates reference with
    | error e =>
      rw [expanded] at h
      cases h
    | ok other =>
      rw [expanded] at h
      cases h
      cases mem
      exact ⟨reference, expanded⟩
  · cases h
    cases mem

/-- What entering a node adds to the rows. -/
theorem rows_entered (leg : Leg) (e : Encounter) {config : Option Expansion}
    (expands : ∀ x ∈ config, ∃ reference, expand e.name e.node.templates reference = .ok x) :
    List.Forall₂ Followed.Yields
      ([(⟨leg, .entered e⟩ : Followed)].filter (·.row?.isSome))
      (rowOf leg.kind e.source.key e.name e.node config).toList := by
  unfold rowOf
  cases rowed : Walk.registers leg.kind e.node with
  | true =>
    have kept : Followed.row? ⟨leg, .entered e⟩ = some e.name := if_pos rowed
    rw [List.filter_cons_of_pos (by rw [kept]; rfl), List.filter_nil]
    exact .cons (.row rowed expands) .nil
  | false =>
    have passed : Followed.row? ⟨leg, .entered e⟩ = none := if_neg (by simp [rowed])
    rw [List.filter_cons_of_neg (by rw [passed]; decide), List.filter_nil]
    exact .nil

/-- **What a walk adds to the rows**: one row for each edge that has led to one, in their order. -/
theorem Walks.rows (walks : Walks files path legs w trail w') :
    ∃ rows, w'.entries = w.entries ++ rows ∧
      List.Forall₂ Followed.Yields trail.rowed rows := by
  induction walks with
  | nil => exact ⟨[], (List.append_nil _).symm, .nil⟩
  | blocked met _ ih => exact ih
  | again met known _ ih =>
    obtain ⟨rows, eq, yields⟩ := ih
    rw [recordBus_eq] at eq
    exact ⟨rows, eq, yields⟩
  | @entered path leg rest w r reference name node config c hardware w₂ components w₃ trail w'
      met unknown configured up down _ ihUp ihDown ihRest =>
    obtain ⟨above, eqUp, yieldsUp⟩ := ihUp
    obtain ⟨below, eqDown, yieldsDown⟩ := ihDown
    obtain ⟨later, eqRest, yieldsRest⟩ := ihRest
    rw [register_eq] at eqUp
    rw [edgesBelow_eq] at eqDown
    -- the row of the node comes ahead of those of its hardware and of its components
    refine ⟨(rowOf leg.kind r.key name node config).toList ++ (above ++ (below ++ later)), ?_, ?_⟩
    · rw [eqRest, eqDown, eqUp]
      simp only [List.append_assoc]
    · have own := rows_entered leg ⟨r, name, node, ownerBelow leg.kind name leg.owner node⟩
        (expand_of_configOf configured)
      rw [Trail.rowed_step, Trail.rowed_append, List.append_assoc]
      exact List.rel_append own (List.rel_append yieldsUp (List.rel_append yieldsDown yieldsRest))

/-- **The rows of a traversal**: one for each edge that has led to one, in their order. -/
theorem Tale.rows (tale : Tale files root bot c c' t) :
    List.Forall₂ Followed.Yields tale.trail.rowed t.entries := by
  obtain ⟨above, eqHardware, yieldsHardware⟩ := tale.walks.hardware.rows
  obtain ⟨middle, eqSubsystems, yieldsSubsystems⟩ := tale.walks.subsystems.rows
  obtain ⟨below, eqComponents, yieldsComponents⟩ := tale.walks.components.rows
  have own := rows_entered (botLeg root) (botEncounter root bot)
    (fun x (mem : x ∈ none) => Option.not_mem_none x mem |>.elim)
  have start : (botStart root bot c).entries =
      (rowOf .subsystem root.key (rootName root) bot.node none).toList := by
    rw [botStart, register_eq]
    rfl
  have all : t.entries = (rowOf .subsystem root.key (rootName root) bot.node none).toList ++
      (above ++ (middle ++ below)) := by
    rw [tale.entries_eq, eqComponents, eqSubsystems, eqHardware, start]
    simp only [List.append_assoc]
  have parts : tale.trail.rowed = [botStep root bot].filter (·.row?.isSome) ++
      (tale.hardware.rowed ++ (tale.subsystems.rowed ++ tale.components.rowed)) := by
    rw [Tale.trail, BotTrail.whole, Trail.rowed_step, Trail.rowed_append, Trail.rowed_append]
    exact congrArg _ (List.append_nil _)
  rw [all, parts]
  exact List.rel_append own
    (List.rel_append yieldsHardware (List.rel_append yieldsSubsystems yieldsComponents))

/-- Every row of a traversal has an edge that has led to it. -/
theorem Tale.exists_yields (tale : Tale files root bot c c' t) (mem : row ∈ t.entries) :
    ∃ s ∈ tale.trail.rowed, s.Yields row :=
  exists_of_forall₂ tale.rows.flip mem

/-- Every edge that has led to a row has one. -/
theorem Tale.exists_row (tale : Tale files root bot c c' t) {s : Followed}
    (mem : s ∈ tale.trail.rowed) : ∃ row ∈ t.entries, s.Yields row :=
  exists_of_forall₂ tale.rows mem

/-! ### Functions -/

/-- The functions that a node declares. -/
def NodeRecord.declared (node : NodeRecord) : List String :=
  let software := node.software.getD {}
  software.initFunction.toList ++ software.actFunction.toList

/-- The functions that are declared by the node that an edge has entered. -/
def Followed.declared (s : Followed) : List String :=
  match s.trace with
  | .entered e => e.node.declared
  | .blocked _ | .again _ => []

/-- **The functions of a row** are those that its node declares, or named after it. -/
theorem functions_of_yields {s : Followed} (yields : s.Yields row) :
    (row.initFunction ∈ s.declared ∨ row.initFunction = cIdentifier row.name ++ "_init") ∧
      (row.actFunction ∈ s.declared ∨ row.actFunction = cIdentifier row.name ++ "_act") ∧
      ∀ f ∈ s.declared, f = row.initFunction ∨ f = row.actFunction := by
  cases yields with
  | @row leg e config _ expands =>
    dsimp only [Followed.declared, NodeRecord.declared, Walk.entryOf]
    generalize e.node.software.getD {} = software
    obtain ⟨init, act⟩ := software
    cases init <;> cases act <;> simp

end DispatchTables
