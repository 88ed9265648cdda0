import DispatchTables.Proofs.Traversal.Trail

/-!
# Walks that remember nothing

The plainest walk over the graph below a bot goes into every node each time it gets there, and turns
back only where the path would close.  It keeps no names; what it has met is just written down.

## Main Definitions

* `Sighting`: one time that a node is met.
* `roam`, `roamBot`: the walk along some edges, and from a bot.
* `firstSightings`, `rowsOf`: what has been met first under each name, and the rows of that.

## Main Statements

* `roam_mono`: once a walk has ended, more steps make no difference.
* `Roams`: the walk along edges by how the first one ends.

## Design Notes

When the family's components are put in is a parameter, since that is the one thing which depends on
what has been met before.
-/

namespace DispatchTables

/-- One time that a node is met: how it is reached, and its document, name and record. -/
structure Sighting where
  kind : EdgeKind
  source : Resolved
  name : String
  node : NodeRecord

/-- The state of a walk that remembers nothing: the family's components while they wait, and what
has been met, in order. -/
structure Roaming where
  context : Context
  family : List ComponentEdge
  log : List Sighting

/-- When the family's components go below a subsystem, given what has been met before and its
name. -/
abbrev FamilyRule := List Sighting → String → Bool

/-- They go below the first subsystem. -/
def firstSubsystem : FamilyRule := fun _ _ => true

/-- They go below the first subsystem of a name that has not been met. -/
def firstNewSubsystem : FamilyRule := fun log name => !log.any fun s => s.name == name

namespace Roaming

/-- A node is met in a context. -/
def sight (n : Roaming) (c : Context) (s : Sighting) : Roaming :=
  { n with context := c, log := n.log ++ [s] }

/-- The family's components, if they go here. -/
def due (n : Roaming) (here : Bool) : List ComponentEdge := if here then n.family else []

/-- The state once the family's components have gone here, if they do. -/
def deal (n : Roaming) (here : Bool) : Roaming :=
  { n with family := if here then [] else n.family }

end Roaming

/-- **The walk that remembers nothing**, along some edges, in so many steps. -/
def roam (files : FileTree) (rule : FamilyRule) :
    Nat → List String → List Leg → Roaming → Walking Roaming
  | 0, _, _, n => .error (.outOfSteps, n.context)
  | _ + 1, _, [], n => .ok n
  | steps + 1, path, leg :: rest, n =>
    match meet files path leg n.context with
    | .error stop => .error stop
    | .ok (.obstacle _, c) => roam files rule steps path rest { n with context := c }
    | .ok (.node r _ name node, c) => do
      let owner := ownerBelow leg.kind name leg.owner node
      let here := leg.kind == .subsystem && rule n.log name
      let n ← roam files rule steps (path ++ [r.key]) (hardwareLegs r name owner node)
        (n.sight c ⟨leg.kind, r, name, node⟩)
      let n ← roam files rule steps (path ++ [r.key])
        (edgeLegs r .component owner (n.due here ++ node.childEdges)) (n.deal here)
      roam files rule steps path rest n

/-- The walk from a bot: its hardware, its subsystems, then the family's components if they still
wait, and its own. -/
def roamBot (files : FileTree) (rule : FamilyRule) (steps : Nat) (c : Context) (root : Resolved)
    (bot : BotRecord) : Walking Roaming := do
  let owner := botOwner root bot
  let name := rootName root
  let n : Roaming := ⟨c, bot.familyComponents, [⟨.subsystem, root, name, bot.node⟩]⟩
  let n ← roam files rule steps [root.key] (hardwareLegs root name owner bot.node) n
  let n ← roam files rule steps [root.key] (edgeLegs root .subsystem owner bot.subsystems) n
  roam files rule steps [root.key]
    (edgeLegs root .component owner (n.family ++ bot.node.childEdges)) { n with family := [] }

/-! ### First sightings -/

/-- What has been met first under each name. -/
def firstSightings : List Sighting → List Sighting
  | [] => []
  | s :: rest => s :: (firstSightings rest).filter fun later => later.name != s.name

/-- Whether a sighting gets a row: a component does, and whatever brings software. -/
def Sighting.registers (s : Sighting) : Bool := Walk.registers s.kind s.node

/-- The name and the document of a row. -/
def Sighting.row (s : Sighting) : String × String := (s.name, s.source.key)

/-- The rows of what has been met: the first that gets one under each name. -/
def rowsOf (log : List Sighting) : List (String × String) :=
  (firstSightings (log.filter Sighting.registers)).map Sighting.row

theorem mem_of_mem_firstSightings {s : Sighting} {log : List Sighting}
    (h : s ∈ firstSightings log) : s ∈ log := by
  induction log with
  | nil => cases h
  | cons first rest ih =>
    rcases List.mem_cons.mp h with rfl | later
    · exact List.mem_cons_self
    · exact List.mem_cons_of_mem _ (ih (List.mem_filter.mp later).1)

/-- What is met later counts as far as its name has not been met. -/
theorem firstSightings_append (log later : List Sighting) :
    firstSightings (log ++ later) = firstSightings log ++
      (firstSightings later).filter fun s => !log.any fun old => old.name == s.name := by
  induction log with
  | nil => exact (List.filter_eq_self.mpr fun _ _ => rfl).symm
  | cons first rest ih =>
    have named : ∀ s : Sighting, (!(first :: rest).any fun old => old.name == s.name) =
        ((!rest.any fun old => old.name == s.name) && s.name != first.name) := by
      intro s
      rw [List.any_cons, Bool.not_or, Bool.and_comm, bne, Bool.beq_comm]
    rw [List.cons_append, firstSightings, ih, List.filter_append, List.filter_filter,
      firstSightings, List.cons_append]
    simp only [named, Bool.and_comm]

/-- Names that have been met add nothing. -/
theorem firstSightings_append_met {log later : List Sighting}
    (met : ∀ s ∈ later, ∃ old ∈ log, old.name = s.name) :
    firstSightings (log ++ later) = firstSightings log := by
  have nothing : (firstSightings later).filter
      (fun s => !log.any fun old => old.name == s.name) = [] := by
    rw [List.filter_eq_nil_iff]
    intro s mem
    obtain ⟨old, known, same⟩ := met s (mem_of_mem_firstSightings mem)
    rw [Bool.not_eq_true', Bool.not_eq_false, List.any_eq_true]
    exact ⟨old, known, beq_iff_eq.mpr same⟩
  rw [firstSightings_append, nothing, List.append_nil]

/-- A new name adds its sighting. -/
theorem firstSightings_append_new {log : List Sighting} {s : Sighting}
    (new : ∀ old ∈ log, old.name ≠ s.name) :
    firstSightings (log ++ [s]) = firstSightings log ++ [s] := by
  have kept : ∀ t ∈ [s], (!log.any fun old => old.name == t.name) = true := by
    intro t mem
    rw [List.mem_singleton.mp mem, Bool.not_eq_true', List.any_eq_false]
    intro old known
    rw [beq_iff_eq]
    exact new old known
  rw [firstSightings_append]
  exact congrArg (firstSightings log ++ ·) (List.filter_eq_self.mpr kept)

/-- When sightings under one name agree on a property, it may be asked of the first ones alone. -/
theorem firstSightings_filter {p : Sighting → Bool} {log : List Sighting}
    (agree : ∀ s ∈ log, ∀ s' ∈ log, s.name = s'.name → p s = p s') :
    firstSightings (log.filter p) = (firstSightings log).filter p := by
  induction log with
  | nil => rfl
  | cons first rest ih =>
    have below := ih fun s mem s' mem' =>
      agree s (List.mem_cons_of_mem _ mem) s' (List.mem_cons_of_mem _ mem')
    rw [firstSightings]
    by_cases has : p first = true
    · rw [List.filter_cons_of_pos has, List.filter_cons_of_pos has, firstSightings, below,
        List.filter_filter, List.filter_filter]
      simp only [Bool.and_comm]
    · rw [List.filter_cons_of_neg has, List.filter_cons_of_neg has, below, List.filter_filter]
      apply List.filter_congr
      intro s mem
      -- what is dropped for its name would be dropped for the property
      by_cases same : s.name = first.name
      · have alike := agree s (List.mem_cons_of_mem _ (mem_of_mem_firstSightings mem)) first
          List.mem_cons_self same
        rw [alike, Bool.eq_false_iff.mpr has]
        rfl
      · rw [bne_iff_ne.mpr same, Bool.and_true]

/-! ### Enough steps -/

variable {files : FileTree} {rule : FamilyRule} {steps more : Nat} {path : List String}
  {leg : Leg} {legs rest : List Leg} {n n₁ n₂ n' : Roaming} {c : Context}

/-- **Once a walk has ended, more steps make no difference.** -/
theorem roam_mono (h : roam files rule steps path legs n = .ok n') :
    roam files rule (steps + 1) path legs n = .ok n' := by
  induction steps generalizing path legs n n' with
  | zero => cases h
  | succ steps ih =>
    cases legs with
    | nil => exact h
    | cons leg rest =>
      unfold roam at h ⊢
      cases met : meet files path leg n.context with
      | error stop =>
        rw [met] at h
        cases h
      | ok out =>
        obtain ⟨m, c⟩ := out
        rw [met] at h
        cases m with
        | obstacle o => exact ih h
        | node r reference name node =>
          obtain ⟨n₁, up, h⟩ := bind_eq_ok h
          obtain ⟨n₂, down, later⟩ := bind_eq_ok h
          dsimp only
          rw [ih up]
          show (roam files rule (steps + 1) _ _ _ >>= _) = _
          rw [ih down]
          exact ih later

theorem roam_le (h : roam files rule steps path legs n = .ok n') (le : steps ≤ more) :
    roam files rule more path legs n = .ok n' := by
  induction le with
  | refl => exact h
  | step _ ih => exact roam_mono ih

/-- A walk ends if it has enough steps. -/
def Roams (files : FileTree) (rule : FamilyRule) (path : List String) (legs : List Leg)
    (n n' : Roaming) : Prop :=
  ∃ steps, roam files rule steps path legs n = .ok n'

namespace Roams

theorem nil : Roams files rule path [] n n := ⟨1, rfl⟩

/-- At an obstacle a walk goes on with the next edge. -/
theorem blocked {o : Obstacle} (met : meet files path leg n.context = .ok (.obstacle o, c))
    (later : Roams files rule path rest { n with context := c } n') :
    Roams files rule path (leg :: rest) n n' := by
  obtain ⟨steps, ended⟩ := later
  refine ⟨steps + 1, ?_⟩
  rw [roam, met]
  exact ended

/-- At a node a walk goes in, whether it has been there or not. -/
theorem entered {r : Resolved} {reference : Reference} {name : String} {node : NodeRecord}
    {here : Bool} (met : meet files path leg n.context = .ok (.node r reference name node, c))
    (dealt : here = (leg.kind == .subsystem && rule n.log name))
    (up : Roams files rule (path ++ [r.key])
      (hardwareLegs r name (ownerBelow leg.kind name leg.owner node) node)
      (n.sight c ⟨leg.kind, r, name, node⟩) n₁)
    (down : Roams files rule (path ++ [r.key])
      (edgeLegs r .component (ownerBelow leg.kind name leg.owner node)
        (n₁.due here ++ node.childEdges)) (n₁.deal here) n₂)
    (later : Roams files rule path rest n₂ n') :
    Roams files rule path (leg :: rest) n n' := by
  subst dealt
  obtain ⟨a, up⟩ := up
  obtain ⟨b, down⟩ := down
  obtain ⟨d, later⟩ := later
  -- each part ends in the steps of all three
  refine ⟨a + b + d + 1, ?_⟩
  rw [roam, met]
  dsimp only
  rw [roam_le up (by omega)]
  show (roam files rule (a + b + d) _ _ _ >>= _) = _
  rw [roam_le down (by omega)]
  exact roam_le later (by omega)

/-- One edge may be followed before the others. -/
theorem cons (first : Roams files rule path [leg] n n₁) (later : Roams files rule path rest n₁ n') :
    Roams files rule path (leg :: rest) n n' := by
  obtain ⟨a, first⟩ := first
  cases a with
  | zero => cases first
  | succ a =>
    rw [roam] at first
    cases met : meet files path leg n.context with
    | error stop =>
      rw [met] at first
      cases first
    | ok out =>
      obtain ⟨m, c⟩ := out
      rw [met] at first
      cases m with
      | obstacle o =>
        refine blocked met ?_
        cases a with
        | zero => cases first
        | succ a =>
          cases first
          exact later
      | node r reference name node =>
        obtain ⟨n₂, up, first⟩ := bind_eq_ok first
        obtain ⟨n₃, down, first⟩ := bind_eq_ok first
        refine entered met rfl ⟨a, up⟩ ⟨a, down⟩ ?_
        -- after the only edge the walk is where the others begin
        cases a with
        | zero => cases first
        | succ a =>
          cases first
          exact later

end Roams

theorem roamBot_le {root : Resolved} {bot : BotRecord}
    (h : roamBot files rule steps c root bot = .ok n) (le : steps ≤ more) :
    roamBot files rule more c root bot = .ok n := by
  unfold roamBot at h ⊢
  obtain ⟨n₁, up, h⟩ := bind_eq_ok h
  obtain ⟨n₂, across, down⟩ := bind_eq_ok h
  dsimp only
  rw [roam_le up le]
  show (roam files rule more _ _ _ >>= _) = _
  rw [roam_le across le]
  exact roam_le down le

/-- A walk from a bot ends in one way. -/
theorem roamBot_unique {root : Resolved} {bot : BotRecord}
    (h : roamBot files rule steps c root bot = .ok n)
    (h' : roamBot files rule more c root bot = .ok n') : n = n' := by
  have here := roamBot_le h (Nat.le_max_left steps more)
  rw [roamBot_le h' (Nat.le_max_right steps more)] at here
  exact (Except.ok.inj here).symm

/-- The walk from a bot ends if its three parts do. -/
theorem exists_roamBot {root : Resolved} {bot : BotRecord}
    (up : Roams files rule [root.key]
      (hardwareLegs root (rootName root) (botOwner root bot) bot.node)
      ⟨c, bot.familyComponents, [⟨.subsystem, root, rootName root, bot.node⟩]⟩ n₁)
    (across : Roams files rule [root.key]
      (edgeLegs root .subsystem (botOwner root bot) bot.subsystems) n₁ n₂)
    (down : Roams files rule [root.key]
      (edgeLegs root .component (botOwner root bot) (n₂.family ++ bot.node.childEdges))
      { n₂ with family := [] } n') :
    ∃ steps, roamBot files rule steps c root bot = .ok n' := by
  obtain ⟨a, up⟩ := up
  obtain ⟨b, across⟩ := across
  obtain ⟨d, down⟩ := down
  refine ⟨a + b + d, ?_⟩
  unfold roamBot
  dsimp only
  rw [roam_le up (by omega)]
  show (roam files rule (a + b + d) _ _ _ >>= _) = _
  rw [roam_le across (by omega)]
  exact roam_le down (by omega)

end DispatchTables
