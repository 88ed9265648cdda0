import DispatchTables.Proofs.Traversal.Repeats
import DispatchTables.Proofs.Traversal.Traces

/-!
# A traversal is a walk that remembers nothing

A traversal does not go into a node under a name that it has met.  A walk that does go in, however
often, gets the same rows: the two keep up with each other edge by edge, and where the traversal
passes a node by, the node is off the path, so it is done and going in finds nothing new.

## Main Definitions

* `Graph.Sync`: a traversal and a walk that remembers nothing have come equally far.
* `IsHeir`: the node that a traversal puts the family's components below.
* `Uniform`: a node that brings no software is reached by edges to components only, or by none.

## Main Statements

* `Walks.roams`: the walk that remembers nothing keeps up with a traversal.
* `traverse_rows`: so it gets the same rows.
* `rows_differ_firstSubsystem`: but not when the family goes below any subsystem, or when documents
  share a key.
-/

namespace DispatchTables

variable {path : List String} {r : Resolved} {reference : Reference} {name : String}
  {node : NodeRecord} {c c' : Context}

/-! ### Keeping up -/

/-- The name and the document of a row. -/
def DispatchEntry.row (e : DispatchEntry) : String × String := (e.name, e.source)

/-- The document that the family's components are put below, if a subsystem is entered. -/
def Trail.heir? : Trail → Option Resolved
  | nil => none
  | step _ (.blocked _) _ rest => rest.heir?
  | step _ (.again _) _ rest => rest.heir?
  | step leg (.entered e) _ rest => if leg.kind = .subsystem then some e.source else rest.heir?

theorem Trail.heir?_eq_none {trail : Trail} (h : ∀ leg ∈ trail.legs, leg.kind ≠ .subsystem) :
    trail.heir? = none := by
  induction trail with
  | nil => rfl
  | step leg trace below rest _ ih =>
    have later := ih fun leg mem => h leg (List.mem_cons_of_mem _ mem)
    cases trace with
    | blocked o => exact later
    | again e => exact later
    | entered e => exact (if_neg (h leg List.mem_cons_self)).trans later

theorem Walks.heir?_ne_some {files : FileTree} {legs : List Leg} {w w' : Walk} {trail : Trail}
    (walks : Walks files path legs w trail w') (h : ∀ leg ∈ legs, leg.kind ≠ .subsystem)
    (r : Resolved) : trail.heir? ≠ some r := by
  rw [Trail.heir?_eq_none (walks.legs_eq ▸ h)]
  exact nofun

theorem Trail.entersSubsystem_eq (trail : Trail) : trail.entersSubsystem = trail.heir?.isSome := by
  induction trail with
  | nil => rfl
  | step leg trace below rest _ ih =>
    rw [Trail.entersSubsystem, ih]
    cases trace with
    | blocked o => rw [Trace.isEntered, Bool.and_false, Bool.false_or, Trail.heir?]
    | again e => rw [Trace.isEntered, Bool.and_false, Bool.false_or, Trail.heir?]
    | entered e =>
      rw [Trace.isEntered, Bool.and_true, Trail.heir?]
      by_cases sub : leg.kind = .subsystem
      · rw [if_pos sub, sub]
        rfl
      · rw [if_neg sub, beq_eq_false_iff_ne.mpr sub, Bool.false_or]

namespace Graph

variable {g : Graph} {log met : List Sighting} {n n' : Roaming} {w w' : Walk} {legs : List Leg}
  {leg : Leg} {trail : Trail}

/-- **A traversal and a walk that remembers nothing have come equally far**: the same names have
been met, the same rows yielded, and what has been met is on the path or done. -/
structure Sync (g : Graph) (path : List String) (w : Walk) (n : Roaming) : Prop where
  walked : g.Arises w.context
  roamed : g.Arises n.context
  family : n.family = w.family.getD []
  sees : ∀ s ∈ n.log, g.Sees s
  seen : ∀ name, (w.seen.get? name).isSome ↔ ∃ s ∈ n.log, s.name = name
  rows : w.entries.map DispatchEntry.row =
    ((firstSightings n.log).filter Sighting.registers).map Sighting.row
  onPath : ∀ key ∈ path, ∃ s ∈ n.log, s.source.key = key
  done : ∀ s ∈ n.log, s.source.key ∉ path → g.Done n.log s

namespace Sync

/-- Meeting again what has been met makes no difference. -/
theorem again (h : g.Sync path w n) (repeats : g.Repeats n.log n n')
    (walked : g.Arises c) (charged : List BusUse) :
    g.Sync path { w with context := c, busUses := charged } n' := by
  obtain ⟨more, eq, old⟩ := repeats.more
  have sees : ∀ s ∈ more, g.Sees s := by
    intro s mem
    obtain ⟨known, has, source, name, node⟩ := old s mem
    have seen := h.sees known has
    refine ⟨source ▸ seen.found, ?_, ?_⟩
    · rw [source, name]
      exact seen.called
    · rw [source, node]
      exact seen.node
  have met : ∀ s ∈ more, ∃ known ∈ n.log, known.name = s.name := by
    intro s mem
    obtain ⟨known, has, -, name, -⟩ := old s mem
    exact ⟨known, has, name.symm⟩
  refine ⟨walked, repeats.arises, repeats.family.trans h.family, ?_, ?_, ?_, ?_, ?_⟩
  · rw [eq]
    exact fun s mem => (List.mem_append.mp mem).elim (h.sees s) (sees s)
  · intro name
    rw [eq]
    refine (h.seen name).trans ⟨?_, ?_⟩
    · rintro ⟨s, mem, named⟩
      exact ⟨s, List.mem_append_left _ mem, named⟩
    · rintro ⟨s, mem, rfl⟩
      rcases List.mem_append.mp mem with before | new
      · exact ⟨s, before, rfl⟩
      · exact met s new
  · rw [eq, firstSightings_append_met met]
    exact h.rows
  · intro key on
    obtain ⟨s, mem, same⟩ := h.onPath key on
    exact ⟨s, repeats.mem mem, same⟩
  · rw [eq]
    intro s mem off
    refine Done.mono ?_ fun s mem => List.mem_append_left _ mem
    rcases List.mem_append.mp mem with before | new
    · exact h.done s before off
    · -- a node that is met again is done, as it was when it was met before
      obtain ⟨known, has, source, -, node⟩ := old s new
      intro edge own
      rw [node] at own
      rw [source] at off ⊢
      exact h.done known has off edge own

/-- A name that the traversal has not noted has not been met. -/
theorem unmet (h : g.Sync path w n) (unknown : w.seen.get? name = none) :
    ∀ s ∈ n.log, s.name ≠ name := by
  intro s mem same
  have noted := (h.seen name).mpr ⟨s, mem, same⟩
  rw [unknown] at noted
  cases noted

theorem firstNewSubsystem_eq (h : g.Sync path w n) (unknown : w.seen.get? name = none) :
    firstNewSubsystem n.log name = true := by
  rw [firstNewSubsystem, Bool.not_eq_true', List.any_eq_false]
  intro s mem same
  exact h.unmet unknown s mem (beq_iff_eq.mp same)

/-- A node of a new name joins the path. -/
theorem enter (h : g.Sync path w n) (walked : g.Arises c) (roamed : g.Arises c') {s : Sighting}
    (sees : g.Sees s) (new : w.seen.get? s.name = none) (owner : Option String)
    (config : Option Expansion) :
    g.Sync (path ++ [s.source.key])
      (Walk.register { w with context := c } s.source.key s.name s.node s.kind owner config).2
      (n.sight c' s) := by
  have last : s ∈ n.log ++ [s] := List.mem_append_right _ (List.mem_singleton_self s)
  have before : ∀ t ∈ n.log, t ∈ n.log ++ [s] := fun t mem => List.mem_append_left _ mem
  have seen : ∀ name, ((Walk.register { w with context := c } s.source.key s.name s.node s.kind
      owner config).2.seen.get? name).isSome ↔ ∃ t ∈ n.log ++ [s], t.name = name := by
    intro name
    rw [register_seen]
    split
    · rename_i same
      exact iff_of_true rfl ⟨s, last, same⟩
    · rename_i differs
      refine (h.seen name).trans ⟨fun ⟨t, mem, named⟩ => ⟨t, before t mem, named⟩, ?_⟩
      rintro ⟨t, mem, named⟩
      rcases List.mem_append.mp mem with old | new
      · exact ⟨t, old, named⟩
      · rw [List.mem_singleton.mp new] at named
        exact absurd named differs
  rw [register_eq] at seen ⊢
  refine ⟨walked, roamed, h.family, ?_, seen, ?_, ?_, ?_⟩
  · exact List.forall_mem_append.mpr ⟨h.sees, List.forall_mem_singleton.mpr sees⟩
  · show (w.entries ++ (rowOf s.kind s.source.key s.name s.node config).toList).map
        DispatchEntry.row =
      ((firstSightings (n.log ++ [s])).filter Sighting.registers).map Sighting.row
    rw [List.map_append, h.rows, firstSightings_append_new (h.unmet new), List.filter_append,
      List.map_append]
    refine congrArg (_ ++ ·) ?_
    -- the new row, if there is one
    cases rowed : Walk.registers s.kind s.node with
    | true => simp [rowOf, rowed, Sighting.registers, DispatchEntry.row, Sighting.row, Walk.entryOf]
    | false => simp [rowOf, rowed, Sighting.registers]
  · refine List.forall_mem_append.mpr ⟨?_, List.forall_mem_singleton.mpr ?_⟩
    · intro key on
      obtain ⟨t, mem, same⟩ := h.onPath key on
      exact ⟨t, before t mem, same⟩
    · exact ⟨s, last, rfl⟩
  · intro t mem off
    rcases List.mem_append.mp mem with old | new
    · exact (h.done t old fun on => off (List.mem_append_left _ on)).mono before
    · rw [List.mem_singleton.mp new] at off
      exact absurd (List.mem_append_right _ (List.mem_singleton_self _)) off

/-- A node that is done leaves the path. -/
theorem leave (single : g.Single) {s : Sighting} (h : g.Sync (path ++ [s.source.key]) w n)
    (mem : s ∈ n.log) (done : g.Done n.log s) : g.Sync path w n := by
  have onPath := fun key on => h.onPath key (List.mem_append_left _ on)
  refine { h with onPath, done := ?_ }
  -- what is off the path now was off it before, or is this node
  intro t known off
  by_cases same : t.source.key = s.source.key
  · have one : t.source = s.source :=
      single.key (h.sees t known).found (h.sees s mem).found same
    intro edge own
    rw [(h.sees t known).node_eq (h.sees s mem) one] at own
    rw [one]
    exact done edge own
  · refine h.done t known ?_
    intro on
    rcases List.mem_append.mp on with before | last
    · exact off before
    · exact same (List.mem_singleton.mp last)

/-- The family's components are dealt with. -/
theorem deal (h : g.Sync path w n) (kind : EdgeKind) (node : NodeRecord) :
    g.Sync path (edgesBelow kind node w).2 (n.deal (kind == .subsystem)) := by
  rw [edgesBelow_eq]
  refine { h with family := ?_ }
  show (if kind == .subsystem then [] else n.family) =
    (if kind = .subsystem then none else w.family).getD []
  by_cases sub : kind = .subsystem
  · rw [sub]
    rfl
  · rw [if_neg sub, if_neg fun same => sub (beq_iff_eq.mp same)]
    exact h.family

theorem due_eq (h : g.Sync path w n) (kind : EdgeKind) (node : NodeRecord) :
    n.due (kind == .subsystem) ++ node.childEdges = (edgesBelow kind node w).1 := by
  rw [edgesBelow_eq]
  show (if kind == .subsystem then n.family else []) ++ _ =
    (if kind = .subsystem then w.family.getD [] else []) ++ _
  by_cases sub : kind = .subsystem
  · rw [sub, h.family]
    rfl
  · rw [if_neg sub, if_neg fun same => sub (beq_iff_eq.mp same)]

/-- An edge that leads to nothing new may be followed by both. -/
theorem detour (h : g.Sync path w n) (begun : g.root.key ∈ path) (has : g.Has leg.parent leg.edge)
    (leads : g.Leads n.log leg.parent leg.edge) (walked : g.Arises c) (charged : List BusUse) :
    ∃ n', Roams g.files firstNewSubsystem path [leg] n n' ∧
      g.Sync path { w with context := c, busUses := charged } n' ∧ ∀ s ∈ n.log, s ∈ n'.log := by
  obtain ⟨n', roams, repeats⟩ := roams_again h.sees begun h.done
    (List.forall_mem_singleton.mpr has) (List.forall_mem_singleton.mpr leads) h.roamed
    fun s mem => ⟨s, mem, rfl⟩
  exact ⟨n', roams, h.again repeats walked charged, fun s mem => repeats.mem mem⟩

/-- What the path is closed by has been met. -/
theorem exists_of_mem_path (single : g.Single) (h : g.Sync path w n) (found : g.Found r)
    (on : r.key ∈ path) : ∃ s ∈ n.log, s.source = r := by
  obtain ⟨s, mem, same⟩ := h.onPath r.key on
  exact ⟨s, mem, single.key (h.sees s mem).found found same⟩

/-- A document is known by a name that has been met. -/
theorem exists_of_seen (single : g.Single) (h : g.Sync path w n) (found : g.Found r)
    (named : r.name = some name) (seen : (w.seen.get? name).isSome) :
    ∃ s ∈ n.log, s.source = r := by
  obtain ⟨s, mem, same⟩ := (h.seen name).mp seen
  have called : g.Called r s.name := .inl (same ▸ named)
  exact ⟨s, mem, single.name (h.sees s mem).found found (h.sees s mem).called called⟩

end Sync

/-- An edge to an obstacle leads to nothing new. -/
theorem leads_of_obstacle {o : Obstacle} (single : g.Single) (sync : g.Sync path w n)
    (has : g.Has leg.parent leg.edge)
    (blocked : meet g.files path leg w.context = .ok (.obstacle o, c)) :
    g.Arises c ∧ g.Leads n.log leg.parent leg.edge := by
  obtain ⟨target, looked, judged⟩ := meet_eq_ok blocked
  refine ⟨has.arises sync.walked looked, leads_of_look single sync.walked has looked ?_⟩
  intro r is
  cases target with
  | missing m => cases is
  | found r' reference =>
    cases is
    rcases meetResolved_cases judged with ⟨-, on⟩ | ⟨chip, -, -⟩ | ⟨_, _, other, -⟩
    · exact .inr (sync.exists_of_mem_path single (has.along sync.walked looked) on)
    · cases chip
      exact .inl (isChip_of_meetResolved judged)
    · cases other

/-- What is there when an edge leads to a node. -/
theorem found_of_node (arises : g.Arises c) (has : g.Has leg.parent leg.edge)
    (entered : meet g.files path leg c = .ok (.node r reference name node, c')) :
    look g.files leg.parent leg.edge c = .ok (.found r reference, c') ∧ g.Arises c' ∧ g.Found r ∧
      r.key ∉ path ∧ r.name = some name ∧ nodeOf? r = some node := by
  obtain ⟨target, looked, judged⟩ := meet_eq_ok entered
  cases target with
  | missing m => cases judged
  | found r' reference' =>
    rcases meetResolved_cases judged with
      ⟨other, -⟩ | ⟨other, -, -⟩ | ⟨_, _, is, off, named, isNode⟩
    · cases other
    · cases other
    · cases is
      exact ⟨looked, has.arises arises looked, has.along arises looked, off, named, isNode⟩

/-- Below a node are its own components, and below a subsystem those of the family, if they are
put there. -/
theorem has_edgesBelow {kind : EdgeKind} (found : g.Found r) (isNode : nodeOf? r = some node)
    (family : kind = .subsystem → ∀ edge ∈ w.family.getD [], g.Edge r edge) :
    ∀ edge ∈ (edgesBelow kind node w).1, g.Has r edge := by
  rw [edgesBelow_eq]
  intro edge mem
  rcases List.mem_append.mp mem with waiting | child
  · split at waiting
    · rename_i sub
      exact ⟨found, family sub edge waiting⟩
    · cases waiting
  · exact ⟨found, .own isNode (List.mem_append_right _ child)⟩

/-- A node is done when the edges that it is entered with lead to nothing new. -/
theorem done_of_leads {kind : EdgeKind} {owner : Option String}
    (up : ∀ leg ∈ hardwareLegs r name owner node, g.Leads log leg.parent leg.edge)
    (down : ∀ leg ∈ edgeLegs r .component owner (edgesBelow kind node w).1,
      g.Leads log leg.parent leg.edge) : g.Done log ⟨kind, r, name, node⟩ := by
  intro edge mem
  rcases List.mem_append.mp mem with hardware | child
  · exact Graph.forall_hardwareLegs.mp up edge hardware
  · refine Graph.forall_edgeLegs.mp down edge ?_
    rw [edgesBelow_eq]
    exact List.mem_append_right _ child

/-- When a traversal meets a node at the end of an edge, so does the other walk. -/
theorem meet_again (single : g.Single) (sync : g.Sync path w n) (has : g.Has leg.parent leg.edge)
    (looked : look g.files leg.parent leg.edge w.context = .ok (.found r reference, c))
    (off : r.key ∉ path) (named : r.name = some name) (isNode : nodeOf? r = some node) :
    ∃ reference c', meet g.files path leg n.context = .ok (.node r reference name node, c') ∧
      g.Arises c' := by
  obtain ⟨other, c', again, same⟩ := look_again single sync.walked has looked sync.roamed
  cases other with
  | missing m => cases same
  | found r' reference' =>
    cases same
    exact ⟨reference', c', meet_of_look again (meetResolved_node off named isNode),
      has.arises sync.roamed again⟩

end Graph

/-- **The walk that remembers nothing keeps up with a traversal**, along the same edges, and in the
end these lead to nothing new. -/
theorem Walks.roams {g : Graph} {legs : List Leg} {w w' : Walk} {trail : Trail} {n : Roaming}
    (single : g.Single) (walks : Walks g.files path legs w trail w') (sync : g.Sync path w n)
    (begun : g.root.key ∈ path) (has : ∀ leg ∈ legs, g.Has leg.parent leg.edge)
    (heir : ∀ r, trail.heir? = some r → ∀ edge ∈ w.family.getD [], g.Edge r edge) :
    ∃ n', Roams g.files firstNewSubsystem path legs n n' ∧ g.Sync path w' n' ∧
      (∀ s ∈ n.log, s ∈ n'.log) ∧ ∀ leg ∈ legs, g.Leads n'.log leg.parent leg.edge := by
  -- on the traversal; where it passes a node by, the other walk makes a detour that changes nothing
  induction walks generalizing n with
  | nil => exact ⟨n, .nil, sync, fun _ mem => mem, fun _ mem => nomatch mem⟩
  | @blocked path leg rest w o c trail w' blocked _ ih =>
    have here := has leg List.mem_cons_self
    obtain ⟨arises, leads⟩ := Graph.leads_of_obstacle single sync here blocked
    obtain ⟨n₁, detour, sync₁, more⟩ := sync.detour begun here leads (arises.report _) w.busUses
    obtain ⟨n', roams, sync', more', later⟩ :=
      ih sync₁ begun (fun leg mem => has leg (List.mem_cons_of_mem _ mem)) heir
    refine ⟨n', detour.cons roams, sync', fun s mem => more' s (more s mem), ?_⟩
    exact List.forall_mem_cons.mpr ⟨leads.mono fun s mem => more' s (more s mem), later⟩
  | @again path leg rest w r reference name node first c trail w' entered known _ ih =>
    have here := has leg List.mem_cons_self
    obtain ⟨looked, arises, found, -, named, -⟩ := Graph.found_of_node sync.walked here entered
    have leads : g.Leads n.log leg.parent leg.edge := by
      refine Graph.leads_of_look single sync.walked here looked fun r' is => .inr ?_
      cases is
      exact sync.exists_of_seen single found named (by rw [known]; rfl)
    rw [recordBus_eq] at ih
    obtain ⟨n₁, detour, sync₁, more⟩ := sync.detour begun here leads arises _
    obtain ⟨n', roams, sync', more', later⟩ :=
      ih sync₁ begun (fun leg mem => has leg (List.mem_cons_of_mem _ mem)) heir
    refine ⟨n', detour.cons roams, sync', fun s mem => more' s (more s mem), ?_⟩
    exact List.forall_mem_cons.mpr ⟨leads.mono fun s mem => more' s (more s mem), later⟩
  | @entered path leg rest w r reference name node config c hardware w₂ components w₃ trail w'
      entered unknown configured up down _ ihUp ihDown ihRest =>
    have here := has leg List.mem_cons_self
    obtain ⟨looked, arises, found, off, named, isNode⟩ :=
      Graph.found_of_node sync.walked here entered
    obtain ⟨reference', e, entered', arises'⟩ :=
      Graph.meet_again single sync here looked off named isNode
    have sees : g.Sees ⟨leg.kind, r, name, node⟩ := ⟨found, .inl named, isNode⟩
    have own : ∀ edge ∈ node.edges, g.Has r edge := fun edge mem => ⟨found, .own isNode mem⟩
    have begun' : g.root.key ∈ path ++ [r.key] := List.mem_append_left _ begun
    -- the node is entered by both
    have sync₁ := sync.enter arises arises' sees unknown leg.owner config
    obtain ⟨n₁, roamsUp, sync₂, more₁, leadsUp⟩ := ihUp sync₁ begun'
      (Graph.forall_hardwareLegs.mpr fun edge mem => own edge (List.mem_append_left _ mem))
      (fun r is => absurd is (up.heir?_ne_some hardware_not_subsystem r))
    -- and the components below it follow, the family's first
    have waits : w₂.family = w.family :=
      (up.family_kept hardware_not_subsystem).trans (register_family ..)
    have below : ∀ edge ∈ (edgesBelow leg.kind node w₂).1, g.Has r edge :=
      Graph.has_edgesBelow found isNode fun sub => waits ▸ heir r (if_pos sub)
    have after : w₃.family = if leg.kind = .subsystem then none else w.family := by
      rw [down.family_kept component_not_subsystem, edgesBelow_family, waits]
    have sync₃ := sync₂.deal leg.kind node
    obtain ⟨n₂, roamsDown, sync₄, more₂, leadsDown⟩ := ihDown sync₃ begun'
      (Graph.forall_edgeLegs.mpr below)
      (fun r is => absurd is (down.heir?_ne_some component_not_subsystem r))
    -- so it is done
    have here' : (⟨leg.kind, r, name, node⟩ : Sighting) ∈ n₂.log :=
      more₂ _ (more₁ _ (List.mem_append_right _ (List.mem_singleton_self _)))
    have done : g.Done n₂.log ⟨leg.kind, r, name, node⟩ :=
      Graph.done_of_leads (fun leg mem => (leadsUp leg mem).mono more₂) leadsDown
    have sync₅ := sync₄.leave single here' done
    obtain ⟨n', roams, sync', more', later⟩ := ihRest sync₅ begun
      (fun leg mem => has leg (List.mem_cons_of_mem _ mem)) (by
        intro r' is edge mem
        rw [after] at mem
        by_cases sub : leg.kind = .subsystem
        · rw [if_pos sub] at mem
          cases mem
        · rw [if_neg sub] at mem
          exact heir r' ((if_neg sub).trans is) edge mem)
    have leads : g.Leads n'.log leg.parent leg.edge := by
      refine Graph.leads_of_look single sync.walked here looked fun r' is => .inr ?_
      cases is
      exact ⟨_, more' _ here', rfl⟩
    refine ⟨n', ?_, sync', ?_, List.forall_mem_cons.mpr ⟨leads, later⟩⟩
    · have fresh := sync.firstNewSubsystem_eq unknown
      rw [← sync₂.due_eq leg.kind node] at roamsDown
      exact .entered entered' (by rw [fresh, Bool.and_true]) roamsUp roamsDown roams
    · exact fun s mem => more' s (more₂ s (more₁ s (List.mem_append_left _ mem)))

/-! ### The whole walk -/

/-- **A traversal and the walk that remembers nothing come equally far from a bot**, when the family
goes below the node that the traversal has put it below. -/
theorem BotWalks.roams {g : Graph} {hardware subsystems components : Trail} {w₁ w₂ w : Walk}
    (single : g.Single)
    (walks : BotWalks g.files g.root g.bot g.context hardware w₁ subsystems w₂ components w)
    (heir : g.heir = subsystems.heir?.getD g.root) :
    ∃ steps n, roamBot g.files firstNewSubsystem steps g.context g.root g.bot = .ok n ∧
      g.Sync [g.root.key] w n := by
  have nothing : g.Sync [] (unwalked g.bot g.context)
      ⟨g.context, g.bot.familyComponents, []⟩ := by
    refine ⟨.start, .start, (unwalked_family g.bot g.context).symm, ?_, ?_, rfl, ?_, ?_⟩
    · exact fun _ mem => nomatch mem
    · exact fun name => iff_of_false Bool.false_ne_true fun ⟨_, mem, _⟩ => nomatch mem
    · exact fun _ mem => nomatch mem
    · exact fun _ mem => nomatch mem
  have begun : g.root.key ∈ [g.root.key] := List.mem_singleton_self _
  have sees : g.Sees ⟨.subsystem, g.root, rootName g.root, g.bot.node⟩ :=
    ⟨.root, .inr ⟨rfl, rfl⟩, g.nodeOf?_root⟩
  have own : ∀ edge ∈ g.bot.node.edges, g.Has g.root edge := fun edge mem =>
    ⟨.root, .own g.nodeOf?_root mem⟩
  have start := nothing.enter .start .start sees rfl none none
  obtain ⟨n₁, up, sync₁, -, -⟩ := walks.hardware.roams single start begun
    (Graph.forall_hardwareLegs.mpr fun edge mem => own edge (List.mem_append_left _ mem))
    (fun r is => absurd is (walks.hardware.heir?_ne_some hardware_not_subsystem r))
  -- the family waits until a subsystem is entered, and goes below the bot if none is
  have waits : w₁.family.getD [] = g.bot.familyComponents := by
    rw [walks.hardware.family_kept hardware_not_subsystem]
    exact botStart_family g.root g.bot g.context
  obtain ⟨n₂, across, sync₂, -, -⟩ := walks.subsystems.roams single sync₁ begun
    (Graph.forall_edgeLegs.mpr fun edge mem => ⟨.root, .subsystem mem⟩)
    (by
      intro r is edge mem
      rw [waits] at mem
      rw [is, Option.getD_some] at heir
      exact heir ▸ .family mem)
  have left : ∀ edge ∈ w₂.family.getD [], g.Has g.root edge := by
    intro edge mem
    rw [walks.subsystems.family_eq, Trail.entersSubsystem_eq] at mem
    cases is : subsystems.heir? with
    | some r =>
      rw [is] at mem
      cases mem
    | none =>
      rw [is] at mem
      rw [is, Option.getD_none] at heir
      rw [show (if none.isSome = true then none else w₁.family) = w₁.family from rfl, waits] at mem
      have family : g.Edge g.heir edge := .family mem
      exact ⟨.root, heir ▸ family⟩
  have sync₃ : g.Sync [g.root.key] { w₂ with family := none } { n₂ with family := [] } :=
    { sync₂ with family := rfl }
  obtain ⟨n, down, sync, -, -⟩ := walks.components.roams single sync₃ begun
    (Graph.forall_edgeLegs.mpr fun edge mem => (List.mem_append.mp mem).elim (left edge)
      fun child => own edge (List.mem_append_right _ child))
    (fun _ _ _ mem => nomatch mem)
  rw [← sync₂.family] at down
  obtain ⟨steps, roams⟩ := exists_roamBot up across down
  exact ⟨steps, n, roams, sync⟩

/-- The node that a traversal from a bot puts the family's components below: the first subsystem
that it enters, or the bot. -/
def IsHeir (files : FileTree) (c : Context) (root : Resolved) (bot : BotRecord) (heir : Resolved) :
    Prop :=
  ∃ hardware w₁ subsystems w₂ components w,
    BotWalks files root bot c hardware w₁ subsystems w₂ components w ∧
      heir = subsystems.heir?.getD root

/-- **Nodes that bring no software are each reached by edges to components only, or by none.** -/
def Uniform (log : List Sighting) : Prop :=
  ∀ s ∈ log, ∀ s' ∈ log, s.source.key = s'.source.key → s.node.software = none →
    (s.kind = .component ↔ s'.kind = .component)

instance (log : List Sighting) : Decidable (Uniform log) :=
  inferInstanceAs (Decidable (∀ s ∈ log, ∀ s' ∈ log, _ → _ → _))

/-- Under one name there is one node, so it gets a row each time or never. -/
theorem Graph.Sync.rows_eq {g : Graph} {w : Walk} {n : Roaming} (single : g.Single)
    (sync : g.Sync path w n) (uniform : Uniform n.log) :
    w.entries.map DispatchEntry.row = rowsOf n.log := by
  have agree : ∀ s ∈ n.log, ∀ s' ∈ n.log, s.name = s'.name → s.registers = s'.registers := by
    intro s mem s' mem' same
    have one : s.source = s'.source := by
      refine single.name (sync.sees s mem).found (sync.sees s' mem').found
        (sync.sees s mem).called ?_
      rw [same]
      exact (sync.sees s' mem').called
    have node := (sync.sees s mem).node_eq (sync.sees s' mem') one
    have kinds := uniform s mem s' mem' (congrArg _ one)
    unfold Sighting.registers Walk.registers
    rw [← node]
    cases software : s.node.software with
    | some _ => rw [Option.isSome_some, Bool.or_true, Bool.or_true]
    | none =>
      rw [Option.isSome_none, Bool.or_false, Bool.or_false, Bool.eq_iff_iff, beq_iff_eq, beq_iff_eq]
      exact kinds software
  rw [rowsOf, firstSightings_filter agree]
  exact sync.rows

/-- **A traversal gets the rows of the walk that remembers nothing**, when every key and every name
below the bot belongs to a single document and each node that brings no software is reached by edges
to components only, or by none.  That walk ends too. -/
theorem traverse_rows {files : FileTree} {d : Descriptor} {bot : BotRecord} {t : Traversal}
    (begun : InUse files c) (isBot : botOf (c.resolve files d).1 = .ok bot)
    (h : traverse files (c.resolve files d).2 (c.resolve files d).1 = (.ok t, c'))
    (single : ∀ heir, IsHeir files (c.resolve files d).2 (c.resolve files d).1 bot heir →
      (Graph.below begun d isBot heir).Single) :
    ∃ steps n, roamBot files firstNewSubsystem steps (c.resolve files d).2 (c.resolve files d).1
        bot = .ok n ∧
      (Uniform n.log → t.entries.map DispatchEntry.row = rowsOf n.log) := by
  obtain ⟨bot', hardware, w₁, subsystems, w₂, components, w, same, walks, rfl, -⟩ :=
    traverse_walks h
  cases isBot.symm.trans same
  have single := single _ ⟨hardware, w₁, subsystems, w₂, components, w, walks, rfl⟩
  obtain ⟨steps, n, roams, sync⟩ :=
    BotWalks.roams (g := Graph.below begun d isBot (subsystems.heir?.getD _)) single walks rfl
  exact ⟨steps, n, roams, sync.rows_eq single⟩

/-! ### Two bots -/

/-- The bot that the file of this name holds. -/
def botAt (files : FileTree) (s : Store) : Descriptor :=
  (s.readKey files "bot").toOption.getD default

/-- The bot resolved in the context of a store just opened, and the context after that. -/
def startAt (files : FileTree) (s : Store) : Resolved × Context :=
  (Context.ofStore s).resolve files (botAt files s)

/-- The record of the bot. -/
def recordAt (files : FileTree) (s : Store) : BotRecord :=
  (botOf (startAt files s).1).toOption.getD default

/-- A traversal from the bot. -/
def traverseAt (files : FileTree) (s : Store) : Except Failure Traversal × Context :=
  traverse files (startAt files s).2 (startAt files s).1

/-- A walk from the bot that remembers nothing. -/
def roamAt (files : FileTree) (rule : FamilyRule) (s : Store) : Walking Roaming :=
  roamBot files rule 20 (startAt files s).2 (startAt files s).1 (recordAt files s)

theorem exists_of_fst_toOption {ε α β γ : Type} {x : Except ε α × γ} {f : α → β} {b : β}
    (h : x.1.toOption.map f = some b) : ∃ a c, x = (.ok a, c) ∧ f a = b := by
  obtain ⟨found, c⟩ := x
  obtain ⟨a, rfl, same⟩ := exists_of_toOption h
  exact ⟨a, c, rfl, same⟩

theorem botOf_startAt {files : FileTree} {s : Store} {t : Traversal}
    (h : traverseAt files s = (.ok t, c)) :
    botOf (startAt files s).1 = .ok (recordAt files s) := by
  obtain ⟨bot, -, -, -, -, -, -, isBot, -⟩ := traverse_walks h
  unfold recordAt
  rw [isBot]
  rfl

/-- A tree with a bot whose hardware is one of its subsystems too.  A component of the family and
the other subsystem have each other as components. -/
def familyFiles : FileTree where
  workingDirectory := []
  directories := [["lib"]]
  files := [
    (["lib", "bot.json"], ("\x7b\"name\": \"bot\", \"hardware_reference\": \"h\", " ++
      "\"subsystems\": [\"h\", \"s\"], \"family_components\": [\"f\"]\x7d").toUTF8),
    (["lib", "f.json"], "\x7b\"name\": \"f\", \"components\": [\"s\"]\x7d".toUTF8),
    (["lib", "h.json"], "\x7b\"name\": \"h\"\x7d".toUTF8),
    (["lib", "s.json"], ("\x7b\"name\": \"s\", \"software\": \x7b\x7d, " ++
      "\"components\": [\"f\"]\x7d").toUTF8)]

/-- The store of this tree. -/
def familyStore : Store :=
  [["bot.json"], ["f.json"], ["h.json"], ["s.json"]].foldl Store.addFile (.empty "/lib")

theorem ofDirectory_familyFiles : Store.ofDirectory familyFiles "/lib" = .ok familyStore :=
  Store.ofDirectory_of_ordered ["lib"] _ (by decide +kernel) (by decide +kernel)
    (by decide +kernel) (by decide +kernel) (by decide +kernel)

theorem inUse_familyStore : InUse familyFiles (.ofStore familyStore) :=
  .opened ofDirectory_familyFiles

theorem isSimple_of_holds_familyStore (d : Descriptor)
    (held : familyStore.Holds familyFiles d) : isSimple d = true := by
  have all : (familyStore.held familyFiles).all isSimple = true := by decide +kernel
  exact List.all_eq_true.mp all d (Store.mem_held_iff.mpr held)

theorem holds_botAt_familyStore :
    familyStore.Holds familyFiles (botAt familyFiles familyStore) := by
  show familyStore.Holds familyFiles (familyStore.descriptorAt familyFiles "bot")
  exact Store.holds_descriptorAt (by decide +kernel)

/-- Its files have one name each. -/
theorem single_familyStore {bot : BotRecord} (isBot : botOf ((Context.ofStore familyStore).resolve
      familyFiles (botAt familyFiles familyStore)).1 = .ok bot) (heir : Resolved) :
    (Graph.below inUse_familyStore (botAt familyFiles familyStore) isBot heir).Single := by
  have simple := isSimple_of_holds_familyStore
  refine Graph.single_of_simple simple inUse_familyStore ?_ holds_botAt_familyStore isBot heir
  apply (Reached.opened ofDirectory_familyFiles).sound
  intro d held
  have parts := simple d held
  unfold isSimple at parts
  simp only [Bool.and_eq_true] at parts
  exact parts.1.1.1.1

theorem traverseAt_familyStore : ∃ t c, traverseAt familyFiles familyStore = (.ok t, c) ∧
    t.entries.map DispatchEntry.row = [("s", "s"), ("f", "f")] := by
  have rows : ((traverseAt familyFiles familyStore).1.toOption.map fun t =>
      t.entries.map DispatchEntry.row) = some [("s", "s"), ("f", "f")] := by decide +kernel
  exact exists_of_fst_toOption rows

/-- The subsystem is gone into, and then the component of the family below it, which leads back. -/
theorem traverse_rows_familyStore : ∃ t c steps n, traverseAt familyFiles familyStore = (.ok t, c) ∧
    roamBot familyFiles firstNewSubsystem steps (startAt familyFiles familyStore).2
      (startAt familyFiles familyStore).1 (recordAt familyFiles familyStore) = .ok n ∧
    Uniform n.log ∧ n.log.map (·.name) = ["bot", "h", "h", "s", "f", "f"] ∧
    t.entries.map DispatchEntry.row = rowsOf n.log := by
  obtain ⟨t, c, walked, -⟩ := traverseAt_familyStore
  have met : ((roamAt familyFiles firstNewSubsystem familyStore).toOption.map fun n =>
      (decide (Uniform n.log), n.log.map (·.name))) =
        some (true, ["bot", "h", "h", "s", "f", "f"]) := by decide +kernel
  obtain ⟨n₀, ends, met⟩ := exists_of_toOption met
  have started : startAt familyFiles familyStore =
    (Context.ofStore familyStore).resolve familyFiles (botAt familyFiles familyStore) := rfl
  have isBot := botOf_startAt walked
  have h := walked
  unfold traverseAt at h
  rw [started] at isBot h
  obtain ⟨steps, n, roams, same⟩ := traverse_rows inUse_familyStore isBot h
    fun heir _ => single_familyStore isBot heir
  rw [← started] at roams
  unfold roamAt at ends
  have one : n = n₀ := roamBot_unique roams ends
  subst one
  have uniform : Uniform n.log := of_decide_eq_true (congrArg Prod.fst met)
  exact ⟨t, c, steps, n, walked, roams, uniform, congrArg Prod.snd met, same uniform⟩

/-- A tree in which a file has the key of a component in place, and is what that builds on. -/
def twinFiles : FileTree where
  workingDirectory := []
  directories := [["lib"]]
  files := [
    (["lib", "a#b.json"], "\x7b\"name\": \"x\"\x7d".toUTF8),
    (["lib", "a.json"], ("\x7b\"name\": \"a\", \"components\": " ++
      "[\x7b\"name\": \"b\", \"inherits_from\": \"a#b\"\x7d]\x7d").toUTF8),
    (["lib", "bot.json"], ("\x7b\"name\": \"bot\", " ++
      "\"components\": [\"a\", \"q\", \"a\"]\x7d").toUTF8),
    (["lib", "q.json"], "\x7b\"name\": \"q\", \"inherits_from\": \"a#b\"\x7d".toUTF8)]

/-- The store of this tree. -/
def twinStore : Store :=
  [["a#b.json"], ["a.json"], ["bot.json"], ["q.json"]].foldl Store.addFile (.empty "/lib")

/-- **Both conditions on the walk are needed.**  If the family goes below the first subsystem, met
or not, the rows may come in another order.  And if two documents share a key, going in again may
find one that has not been met, although every name belongs to a single key. -/
theorem rows_differ_firstSubsystem :
    (∃ t c n, traverseAt familyFiles familyStore = (.ok t, c) ∧
      (∀ (bot : BotRecord) (isBot : botOf ((Context.ofStore familyStore).resolve familyFiles
        (botAt familyFiles familyStore)).1 = .ok bot) (heir : Resolved),
        (Graph.below inUse_familyStore _ isBot heir).Single) ∧
      roamAt familyFiles firstSubsystem familyStore = .ok n ∧ Uniform n.log ∧
      t.entries.map DispatchEntry.row ≠ rowsOf n.log) ∧
    ∃ t c n, Store.ofDirectory twinFiles "/lib" = .ok twinStore ∧
      traverseAt twinFiles twinStore = (.ok t, c) ∧
      roamAt twinFiles firstSubsystem twinStore = .ok n ∧ Uniform n.log ∧
      (∀ s ∈ n.log, ∀ s' ∈ n.log, s.name = s'.name → s.source.key = s'.source.key) ∧
      t.entries.map DispatchEntry.row ≠ rowsOf n.log := by
  constructor
  · obtain ⟨t, c, walked, rows⟩ := traverseAt_familyStore
    have met : ((roamAt familyFiles firstSubsystem familyStore).toOption.map fun n =>
        (decide (Uniform n.log), rowsOf n.log)) = some (true, [("f", "f"), ("s", "s")]) := by
      decide +kernel
    obtain ⟨n, ends, met⟩ := exists_of_toOption met
    have others : rowsOf n.log = [("f", "f"), ("s", "s")] := congrArg Prod.snd met
    refine ⟨t, c, n, walked, fun bot isBot heir => single_familyStore isBot heir, ends,
      of_decide_eq_true (congrArg Prod.fst met), ?_⟩
    rw [rows, others]
    decide
  · have rows : ((traverseAt twinFiles twinStore).1.toOption.map fun t =>
        t.entries.map DispatchEntry.row) = some [("a", "a"), ("b", "a#b"), ("q", "q")] := by
      decide +kernel
    obtain ⟨t, c, walked, rows⟩ := exists_of_fst_toOption rows
    have met : ((roamAt twinFiles firstSubsystem twinStore).toOption.map fun n =>
        (decide (Uniform n.log ∧ ∀ s ∈ n.log, ∀ s' ∈ n.log, s.name = s'.name →
          s.source.key = s'.source.key), rowsOf n.log)) =
          some (true, [("a", "a"), ("b", "a#b"), ("q", "q"), ("x", "a#b")]) := by
      decide +kernel
    obtain ⟨n, ends, met⟩ := exists_of_toOption met
    obtain ⟨uniform, named⟩ := of_decide_eq_true (congrArg Prod.fst met)
    have others : rowsOf n.log = [("a", "a"), ("b", "a#b"), ("q", "q"), ("x", "a#b")] :=
      congrArg Prod.snd met
    refine ⟨t, c, n, ?_, walked, ends, uniform, named, ?_⟩
    · exact Store.ofDirectory_of_ordered ["lib"] _ (by decide +kernel) (by decide +kernel)
        (by decide +kernel) (by decide +kernel) (by decide +kernel)
    · rw [rows, others]
      decide

end DispatchTables
