import DispatchTables.Proofs.Traversal.Graph
import DispatchTables.Proofs.Traversal.Roaming

/-!
# Going in again finds nothing new

When all that the edges of a node lead to has been met, and all edges of the nodes met off the path
lead to what has been met in their turn, a walk that goes in again only meets what it has met.

## Main Definitions

* `Graph.Leads`: an edge leads nowhere, to a chip, or to something that has been met.
* `Graph.Done`: so do all edges of a node.
* `Graph.Repeats`: what a walk meets has been met.

## Main Statements

* `Graph.Leads.meets`: what is met at the end of such an edge.
* `Graph.roams_again`: going into what is done only meets what has been met.
-/

namespace DispatchTables

variable {path : List String} {r : Resolved} {reference : Reference} {name : String}
  {node : NodeRecord} {c c' : Context}

/-- A document that is no node, wherever it is met. -/
def IsChip (r : Resolved) : Prop :=
  ∀ reference, meetResolved [] r reference = .ok (.obstacle (.chip r.key))

theorem isChip_of_meetResolved
    (h : meetResolved path r reference = .ok (.obstacle (.chip r.key))) : IsChip r := by
  intro other
  obtain ⟨-, -, name, chip, named, read⟩ := chip_of_meetResolved h
  exact meetResolved_chip List.not_mem_nil named read

namespace Graph

variable {g : Graph} {p : Resolved} {edge : ComponentEdge} {target : Target} {leg : Leg}
  {log met : List Sighting} {n n' : Roaming}

/-! ### Where edges lead -/

/-- A sighting of a node of the graph, under one of its names. -/
structure Sees (g : Graph) (s : Sighting) : Prop where
  found : g.Found s.source
  called : g.Called s.source s.name
  node : nodeOf? s.source = some s.node

theorem Sees.node_eq {s s' : Sighting} (h : g.Sees s) (h' : g.Sees s')
    (same : s.source = s'.source) : s.node = s'.node := by
  have here := h.node
  rw [same, h'.node] at here
  exact (Option.some.inj here).symm

/-- **An edge leads nowhere, to a chip, or to something that has been met**, whenever it is looked
along. -/
def Leads (g : Graph) (log : List Sighting) (p : Resolved) (edge : ComponentEdge) : Prop :=
  ∀ c, g.Arises c → ∃ target c', look g.files p edge c = .ok (target, c') ∧
    ∀ r, target.doc? = some r → IsChip r ∨ ∃ s ∈ log, s.source = r

/-- So do all edges of a node's own. -/
def Done (g : Graph) (log : List Sighting) (s : Sighting) : Prop :=
  ∀ edge ∈ s.node.edges, g.Leads log s.source edge

theorem Leads.mono (h : g.Leads log p edge) (more : ∀ s ∈ log, s ∈ met) : g.Leads met p edge := by
  intro c arises
  obtain ⟨target, c', looked, ends⟩ := h c arises
  refine ⟨target, c', looked, fun r found => (ends r found).imp_right ?_⟩
  rintro ⟨s, mem, same⟩
  exact ⟨s, more s mem, same⟩

theorem Done.mono {s : Sighting} (h : g.Done log s) (more : ∀ s ∈ log, s ∈ met) : g.Done met s :=
  fun edge mem => (h edge mem).mono more

/-- Where an edge has led it will lead again. -/
theorem leads_of_look (single : g.Single) (arises : g.Arises c) (has : g.Has p edge)
    (looked : look g.files p edge c = .ok (target, c'))
    (ends : ∀ r, target.doc? = some r → IsChip r ∨ ∃ s ∈ log, s.source = r) :
    g.Leads log p edge := by
  intro e later
  obtain ⟨other, e', again, same⟩ := look_again single arises has looked later
  exact ⟨other, e', again, fun r is => ends r (same ▸ is)⟩

/-- What is met on a walk through nodes that are done. -/
theorem Leads.meets (leads : g.Leads log leg.parent leg.edge) (sees : ∀ s ∈ log, g.Sees s)
    (has : g.Has leg.parent leg.edge) (arises : g.Arises c) (begun : g.root.key ∈ path) :
    (∃ o c', meet g.files path leg c = .ok (.obstacle o, c') ∧ g.Arises c') ∨
      ∃ s ∈ log, ∃ reference c', s.source.key ∉ path ∧ g.Arises c' ∧
        meet g.files path leg c =
          .ok (.node s.source reference s.name s.node, c') := by
  obtain ⟨target, c', looked, ends⟩ := leads c arises
  have later := has.arises arises looked
  cases target with
  | missing m => exact .inl ⟨_, c', meet_of_look looked rfl, later⟩
  | found r reference =>
    by_cases on : r.key ∈ path
    · exact .inl ⟨_, c', meet_of_look looked (meetResolved_on on), later⟩
    rcases ends r rfl with chip | ⟨s, mem, rfl⟩
    · have skipped := (meetResolved_off on).trans (chip reference)
      exact .inl ⟨_, c', meet_of_look looked skipped, later⟩
    · have seen := sees s mem
      -- the root is on every path, so what is met here has a name
      have named : s.source.name = some s.name :=
        seen.called.resolve_right fun root => on (root.1 ▸ begun)
      exact .inr ⟨s, mem, reference, c', on, later,
        meet_of_look looked (meetResolved_node on named seen.node)⟩

/-! ### Going in again -/

/-- What is true of the edges to be followed is true of those of the node. -/
theorem forall_hardwareLegs {P : Resolved → ComponentEdge → Prop} {owner : Option String} :
    (∀ leg ∈ hardwareLegs r name owner node, P leg.parent leg.edge) ↔
      ∀ edge ∈ node.hardwareReference.toList.map ComponentEdge.reference, P r edge := by
  unfold hardwareLegs
  rw [List.forall_mem_map, List.forall_mem_map]

theorem forall_edgeLegs {P : Resolved → ComponentEdge → Prop} {kind : EdgeKind}
    {owner : Option String} {edges : List ComponentEdge} :
    (∀ leg ∈ edgeLegs r kind owner edges, P leg.parent leg.edge) ↔ ∀ edge ∈ edges, P r edge := by
  unfold edgeLegs
  rw [List.forall_mem_map]

/-- Nothing is met but what has been met, though perhaps by edges of other kinds. -/
structure Repeats (g : Graph) (met : List Sighting) (n n' : Roaming) : Prop where
  arises : g.Arises n'.context
  family : n'.family = n.family
  more : ∃ more, n'.log = n.log ++ more ∧
    ∀ s ∈ more, ∃ old ∈ met, s.source = old.source ∧ s.name = old.name ∧ s.node = old.node

theorem Repeats.refl (arises : g.Arises n.context) : g.Repeats met n n :=
  ⟨arises, rfl, [], (List.append_nil _).symm, fun _ mem => nomatch mem⟩

theorem Repeats.trans {n'' : Roaming} (h₁ : g.Repeats met n n') (h₂ : g.Repeats met n' n'') :
    g.Repeats met n n'' := by
  obtain ⟨first, eq, old⟩ := h₁.more
  obtain ⟨later, eq', old'⟩ := h₂.more
  refine ⟨h₂.arises, h₂.family.trans h₁.family, first ++ later, ?_, ?_⟩
  · rw [eq', eq, List.append_assoc]
  · intro s mem
    exact (List.mem_append.mp mem).elim (old s) (old' s)

theorem Repeats.mem (h : g.Repeats met n n') {s : Sighting} (mem : s ∈ n.log) : s ∈ n'.log := by
  obtain ⟨more, eq, -⟩ := h.more
  rw [eq]
  exact List.mem_append_left _ mem

theorem Repeats.knows (h : g.Repeats met n n')
    (known : ∀ s ∈ met, ∃ old ∈ n.log, old.name = s.name) :
    ∀ s ∈ met, ∃ old ∈ n'.log, old.name = s.name := by
  intro s mem
  obtain ⟨old, has, same⟩ := known s mem
  exact ⟨old, h.mem has, same⟩

/-- The number of sightings off a path. -/
def offPath (met : List Sighting) (path : List String) : Nat :=
  (met.filter fun s => !path.contains s.source.key).length

/-- **Going into what is done only meets what has been met.**  Here `met` is what has been met when
the first of the edges is followed. -/
theorem roams_again {legs : List Leg} (sees : ∀ s ∈ met, g.Sees s) (begun : g.root.key ∈ path)
    (done : ∀ s ∈ met, s.source.key ∉ path → g.Done met s)
    (has : ∀ leg ∈ legs, g.Has leg.parent leg.edge)
    (leads : ∀ leg ∈ legs, g.Leads met leg.parent leg.edge)
    (arises : g.Arises n.context) (known : ∀ s ∈ met, ∃ old ∈ n.log, old.name = s.name) :
    ∃ n', Roams g.files firstNewSubsystem path legs n n' ∧ g.Repeats met n n' := by
  -- a path within what has been met ends, and so does a list of edges
  induction left : offPath met path using Nat.strongRecOn generalizing path legs n with
  | _ k nested =>
    induction legs generalizing n with
    | nil => exact ⟨n, .nil, .refl arises⟩
    | cons leg rest ih =>
      have has' := fun leg mem => has leg (List.mem_cons_of_mem _ mem)
      have leads' := fun leg mem => leads leg (List.mem_cons_of_mem _ mem)
      rcases (leads leg List.mem_cons_self).meets sees (has leg List.mem_cons_self) arises begun
        with ⟨o, c, blocked, here⟩ | ⟨s, mem, reference, c, off, here, entered⟩
      · obtain ⟨n', roams, repeats⟩ := ih has' leads' (n := { n with context := c }) here known
        exact ⟨n', .blocked blocked roams, repeats.arises, repeats.family, repeats.more⟩
      have seen := sees s mem
      have fewer : offPath met (path ++ [s.source.key]) < offPath met path :=
        @length_filter_append_lt _ met (fun t => t.source.key) path s mem off
      have under : g.root.key ∈ path ++ [s.source.key] := List.mem_append_left _ begun
      have still : ∀ t ∈ met, t.source.key ∉ path ++ [s.source.key] → g.Done met t := by
        intro t mem off
        exact done t mem fun on => off (List.mem_append_left _ on)
      have own : ∀ edge ∈ s.node.edges, g.Has s.source edge := fun edge mem =>
        ⟨seen.found, .own seen.node mem⟩
      have onward := done s mem off
      -- the node is sighted, then what is below it, and then come the other edges
      have sight : g.Repeats met n (n.sight c ⟨leg.kind, s.source, s.name, s.node⟩) := by
        refine ⟨here, rfl, _, rfl, fun t new => ⟨s, mem, ?_⟩⟩
        rw [List.mem_singleton.mp new]
        exact ⟨rfl, rfl, rfl⟩
      have rule : (leg.kind == .subsystem && firstNewSubsystem n.log s.name) = false := by
        obtain ⟨old, has, same⟩ := known s mem
        have met : (n.log.any fun t => t.name == s.name) = true :=
          List.any_eq_true.mpr ⟨old, has, beq_iff_eq.mpr same⟩
        rw [firstNewSubsystem, met, Bool.not_true, Bool.and_false]
      obtain ⟨n₁, up, first⟩ := nested _ (left ▸ fewer) under still
        (forall_hardwareLegs.mpr fun edge mem => own edge (List.mem_append_left _ mem))
        (forall_hardwareLegs.mpr fun edge mem => onward edge (List.mem_append_left _ mem))
        sight.arises (sight.knows known) rfl
      obtain ⟨n₂, down, second⟩ := nested _ (left ▸ fewer) under still
        (forall_edgeLegs.mpr fun edge mem => own edge (List.mem_append_right _ mem))
        (forall_edgeLegs.mpr fun edge mem => onward edge (List.mem_append_right _ mem))
        first.arises (first.knows (sight.knows known)) rfl
      have above := (sight.trans first).trans second
      obtain ⟨n', roams, third⟩ := ih has' leads' above.arises (above.knows known)
      exact ⟨n', .entered entered rule.symm up down roams, above.trans third⟩

end Graph

end DispatchTables
