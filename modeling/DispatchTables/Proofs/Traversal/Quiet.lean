import DispatchTables.Proofs.Traversal.Listed
import DispatchTables.Proofs.Traversal.Twins

/-!
# Walks on which nothing in place names sources

Where no document of a store has a component in place that names sources, no walk leads to one, for
the components in place are those of some document.  So all that a walk looks at is resolved without
the bound on nesting.

## Main Definitions

* `ComponentEdge.Quiet`: nothing in place at the end of an edge names sources.
* `Walk.Quiet`: so it is with what a walk has read and has ahead of it.

## Main Statements

* `quiet_of_nodeOf`, `quiet_of_botOf`: the edges of a quiet document are quiet.
* `look_quiet`: along a quiet edge a quiet document is found.
* `traverseEnds_of_quiet`: what the walk from a quiet bot looks at is resolved without the bound.
-/

namespace DispatchTables

variable {files : FileTree} {s : Store} {c c₁ : Context} {path : List String} {parent r : Resolved}
  {edge : ComponentEdge} {leg : Leg} {legs : List Leg} {w w' : Walk} {trail : Trail} {doc : Members}

/-! ### Edges -/

/-- **Nothing in place at the end of an edge names sources**, below the object that stands there. -/
def ComponentEdge.Quiet : ComponentEdge → Prop
  | .inline doc => quietLists doc = true
  | _ => True

theorem ComponentEdge.Listed.quiet (h : edge.Listed doc) (quiet : quietLists doc = true) :
    edge.Quiet := by
  obtain ⟨key, lists, items, inDoc, item, mem, read⟩ := h
  have own : item.quiet = true :=
    List.all_eq_true.mp (listsAll_iff.mp quiet _ inDoc lists) item mem
  unfold ComponentEdge.decode at read
  split at read
  · cases read
    trivial
  · split at read
    · cases read
      trivial
    · cases read
      exact quietLists_of_quiet own
  · cases read

/-! ### Records -/

/-- The components of a node are at the ends of quiet edges. -/
structure NodeRecord.Quiet (n : NodeRecord) : Prop where
  components : ∀ edge ∈ n.components, edge.Quiet
  positioned : ∀ edge ∈ n.positionedComponents, edge.Quiet

theorem NodeRecord.Quiet.childEdges {n : NodeRecord} (h : n.Quiet) :
    ∀ edge ∈ n.childEdges, edge.Quiet := by
  intro edge mem
  exact (List.mem_append.mp mem).elim (h.components edge) (h.positioned edge)

theorem NodeRecord.Listed.quiet {n : NodeRecord} (h : n.Listed doc)
    (quiet : quietLists doc = true) : n.Quiet where
  components edge mem := (h.components edge mem).quiet quiet
  positioned edge mem := (h.positioned edge mem).quiet quiet

/-- The edges of a bot, all at the ends of quiet edges. -/
structure BotRecord.Quiet (bot : BotRecord) : Prop where
  node : bot.node.Quiet
  subsystems : ∀ edge ∈ bot.subsystems, edge.Quiet
  family : ∀ edge ∈ bot.familyComponents, edge.Quiet

/-- **The edges of a quiet document are quiet**, those of a node and those of a bot. -/
theorem quiet_of_nodeOf {node : NodeRecord} (quiet : quietLists r.doc = true)
    (isNode : nodeOf? r = some node) : node.Quiet :=
  (listed_of_nodeOf isNode).quiet quiet

theorem quiet_of_botOf {bot : BotRecord} (quiet : quietLists r.doc = true)
    (isBot : botOf r = .ok bot) : bot.Quiet where
  node := (listed_of_botOf isBot).node.quiet quiet
  subsystems edge mem := ((listed_of_botOf isBot).subsystems edge mem).quiet quiet
  family edge mem := ((listed_of_botOf isBot).family edge mem).quiet quiet

/-! ### Looking -/

/-- What a reference means is resolved to a quiet document. -/
theorem Context.Quiet.loadResolved (h : c.Quiet files s) (reference : String) :
    (c.loadResolved files reference).2.Quiet files s ∧
      ∀ r, (c.loadResolved files reference).1 = .ok r → quietLists r.doc = true := by
  have grown := Store.load_grows files c.store reference
  rw [loadResolved_steps]
  cases loaded : c.store.load files reference with
  | mk found t =>
    rw [loaded] at grown
    cases found with
    | error e =>
      have stored : Context.Quiet files s { c with store := t } := h.congr grown rfl
      exact ⟨stored.absorb, nofun⟩
    | ok d =>
      obtain ⟨own, after⟩ := h.load loaded
      obtain ⟨-, inner, later⟩ := after.ends own
      refine ⟨later, ?_⟩
      rintro r ⟨⟩
      exact inner

/-- **Along a quiet edge** what is looked at is resolved without the bound on nesting. -/
theorem lookEnds_of_quiet (parent : Resolved) (h : c.Quiet files s) (quiet : edge.Quiet) :
    LookEnds files parent edge c := by
  cases edge with
  | reference text => exact fun reference _ => h.loadEnds reference.name
  | positioned text => exact fun reference _ => h.loadEnds reference.name
  | inline doc =>
    have own : quietLists doc = true := quiet
    exact fun label _ => (h.ends own).1

/-- What is found there is quiet. -/
theorem look_quiet {target : Target} (h : c.Quiet files s) (quiet : edge.Quiet)
    (looked : look files parent edge c = .ok (target, c₁)) :
    c₁.Quiet files s ∧ ∀ r reference, target = .found r reference → quietLists r.doc = true := by
  rcases look_cases looked with
    ⟨reference, -, ⟨r, loaded, rfl⟩ | ⟨m, loaded, rfl⟩⟩ | ⟨doc, label, rfl, -, rfl, rfl⟩
  · obtain ⟨after, inner⟩ := h.loadResolved reference.name
    rw [loaded] at after inner
    refine ⟨after, ?_⟩
    rintro r' reference ⟨⟩
    exact inner r rfl
  · have after := (h.loadResolved reference.name).1
    rw [loaded] at after
    exact ⟨after, nofun⟩
  · obtain ⟨-, inner, after⟩ :=
      h.ends (d := .ofDocument (parent.key ++ "#" ++ label) parent.path doc) quiet
    refine ⟨after, ?_⟩
    rintro r reference ⟨⟩
    exact inner

/-- What is met at the end of a quiet edge is an obstacle, or a node all of whose components are at
the ends of quiet edges. -/
theorem meet_quiet {m : Meeting} (h : c.Quiet files s) (quiet : leg.edge.Quiet)
    (met : meet files path leg c = .ok (m, c₁)) :
    c₁.Quiet files s ∧ ∀ r reference name node, m = .node r reference name node → node.Quiet := by
  obtain ⟨target, looked, met⟩ := meet_eq_ok met
  obtain ⟨after, inner⟩ := look_quiet h quiet looked
  refine ⟨after, ?_⟩
  rintro r reference name node rfl
  cases target with
  | missing m => cases met
  | found r' reference' =>
    have quiet := inner r' reference' rfl
    rcases meetResolved_cases met with ⟨same, -⟩ | ⟨same, -, -⟩ | ⟨_, _, same, -, -, isNode⟩
    · cases same
    · cases same
    · cases same
      exact quiet_of_nodeOf quiet isNode

/-! ### Walking -/

/-- What a walk has read is quiet, and so are the edges that wait for the first subsystem. -/
structure Walk.Quiet (files : FileTree) (s : Store) (w : Walk) : Prop where
  context : w.context.Quiet files s
  family : ∀ edge ∈ w.family.getD [], edge.Quiet

theorem Walk.Quiet.looked (h : w.Quiet files s) (quiet : c.Quiet files s) :
    Walk.Quiet files s { w with context := c } := ⟨quiet, h.family⟩

theorem Walk.Quiet.report (h : w.Quiet files s) (d : Diagnostic) : (w.report d).Quiet files s :=
  ⟨h.context.congr (Store.Grows.refl files _) rfl, h.family⟩

theorem Walk.Quiet.recordBus (h : w.Quiet files s) (device : String) (owner : Option String)
    (node : NodeRecord) : (w.recordBus device owner node).Quiet files s := by
  rw [recordBus_eq]
  exact ⟨h.context, h.family⟩

theorem Walk.Quiet.register (h : w.Quiet files s) (key name : String) (node : NodeRecord)
    (kind : EdgeKind) (owner : Option String) (config : Option Expansion) :
    (w.register key name node kind owner config).2.Quiet files s := by
  rw [register_eq]
  exact ⟨h.context, h.family⟩

theorem Walk.Quiet.edgesBelow (h : w.Quiet files s) (kind : EdgeKind) {node : NodeRecord}
    (quiet : node.Quiet) :
    (∀ edge ∈ (edgesBelow kind node w).1, edge.Quiet) ∧
      (edgesBelow kind node w).2.Quiet files s := by
  rw [edgesBelow_eq]
  refine ⟨?_, h.context, ?_⟩
  · intro edge mem
    rcases List.mem_append.mp mem with waiting | own
    · split at waiting
      · exact h.family edge waiting
      · cases waiting
    · exact quiet.childEdges edge own
  · dsimp only
    split
    · exact nofun
    · exact h.family

theorem quiet_hardwareLegs (parent : Resolved) (name : String) (owner : Option String)
    (node : NodeRecord) : ∀ leg ∈ hardwareLegs parent name owner node, leg.edge.Quiet := by
  intro leg mem
  obtain ⟨text, -, rfl⟩ := List.mem_map.mp mem
  trivial

theorem quiet_edgeLegs (parent : Resolved) (kind : EdgeKind) (owner : Option String)
    {edges : List ComponentEdge} (quiet : ∀ edge ∈ edges, edge.Quiet) :
    ∀ leg ∈ edgeLegs parent kind owner edges, leg.edge.Quiet := by
  intro leg mem
  obtain ⟨edge, inEdges, rfl⟩ := List.mem_map.mp mem
  exact quiet edge inEdges

/-- Walks along quiet edges stay quiet. -/
theorem Walks.quiet (h : Walks files path legs w trail w')
    (quiet : ∀ leg ∈ legs, leg.edge.Quiet) (start : w.Quiet files s) : w'.Quiet files s := by
  induction h with
  | nil => exact start
  | blocked met _ ih =>
    rw [List.forall_mem_cons] at quiet
    obtain ⟨after, -⟩ := meet_quiet start.context quiet.1 met
    exact ih quiet.2 ((start.looked after).report _)
  | again met _ _ ih =>
    rw [List.forall_mem_cons] at quiet
    obtain ⟨after, -⟩ := meet_quiet start.context quiet.1 met
    exact ih quiet.2 ((start.looked after).recordBus _ _ _)
  | entered met _ _ _ _ _ ihUp ihDown ih =>
    rw [List.forall_mem_cons] at quiet
    obtain ⟨after, isQuiet⟩ := meet_quiet start.context quiet.1 met
    have up := ihUp (quiet_hardwareLegs _ _ _ _) ((start.looked after).register ..)
    obtain ⟨edges, below⟩ := up.edgesBelow _ (isQuiet _ _ _ _ rfl)
    exact ih quiet.2 (ihDown (quiet_edgeLegs _ _ _ edges) below)

/-- **Where a walk along quiet edges looks** it looks along quiet edges. -/
theorem Looks.quiet (h : Looks files path legs w leg c) (quiet : ∀ leg ∈ legs, leg.edge.Quiet)
    (start : w.Quiet files s) : leg.edge.Quiet ∧ c.Quiet files s := by
  induction h with
  | first => exact ⟨quiet _ List.mem_cons_self, start.context⟩
  | hardware met _ _ _ ih =>
    obtain ⟨after, -⟩ := meet_quiet start.context (quiet _ List.mem_cons_self) met
    exact ih (quiet_hardwareLegs _ _ _ _) ((start.looked after).register ..)
  | components met _ _ up _ ih =>
    obtain ⟨after, isQuiet⟩ := meet_quiet start.context (quiet _ List.mem_cons_self) met
    have upward := up.quiet (quiet_hardwareLegs _ _ _ _) ((start.looked after).register ..)
    obtain ⟨edges, below⟩ := upward.edgesBelow _ (isQuiet _ _ _ _ rfl)
    exact ih (quiet_edgeLegs _ _ _ edges) below
  | later first _ ih =>
    rw [List.forall_mem_cons] at quiet
    have one := first.quiet (by simpa using quiet.1) start
    exact ih quiet.2 one

/-! ### The walk from a bot -/

theorem botStart_quiet (root : Resolved) {bot : BotRecord} (h : c.Quiet files s)
    (quiet : bot.Quiet) : (botStart root bot c).Quiet files s := by
  have start : (unwalked bot c).Quiet files s := by
    refine ⟨h, ?_⟩
    unfold unwalked
    dsimp only
    split
    · exact nofun
    · exact quiet.family
  exact start.register ..

/-- The edges that wait for a subsystem, and then those of the bot itself. -/
theorem Walk.Quiet.bot {bot : BotRecord} (h : w.Quiet files s) (quiet : bot.Quiet) :
    (∀ edge ∈ w.family.getD [] ++ bot.node.childEdges, edge.Quiet) ∧
      Walk.Quiet files s { w with family := none } := by
  refine ⟨?_, h.context, nofun⟩
  intro edge mem
  exact (List.mem_append.mp mem).elim (h.family edge) (quiet.node.childEdges edge)

/-- **All that the walk from a quiet bot looks at is resolved without the bound on nesting.** -/
theorem traverseEnds_of_quiet {root : Resolved} (h : c.Quiet files s)
    (quiet : quietLists root.doc = true) : TraverseEnds files c root := by
  intro bot isBot leg k looks
  have own := quiet_of_botOf quiet isBot
  have start := botStart_quiet root h own
  suffices along : leg.edge.Quiet ∧ k.Quiet files s from lookEnds_of_quiet _ along.2 along.1
  cases looks with
  | hardware looks => exact looks.quiet (quiet_hardwareLegs _ _ _ _) start
  | subsystems up looks =>
    exact looks.quiet (quiet_edgeLegs _ _ _ own.subsystems)
      (up.quiet (quiet_hardwareLegs _ _ _ _) start)
  | components up across looks =>
    have after := across.quiet (quiet_edgeLegs _ _ _ own.subsystems)
      (up.quiet (quiet_hardwareLegs _ _ _ _) start)
    obtain ⟨edges, below⟩ := after.bot own
    exact looks.quiet (quiet_edgeLegs _ _ _ edges) below

/-- The walk from a quiet bot leaves the context quiet. -/
theorem traverse_quiet {root : Resolved} {t : Traversal} (h : c.Quiet files s)
    (quiet : quietLists root.doc = true) (walked : traverse files c root = (.ok t, c₁)) :
    c₁.Quiet files s := by
  obtain ⟨bot, up, w₁, across, w₂, down, w, isBot, walks, -, rfl⟩ := traverse_walks walked
  have own := quiet_of_botOf quiet isBot
  have start := botStart_quiet root h own
  have after := walks.subsystems.quiet (quiet_edgeLegs _ _ _ own.subsystems)
    (walks.hardware.quiet (quiet_hardwareLegs _ _ _ _) start)
  obtain ⟨edges, below⟩ := after.bot own
  exact (walks.components.quiet (quiet_edgeLegs _ _ _ edges) below).context

end DispatchTables
