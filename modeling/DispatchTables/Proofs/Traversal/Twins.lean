import DispatchTables.Proofs.Inheritance.Twins
import DispatchTables.Proofs.Traversal.Trail
import DispatchTables.Proofs.Traversal.Warnings

/-!
# Walking on two runs

A walk asks the store and the resolver where its edges lead, and does the rest by what it is told.
So two walks from one bot that end well, on runs that read the same, follow the same edges, and
yield the same rows and bus encounters.

## Main Definitions

* `LookEnds`: what an edge leads to is resolved without the bound on nesting.
* `Looks`, `BotLooks`: where a walk looks.
* `TraverseEnds`: all that a walk from a bot looks at is resolved so.

## Main Statements

* `look_inStep`: edges lead to the same on both runs.
* `Walks.inStep`: and so do walks.
* `traverse_inStep`: two bots that are the same have the same traversal.
-/

namespace DispatchTables

variable {files : FileTree} {o o' : Upshot} {path : List String} {c c' c₁ c₁' : Context}
  {parent : Resolved} {edge : ComponentEdge} {w w' : Walk}

/-! ### Looking -/

/-- What an edge leads to is resolved, if it leads anywhere, without the bound on nesting. -/
def LookEnds (files : FileTree) (parent : Resolved) (edge : ComponentEdge) (c : Context) : Prop :=
  match edge with
  | .reference text | .positioned text =>
    ∀ reference, Reference.parse? text = some reference → c.LoadEnds files reference.name
  | .inline doc =>
    ∀ label, declaredName doc = some label →
      c.Ends files (.ofDocument (parent.key ++ "#" ++ label) parent.path doc)

theorem LookEnds.reference {reference : Reference} (ends : LookEnds files parent edge c)
    (given : edge.reference? = some reference) : c.LoadEnds files reference.name := by
  cases edge with
  | reference text => exact ends reference given
  | positioned text => exact ends reference given
  | inline doc => cases given

/-- The same target on two runs. -/
inductive Target.Twin : Target → Target → Prop where
  | missing {m m'} : Twin (.missing m) (.missing m')
  | found {r r' reference} : r.Twin r' → Twin (.found r reference) (.found r' reference)

theorem look_onward {target : Target} (h : look files parent edge c = .ok (target, c₁)) :
    Onward files c c₁ := by
  rcases look_cases h with
    ⟨reference, -, ⟨r, loaded, -⟩ | ⟨m, loaded, -⟩⟩ | ⟨doc, label, -, -, rfl, -⟩
  · have onward := loadResolved_onward files c reference.name
    rwa [loaded] at onward
  · have onward := loadResolved_onward files c reference.name
    rwa [loaded] at onward
  · exact resolve_onward files c _

/-- **Edges lead to the same** on both runs. -/
theorem look_inStep {target target' : Target} (alike : Alike o o') (place : String)
    (twin : c.Twin c') (ends : LookEnds o.files parent edge c)
    (ends' : LookEnds o'.files { parent with path := place } edge c')
    (h : look o.files parent edge c = .ok (target, c₁))
    (h' : look o'.files { parent with path := place } edge c' = .ok (target', c₁'))
    (before : Precedes o c₁) (before' : Precedes o' c₁') :
    target.Twin target' ∧ c₁.Twin c₁' := by
  rcases look_cases h with ⟨reference, given, looked⟩ | ⟨doc, label, rfl, named, rfl, rfl⟩
  · rcases look_cases h' with ⟨reference', given', looked'⟩ | ⟨doc, label, rfl, -⟩
    · obtain rfl : reference = reference' := Option.some.inj (given.symm.trans given')
      -- whether the reference is found decides on both runs alike
      rcases looked with ⟨r, loaded, rfl⟩ | ⟨m, loaded, rfl⟩
      · rcases looked' with ⟨r', loaded', rfl⟩ | ⟨m', loaded', rfl⟩
        · obtain ⟨same, twin₁⟩ := loadResolved_inStep alike twin (ends.reference given)
            (ends'.reference given) loaded loaded' before before'
          exact ⟨.found same, twin₁⟩
        · exact (loadResolved_not_missing alike.symm loaded' loaded before' before).elim
      · rcases looked' with ⟨r', loaded', rfl⟩ | ⟨m', loaded', rfl⟩
        · exact (loadResolved_not_missing alike loaded loaded' before before').elim
        · exact ⟨.missing, twin.congr (loadResolved_memory loaded) (loadResolved_memory loaded')⟩
    · cases given
  · rcases look_cases h' with ⟨reference, given, -⟩ | ⟨doc', label', same, named', rfl, rfl⟩
    · cases given
    · cases same
      obtain rfl : label = label' := Option.some.inj (named.symm.trans named')
      obtain ⟨same, twin₁⟩ := resolve_inStep alike twin _ place (ends label named)
        (ends' label named) before before'
      exact ⟨.found same, twin₁⟩

/-! ### Meeting -/

/-- The same met on two runs: both times an obstacle, or the same node. -/
inductive Meeting.Twin : Meeting → Meeting → Prop where
  | obstacle {o₁ o₂ : Obstacle} : Twin (.obstacle o₁) (.obstacle o₂)
  | node {r : Resolved} {reference : Reference} {name : String} {node : NodeRecord}
      (place : String) :
      Twin (.node r reference name node) (.node { r with path := place } reference name node)

theorem meetTarget_twin {target target' : Target} {m m' : Meeting} (same : target.Twin target')
    (h : meetTarget path target = .ok m) (h' : meetTarget path target' = .ok m') : m.Twin m' := by
  cases same with
  | missing =>
    cases h
    cases h'
    exact .obstacle
  | @found r r' reference twin =>
    obtain ⟨place, rfl⟩ := twin
    rcases meetResolved_cases h with ⟨rfl, onPath⟩ | ⟨rfl, offPath, chip⟩ |
      ⟨name, node, rfl, offPath, named, isNode⟩
    · rcases meetResolved_cases h' with ⟨rfl, -⟩ | ⟨-, offPath, -⟩ | ⟨_, _, -, offPath, -, -⟩
      · exact .obstacle
      · exact absurd onPath offPath
      · exact absurd onPath offPath
    · rcases meetResolved_cases h' with ⟨rfl, -⟩ | ⟨rfl, -, -⟩ | ⟨_, _, -, -, -, isNode⟩
      · exact .obstacle
      · exact .obstacle
      · exact absurd (chip.symm.trans isNode) (Option.some_ne_none _).symm
    · rcases meetResolved_cases h' with ⟨-, onPath⟩ | ⟨-, -, chip⟩ |
        ⟨name', node', rfl, -, named', isNode'⟩
      · exact absurd onPath offPath
      · exact absurd (chip.symm.trans isNode) (Option.some_ne_none _).symm
      · obtain rfl : name = name' := Option.some.inj (named.symm.trans named')
        obtain rfl : node = node' := Option.some.inj (isNode.symm.trans isNode')
        exact .node place

/-- An edge of a node from another file. -/
def Leg.movedTo (place : String) (leg : Leg) : Leg :=
  { leg with parent := { leg.parent with path := place } }

theorem hardwareLegs_movedTo (r : Resolved) (place name : String) (owner : Option String)
    (node : NodeRecord) :
    hardwareLegs { r with path := place } name owner node =
      (hardwareLegs r name owner node).map (Leg.movedTo place) := by
  simp [hardwareLegs, Leg.movedTo]

theorem edgeLegs_movedTo (r : Resolved) (place : String) (kind : EdgeKind) (owner : Option String)
    (edges : List ComponentEdge) :
    edgeLegs { r with path := place } kind owner edges =
      (edgeLegs r kind owner edges).map (Leg.movedTo place) := by
  simp [edgeLegs, Leg.movedTo, Resolved.name]

theorem meet_onward {leg : Leg} {m : Meeting} (h : meet files path leg c = .ok (m, c₁)) :
    Onward files c c₁ := by
  obtain ⟨target, looked, -⟩ := meet_eq_ok h
  exact look_onward looked

theorem meet_inStep {leg : Leg} {m m' : Meeting} (alike : Alike o o') (place : String)
    (twin : c.Twin c') (ends : LookEnds o.files leg.parent leg.edge c)
    (ends' : LookEnds o'.files (leg.movedTo place).parent leg.edge c')
    (h : meet o.files path leg c = .ok (m, c₁))
    (h' : meet o'.files path (leg.movedTo place) c' = .ok (m', c₁')) (before : Precedes o c₁)
    (before' : Precedes o' c₁') : m.Twin m' ∧ c₁.Twin c₁' := by
  obtain ⟨target, looked, met⟩ := meet_eq_ok h
  obtain ⟨target', looked', met'⟩ := meet_eq_ok h'
  obtain ⟨same, twin₁⟩ := look_inStep alike place twin ends ends' looked looked' before before'
  exact ⟨meetTarget_twin same met met', twin₁⟩

/-! ### Walking -/

theorem reportAll_onward (files : FileTree) (c : Context) (ds : List Diagnostic) :
    Onward files c (c.reportAll ds) := ⟨Store.Grows.refl files _, (queues_reportAll c ds).waits⟩

theorem report_onward (files : FileTree) (c : Context) (d : Diagnostic) :
    Onward files c (c.report d) := reportAll_onward files c [d]

theorem Walks.onward {legs : List Leg} {trail : Trail}
    (h : Walks files path legs w trail w') : Onward files w.context w'.context := by
  induction h with
  | nil => exact .refl files _
  | blocked met _ ih => exact ((meet_onward met).trans (report_onward files _ _)).trans ih
  | again met _ _ ih =>
    rw [recordBus_eq] at ih
    exact (meet_onward met).trans ih
  | entered met _ _ _ _ _ up down ih =>
    rw [register_eq] at up
    rw [edgesBelow_eq] at down
    exact (((meet_onward met).trans up).trans down).trans ih

/-- **Where a walk looks** along some edges: at the first, below it if a node is entered there, and
along the rest. -/
inductive Looks (files : FileTree) : List String → List Leg → Walk → Leg → Context → Prop where
  | first : ∀ {path leg rest w}, Looks files path (leg :: rest) w leg w.context
  | hardware : ∀ {path leg rest w r reference name node config c l k},
      meet files path leg w.context = .ok (.node r reference name node, c) →
      w.seen.get? name = none →
      configOf name node reference = .ok config →
      Looks files (path ++ [r.key])
        (hardwareLegs r name (ownerBelow leg.kind name leg.owner node) node)
        (Walk.register { w with context := c } r.key name node leg.kind leg.owner config).2 l k →
      Looks files path (leg :: rest) w l k
  | components : ∀ {path leg rest w r reference name node config c hardware w₂ l k},
      meet files path leg w.context = .ok (.node r reference name node, c) →
      w.seen.get? name = none →
      configOf name node reference = .ok config →
      Walks files (path ++ [r.key])
        (hardwareLegs r name (ownerBelow leg.kind name leg.owner node) node)
        (Walk.register { w with context := c } r.key name node leg.kind leg.owner config).2
        hardware w₂ →
      Looks files (path ++ [r.key])
        (edgeLegs r .component (ownerBelow leg.kind name leg.owner node)
          (edgesBelow leg.kind node w₂).1)
        (edgesBelow leg.kind node w₂).2 l k →
      Looks files path (leg :: rest) w l k
  | later : ∀ {path leg rest w trail w₁ l k},
      Walks files path [leg] w trail w₁ →
      Looks files path rest w₁ l k →
      Looks files path (leg :: rest) w l k

/-- What all looks of a walk lead to is resolved without the bound on nesting. -/
def LooksEnd (files : FileTree) (path : List String) (legs : List Leg) (w : Walk) : Prop :=
  ∀ leg c, Looks files path legs w leg c → LookEnds files leg.parent leg.edge c

/-- The same walk on two runs. -/
structure Walk.Twin (w w' : Walk) : Prop where
  family : w'.family = w.family
  seen : w'.seen = w.seen
  entries : w'.entries = w.entries
  busUses : w'.busUses = w.busUses
  context : w.context.Twin w'.context

theorem Walk.Twin.looked (h : w.Twin w') (twin : c.Twin c') :
    Walk.Twin { w with context := c } { w' with context := c' } :=
  ⟨h.family, h.seen, h.entries, h.busUses, twin⟩

theorem Walk.Twin.report (h : w.Twin w') (d d' : Diagnostic) : (w.report d).Twin (w'.report d') :=
  ⟨h.family, h.seen, h.entries, h.busUses, h.context.memo, h.context.cut⟩

theorem Walk.Twin.recordBus (h : w.Twin w') (device : String) (owner : Option String)
    (node : NodeRecord) :
    (w.recordBus device owner node).Twin (w'.recordBus device owner node) := by
  rw [recordBus_eq, recordBus_eq]
  exact ⟨h.family, h.seen, h.entries, by rw [h.busUses], h.context⟩

theorem Walk.Twin.register (h : w.Twin w') (key name : String) (node : NodeRecord)
    (kind : EdgeKind) (owner : Option String) (config : Option Expansion) :
    (w.register key name node kind owner config).2.Twin
      (w'.register key name node kind owner config).2 := by
  rw [register_eq, register_eq]
  exact ⟨h.family, by rw [h.seen], by rw [h.entries], by rw [h.busUses], h.context⟩

theorem Walk.Twin.edgesBelow (h : w.Twin w') (kind : EdgeKind) (node : NodeRecord) :
    (edgesBelow kind node w').1 = (edgesBelow kind node w).1 ∧
      (edgesBelow kind node w).2.Twin (edgesBelow kind node w').2 := by
  rw [edgesBelow_eq, edgesBelow_eq, h.family]
  exact ⟨rfl, rfl, h.seen, h.entries, h.busUses, h.context⟩

/-- A walk begins with what it meets at its first edge. -/
theorem Walks.meets {leg : Leg} {rest : List Leg} {trail : Trail}
    (h : Walks files path (leg :: rest) w trail w') :
    ∃ m c, meet files path leg w.context = .ok (m, c) ∧ Onward files c w'.context := by
  cases h with
  | blocked met walks => exact ⟨_, _, met, (report_onward files _ _).trans walks.onward⟩
  | again met _ walks =>
    have onward := walks.onward
    rw [recordBus_eq] at onward
    exact ⟨_, _, met, onward⟩
  | entered met _ _ up down walks =>
    have upward := up.onward
    have downward := down.onward
    rw [register_eq] at upward
    rw [edgesBelow_eq] at downward
    exact ⟨_, _, met, (upward.trans downward).trans walks.onward⟩

/-- **What one walk meets first** another that begins the same meets too. -/
theorem Walks.meets_inStep (alike : Alike o o') {leg : Leg} {rest : List Leg} {trail' : Trail}
    {v' : Walk} {m : Meeting} {place : String}
    (h' : Walks o'.files path (leg.movedTo place :: rest) w' trail' v') (twin : w.Twin w')
    (met : meet o.files path leg w.context = .ok (m, c₁))
    (ends : LookEnds o.files leg.parent leg.edge w.context)
    (ends' : LookEnds o'.files (leg.movedTo place).parent leg.edge w'.context)
    (before : Precedes o c₁) (before' : Precedes o' v'.context) :
    ∃ m' c₁', meet o'.files path (leg.movedTo place) w'.context = .ok (m', c₁') ∧ m.Twin m' ∧
      c₁.Twin c₁' := by
  obtain ⟨m', c₁', met', onward'⟩ := h'.meets
  exact ⟨m', c₁', met', meet_inStep alike place twin.context ends ends' met met'
    before (before'.of_onward onward')⟩

/-- **Walks on two runs** that begin the same end the same. -/
theorem Walks.inStep (alike : Alike o o') {legs : List Leg} {trail trail' : Trail} {v v' : Walk}
    {place : String} (h : Walks o.files path legs w trail v)
    (h' : Walks o'.files path (legs.map (Leg.movedTo place)) w' trail' v') (twin : w.Twin w')
    (ends : LooksEnd o.files path legs w)
    (ends' : LooksEnd o'.files path (legs.map (Leg.movedTo place)) w')
    (before : Precedes o v.context) (before' : Precedes o' v'.context) : v.Twin v' := by
  induction h generalizing w' trail' v' place with
  | nil =>
    cases h'
    exact twin
  | @blocked path leg rest w obstacle c₁ trail v met walks ih =>
    have onward := (report_onward o.files c₁ _).trans walks.onward
    obtain ⟨m', c₁', met', same, twin₁⟩ := h'.meets_inStep alike twin met (ends _ _ .first)
      (ends' _ _ .first) (before.of_onward onward) before'
    cases same
    obtain ⟨later, -, walks'⟩ := h'.of_obstacle met'
    exact ih walks' ((twin.looked twin₁).report _ _)
      (fun l k looks => ends l k (.later (.blocked met .nil) looks))
      (fun l k looks => ends' l k (.later (.blocked met' .nil) looks)) before before'
  | @again path leg rest w r reference name node first c₁ trail v met known walks ih =>
    have onward := walks.onward
    rw [recordBus_eq] at onward
    obtain ⟨m', c₁', met', same, twin₁⟩ := h'.meets_inStep alike twin met (ends _ _ .first)
      (ends' _ _ .first) (before.of_onward onward) before'
    cases same
    have known' : w'.seen.get? name = some first := by rw [twin.seen, known]
    obtain ⟨later, -, walks'⟩ := h'.of_known met' known'
    exact ih walks' ((twin.looked twin₁).recordBus _ _ _)
      (fun l k looks => ends l k (.later (.again met known .nil) looks))
      (fun l k looks => ends' l k (.later (.again met' known' .nil) looks)) before before'
  | @entered path leg rest w r reference name node config c₁ hardware w₂ components w₃ trail v met
      unknown configured up down walks ihUp ihDown ih =>
    have onDown := down.onward
    rw [edgesBelow_eq] at onDown
    have onUp := up.onward
    rw [register_eq] at onUp
    have beforeDown := before.of_onward walks.onward
    have beforeUp := beforeDown.of_onward onDown
    obtain ⟨m', c₁', met', same, twin₁⟩ := h'.meets_inStep alike twin met (ends _ _ .first)
      (ends' _ _ .first) (beforeUp.of_onward onUp) before'
    cases same with
    | node place₂ =>
      have unknown' : w'.seen.get? name = none := by rw [twin.seen, unknown]
      obtain ⟨config', hardware', w₂', components', w₃', later, -, configured', up', down',
        walks'⟩ := h'.of_unknown met' unknown'
      obtain rfl := Except.ok.inj (configured.symm.trans configured')
      have onDown' := down'.onward
      rw [edgesBelow_eq] at onDown'
      have beforeDown' := before'.of_onward walks'.onward
      have beforeUp' : Precedes o' w₂'.context := beforeDown'.of_onward onDown'
      -- the hardware of the node
      have movedUp := hardwareLegs_movedTo r place₂ name (ownerBelow leg.kind name leg.owner node)
        node
      have twinUp : Walk.Twin w₂ w₂' := ihUp (movedUp ▸ up') ((twin.looked twin₁).register ..)
        (fun l k looks => ends l k (.hardware met unknown configured looks))
        (fun l k looks => ends' l k (.hardware met' unknown' configured (movedUp ▸ looks)))
        beforeUp beforeUp'
      -- the components below it, those of the family included
      obtain ⟨sameEdges, twinBelow⟩ := twinUp.edgesBelow leg.kind node
      have movedDown := edgeLegs_movedTo r place₂ .component
        (ownerBelow leg.kind name leg.owner node) (edgesBelow leg.kind node w₂').1
      rw [congrArg (edgeLegs r .component _) sameEdges] at movedDown
      have twinDown : Walk.Twin w₃ w₃' := ihDown (movedDown ▸ down') twinBelow
        (fun l k looks => ends l k (.components met unknown configured up looks))
        (fun l k looks =>
          ends' l k (.components met' unknown' configured up' (movedDown ▸ looks)))
        beforeDown beforeDown'
      exact ih walks' twinDown
        (fun l k looks => ends l k (.later (.entered met unknown configured up down .nil) looks))
        (fun l k looks =>
          ends' l k (.later (.entered met' unknown' configured up' down' .nil) looks))
        before before'

/-! ### The walk from a bot -/

/-- **Where the walk from a bot looks**, along its hardware, its subsystems and its components. -/
inductive BotLooks (files : FileTree) (root : Resolved) (bot : BotRecord) (c : Context) :
    Leg → Context → Prop where
  | hardware : ∀ {l k},
      Looks files [root.key] (hardwareLegs root (rootName root) (botOwner root bot) bot.node)
        (botStart root bot c) l k →
      BotLooks files root bot c l k
  | subsystems : ∀ {hardware w₁ l k},
      Walks files [root.key] (hardwareLegs root (rootName root) (botOwner root bot) bot.node)
        (botStart root bot c) hardware w₁ →
      Looks files [root.key] (edgeLegs root .subsystem (botOwner root bot) bot.subsystems) w₁ l k →
      BotLooks files root bot c l k
  | components : ∀ {hardware w₁ subsystems w₂ l k},
      Walks files [root.key] (hardwareLegs root (rootName root) (botOwner root bot) bot.node)
        (botStart root bot c) hardware w₁ →
      Walks files [root.key] (edgeLegs root .subsystem (botOwner root bot) bot.subsystems) w₁
        subsystems w₂ →
      Looks files [root.key]
        (edgeLegs root .component (botOwner root bot) (w₂.family.getD [] ++ bot.node.childEdges))
        { w₂ with family := none } l k →
      BotLooks files root bot c l k

/-- What the walk from a bot looks at is resolved without the bound on nesting. -/
def TraverseEnds (files : FileTree) (c : Context) (root : Resolved) : Prop :=
  ∀ bot, botOf root = .ok bot → ∀ leg k, BotLooks files root bot c leg k →
    LookEnds files leg.parent leg.edge k

theorem BotWalks.onward {root : Resolved} {bot : BotRecord} {hardware subsystems components : Trail}
    {w₁ w₂ : Walk} (h : BotWalks files root bot c hardware w₁ subsystems w₂ components w) :
    Onward files c w.context := by
  have up := h.hardware.onward
  have started : (botStart root bot c).context = c := by
    rw [botStart, register_eq]
    rfl
  rw [started] at up
  exact (up.trans h.subsystems.onward).trans h.components.onward

theorem botStart_twin (root : Resolved) (place : String) (bot : BotRecord) (twin : c.Twin c') :
    (botStart root bot c).Twin (botStart { root with path := place } bot c') := by
  have start : (unwalked bot c).Twin (unwalked bot c') := ⟨rfl, rfl, rfl, rfl, twin⟩
  exact start.register ..

/-- **The walks from a bot** on two runs end the same. -/
theorem BotWalks.inStep (alike : Alike o o') {root : Resolved} (place : String) {bot : BotRecord}
    {up across down up' across' down' : Trail} {w₁ w₂ w₁' w₂' : Walk}
    (h : BotWalks o.files root bot c up w₁ across w₂ down w)
    (h' : BotWalks o'.files { root with path := place } bot c' up' w₁' across' w₂' down' w')
    (twin : c.Twin c')
    (ends : ∀ leg k, BotLooks o.files root bot c leg k → LookEnds o.files leg.parent leg.edge k)
    (ends' : ∀ leg k, BotLooks o'.files { root with path := place } bot c' leg k →
      LookEnds o'.files leg.parent leg.edge k)
    (before : Precedes o w.context) (before' : Precedes o' w'.context) : w.Twin w' := by
  have before₂ : Precedes o w₂.context := before.of_onward h.components.onward
  have before₂' : Precedes o' w₂'.context := before'.of_onward h'.components.onward
  have moved := hardwareLegs_movedTo root place (rootName root) (botOwner root bot) bot.node
  have twin₁ : w₁.Twin w₁' := h.hardware.inStep alike (moved ▸ h'.hardware)
    (botStart_twin root place bot twin)
    (fun l k looks => ends l k (.hardware looks))
    (fun l k looks => ends' l k (.hardware (moved ▸ looks)))
    (before₂.of_onward h.subsystems.onward) (before₂'.of_onward h'.subsystems.onward)
  have movedAcross := edgeLegs_movedTo root place .subsystem (botOwner root bot) bot.subsystems
  have twin₂ : w₂.Twin w₂' := h.subsystems.inStep alike (movedAcross ▸ h'.subsystems) twin₁
    (fun l k looks => ends l k (.subsystems h.hardware looks))
    (fun l k looks => ends' l k (.subsystems h'.hardware (movedAcross ▸ looks))) before₂ before₂'
  have movedDown := edgeLegs_movedTo root place .component (botOwner root bot)
    (w₂'.family.getD [] ++ bot.node.childEdges)
  rw [congrArg (fun family => List.map (Leg.movedTo place)
    (edgeLegs root .component (botOwner root bot) (family.getD [] ++ bot.node.childEdges)))
    twin₂.family] at movedDown
  have start : Walk.Twin { w₂ with family := none } { w₂' with family := none } :=
    ⟨rfl, twin₂.seen, twin₂.entries, twin₂.busUses, twin₂.context⟩
  exact h.components.inStep alike (movedDown ▸ h'.components) start
    (fun l k looks => ends l k (.components h.hardware h.subsystems looks))
    (fun l k looks => ends' l k (.components h'.hardware h'.subsystems (movedDown ▸ looks)))
    before before'

/-- **Traversals of one bot on two runs** are the same. -/
theorem traverse_inStep (alike : Alike o o') {root : Resolved} (place : String) {t t' : Traversal}
    (twin : c.Twin c') (ends : TraverseEnds o.files c root)
    (ends' : TraverseEnds o'.files c' { root with path := place })
    (h : traverse o.files c root = (.ok t, c₁))
    (h' : traverse o'.files c' { root with path := place } = (.ok t', c₁'))
    (before : Precedes o c₁) (before' : Precedes o' c₁') : t' = t ∧ c₁.Twin c₁' := by
  obtain ⟨bot, up, w₁, across, w₂, down, w, isBot, walks, rfl, rfl⟩ := traverse_walks h
  obtain ⟨bot', up', w₁', across', w₂', down', w', isBot', walks', rfl, rfl⟩ := traverse_walks h'
  obtain rfl : bot = bot' := Except.ok.inj (isBot.symm.trans isBot')
  have twin₁ := walks.inStep alike place walks' twin (ends bot isBot) (ends' bot isBot') before
    before'
  refine ⟨?_, twin₁.context⟩
  rw [twin₁.entries, twin₁.busUses]
  rfl

theorem traverse_onward {root : Resolved} {t : Traversal}
    (h : traverse files c root = (.ok t, c₁)) : Onward files c c₁ := by
  obtain ⟨bot, up, w₁, across, w₂, down, w, -, walks, -, rfl⟩ := traverse_walks h
  exact walks.onward

end DispatchTables
