import DispatchTables.Proofs.Traversal.Edges

/-!
# The trail of a walk

A walk that ends well can be told edge by edge: which edge was followed, how it ended, and, when a
node was entered there, what was followed below it.  What a walk does to its state can then be
proved by induction over the tale instead of over the steps that may nest.

## Main Definitions

* `Arrives`: what a walk does with what it meets.
* `Trail`: the edges followed, in order, each with its end and with the trail below it.
* `Walks`: a walk along some edges leaves a trail.
* `BotWalks`: the same for the walk from a bot.

## Main Statements

* `followLegs_walks`: whatever is followed well leaves a trail.
* `traverse_walks`: so does every traversal.
-/

namespace DispatchTables

variable {files : FileTree} {path : List String} {w w' : Walk} {c : Context}

/-! ### Arriving -/

/-- **What a walk does with what it meets**: an obstacle is reported, a name met before is charged,
and any other is entered. -/
inductive Arrives (files : FileTree) (steps : Nat) (path : List String) (leg : Leg) (w w' : Walk) :
    Meeting → Prop where
  | blocked {o} : w' = w.report (o.warning path leg) →
      Arrives files steps path leg w w' (.obstacle o)
  | again {r reference name node first} : w.seen.get? name = some first →
      w' = w.recordBus name first node →
      Arrives files steps path leg w w' (.node r reference name node)
  | entered {r reference name node config below} : w.seen.get? name = none →
      configOf name node reference = .ok config → steps = below + 1 →
      expandNode files (visit files below) path r name node leg.kind leg.owner config w = .ok w' →
      Arrives files steps path leg w w' (.node r reference name node)

theorem visit_arrives {steps : Nat} {leg : Leg} {r : Resolved} {reference : Reference}
    (h : visit files steps path r reference leg.kind leg.owner w = .ok w') :
    ∃ m, meetResolved path r reference = .ok m ∧ Arrives files steps path leg w w' m := by
  cases steps with
  | zero => cases h
  | succ below =>
    -- both ask the same questions of the document, in the same order, up to the name
    unfold visit at h
    unfold meetResolved
    by_cases onPath : path.contains r.key = true
    · rw [if_pos onPath] at h ⊢
      cases h
      exact ⟨_, rfl, .blocked rfl⟩
    · rw [if_neg onPath] at h ⊢
      cases named : r.name with
      | none =>
        rw [named] at h
        cases h
      | some name =>
        simp only [named] at h ⊢
        cases read : Record.ofDocument r.key r.kind r.doc with
        | error e =>
          rw [read] at h
          cases h
        | ok record =>
          simp only [read] at h ⊢
          cases isNode : record.node? with
          | none =>
            rw [isNode] at h
            cases h
            exact ⟨_, rfl, .blocked rfl⟩
          | some node =>
            simp only [isNode] at h ⊢
            refine ⟨_, rfl, ?_⟩
            cases known : w.seen.get? name with
            | some first =>
              rw [known] at h
              cases h
              exact .again known rfl
            | none =>
              simp only [known] at h
              cases configured : configOf name node reference with
              | error e =>
                rw [configured] at h
                cases h
              | ok config =>
                rw [configured] at h
                exact .entered known configured rfl h

theorem followReference_arrives {steps : Nat} {leg : Leg} {text : String}
    (h : followReference files (visit files steps) path text leg.kind leg.owner leg.subject w =
      .ok w')
    (edge : leg.edge = .reference text ∨ leg.edge = .positioned text) :
    ∃ m c, meet files path leg w.context = .ok (m, c) ∧
      Arrives files steps path leg { w with context := c } w' m := by
  have looks : look files leg.parent leg.edge w.context =
      look files leg.parent (.reference text) w.context := by
    rcases edge with edge | edge
    · rw [edge]
    · rw [edge]
      rfl
  unfold followReference at h
  cases parsed : Reference.parse? text with
  | none =>
    rw [parsed] at h
    cases h
  | some reference =>
    simp only [look, parsed] at h looks
    generalize w.context.loadResolved files reference.name = out at h looks
    obtain ⟨found, c⟩ := out
    cases found with
    | error e =>
      -- only what is not found is passed over
      cases e with
      | notFound missing =>
        cases h
        exact ⟨_, _, meet_of_look looks rfl, .blocked rfl⟩
      | _ => cases h
    | ok r =>
      obtain ⟨m, here, arrives⟩ := visit_arrives h
      exact ⟨m, c, meet_of_look looks here, arrives⟩

/-- Whatever is followed well has met something, and done with it what is done. -/
theorem followLeg_arrives {steps : Nat} {leg : Leg}
    (h : followLeg files (visit files steps) path leg w = .ok w') :
    ∃ m c, meet files path leg w.context = .ok (m, c) ∧
      Arrives files steps path leg { w with context := c } w' m := by
  unfold followLeg at h
  split at h
  · rename_i text edge
    exact followReference_arrives h (.inl edge)
  · rename_i text edge
    exact followReference_arrives h (.inr edge)
  · rename_i doc edge
    have looks : look files leg.parent leg.edge w.context =
        look files leg.parent (.inline doc) w.context := by rw [edge]
    unfold follow at h
    simp only [edge] at h
    cases named : declaredName doc with
    | none =>
      rw [named] at h
      cases h
    | some label =>
      simp only [named] at h
      obtain ⟨m, here, arrives⟩ := visit_arrives h
      have looked : look files leg.parent leg.edge w.context = .ok (.found _ (.plain label), _) :=
        looks.trans (by simp only [look, named]; rfl)
      exact ⟨m, _, meet_of_look looked here, arrives⟩

/-! ### What steps do to the state -/

/-- What is charged when a device is met, if it has a bus. -/
def useOf (device : String) (owner : Option String) (node : NodeRecord) : Option BusUse :=
  node.busType.map fun bus =>
    let needs := node.pinRequirements.getD {}
    ⟨device, owner, bus, needs.shared, needs.unique⟩

/-- What the components below a node belong to: the node itself when it has a row, else whatever
the node belongs to. -/
def ownerBelow (kind : EdgeKind) (name : String) (owner : Option String) (node : NodeRecord) :
    Option String :=
  if Walk.registers kind node then some name else owner

/-- The row that a node gets when it is first met, if it gets one. -/
def rowOf (kind : EdgeKind) (key name : String) (node : NodeRecord) (config : Option Expansion) :
    Option DispatchEntry :=
  if Walk.registers kind node then some (Walk.entryOf key name node config) else none

theorem recordBus_eq (w : Walk) (device : String) (owner : Option String) (node : NodeRecord) :
    w.recordBus device owner node =
      { w with busUses := w.busUses ++ (useOf device owner node).toList } := by
  unfold Walk.recordBus useOf
  cases node.busType with
  | none => simp
  | some bus => rfl

theorem register_eq (w : Walk) (key name : String) (node : NodeRecord) (kind : EdgeKind)
    (owner : Option String) (config : Option Expansion) :
    w.register key name node kind owner config =
      (ownerBelow kind name owner node,
        { w with
          seen := w.seen.insert name (ownerBelow kind name owner node)
          entries := w.entries ++ (rowOf kind key name node config).toList
          busUses :=
            w.busUses ++ (useOf name (ownerBelow kind name owner node) node).toList }) := by
  unfold Walk.register rowOf
  dsimp only
  rw [recordBus_eq]
  by_cases rowed : Walk.registers kind node
  · simp [rowed, ownerBelow]
  · simp [rowed, ownerBelow]

theorem edgesBelow_eq (kind : EdgeKind) (node : NodeRecord) (w : Walk) :
    edgesBelow kind node w =
      ((if kind = .subsystem then w.family.getD [] else []) ++ node.childEdges,
        { w with family := if kind = .subsystem then none else w.family }) := by
  unfold edgesBelow
  split <;> rfl

/-! ### Trails -/

/-- One time that a node is met: its document, name and record, and what its bus is charged to. -/
structure Encounter where
  source : Resolved
  name : String
  node : NodeRecord
  owner : Option String

/-- How an edge ends. -/
inductive Trace where
  | blocked (o : Obstacle)
  | again (e : Encounter)
  | entered (e : Encounter)

/-- **Edges followed in turn**, each with its end and with the trail below it. -/
inductive Trail where
  | nil
  | step (leg : Leg) (trace : Trace) (below rest : Trail)

namespace Trail

/-- One trail after another. -/
def append : Trail → Trail → Trail
  | nil, trail => trail
  | step leg trace below rest, trail => step leg trace below (rest.append trail)

/-- The edges of a trail, without those below them. -/
def legs : Trail → List Leg
  | nil => []
  | step leg _ _ rest => leg :: rest.legs

end Trail

/-- **A walk along some edges**, from one state to another, leaves a trail.  The edges below a node
are those that it is entered with: its hardware first, and then, in the state after that, those of
the family and its own. -/
inductive Walks (files : FileTree) : List String → List Leg → Walk → Trail → Walk → Prop where
  | nil : ∀ {path w}, Walks files path [] w .nil w
  | blocked : ∀ {path leg rest w o c trail w'},
      meet files path leg w.context = .ok (.obstacle o, c) →
      Walks files path rest (Walk.report { w with context := c } (o.warning path leg)) trail w' →
      Walks files path (leg :: rest) w (.step leg (.blocked o) .nil trail) w'
  | again : ∀ {path leg rest w r reference name node first c trail w'},
      meet files path leg w.context = .ok (.node r reference name node, c) →
      w.seen.get? name = some first →
      Walks files path rest (Walk.recordBus { w with context := c } name first node) trail w' →
      Walks files path (leg :: rest) w (.step leg (.again ⟨r, name, node, first⟩) .nil trail) w'
  | entered : ∀ {path leg rest w r reference name node config c hardware w₂ components w₃ trail w'},
      meet files path leg w.context = .ok (.node r reference name node, c) →
      w.seen.get? name = none →
      configOf name node reference = .ok config →
      Walks files (path ++ [r.key])
        (hardwareLegs r name (ownerBelow leg.kind name leg.owner node) node)
        (Walk.register { w with context := c } r.key name node leg.kind leg.owner config).2
        hardware w₂ →
      Walks files (path ++ [r.key])
        (edgeLegs r .component (ownerBelow leg.kind name leg.owner node)
          (edgesBelow leg.kind node w₂).1)
        (edgesBelow leg.kind node w₂).2 components w₃ →
      Walks files path rest w₃ trail w' →
      Walks files path (leg :: rest) w
        (.step leg (.entered ⟨r, name, node, ownerBelow leg.kind name leg.owner node⟩)
          (hardware.append components) trail) w'

section FirstMet

variable {leg : Leg} {rest : List Leg} {trail : Trail} {r : Resolved} {reference : Reference}
  {name : String} {node : NodeRecord}

/-- A walk that meets an obstacle first warns of it and goes on. -/
theorem Walks.of_obstacle {o : Obstacle} (walks : Walks files path (leg :: rest) w trail w')
    (met : meet files path leg w.context = .ok (.obstacle o, c)) :
    ∃ later, trail = .step leg (.blocked o) .nil later ∧
      Walks files path rest (Walk.report { w with context := c } (o.warning path leg)) later
        w' := by
  cases walks with
  | blocked met' later =>
    cases met.symm.trans met'
    exact ⟨_, rfl, later⟩
  | again met' _ _ => cases met.symm.trans met'
  | entered met' _ _ _ _ _ => cases met.symm.trans met'

/-- A walk that meets a node of a known name first charges its bus and goes on. -/
theorem Walks.of_known {first : Option String} (walks : Walks files path (leg :: rest) w trail w')
    (met : meet files path leg w.context = .ok (.node r reference name node, c))
    (known : w.seen.get? name = some first) :
    ∃ later, trail = .step leg (.again ⟨r, name, node, first⟩) .nil later ∧
      Walks files path rest (Walk.recordBus { w with context := c } name first node) later w' := by
  cases walks with
  | blocked met' _ => cases met.symm.trans met'
  | again met' known' later =>
    cases met.symm.trans met'
    cases known.symm.trans known'
    exact ⟨_, rfl, later⟩
  | entered met' unknown _ _ _ _ =>
    cases met.symm.trans met'
    cases known.symm.trans unknown

/-- A walk that meets a new node first enters it. -/
theorem Walks.of_unknown (walks : Walks files path (leg :: rest) w trail w')
    (met : meet files path leg w.context = .ok (.node r reference name node, c))
    (unknown : w.seen.get? name = none) :
    ∃ config hardware w₂ components w₃ later,
      trail = .step leg (.entered ⟨r, name, node, ownerBelow leg.kind name leg.owner node⟩)
        (hardware.append components) later ∧
      configOf name node reference = .ok config ∧
      Walks files (path ++ [r.key])
        (hardwareLegs r name (ownerBelow leg.kind name leg.owner node) node)
        (Walk.register { w with context := c } r.key name node leg.kind leg.owner config).2
        hardware w₂ ∧
      Walks files (path ++ [r.key])
        (edgeLegs r .component (ownerBelow leg.kind name leg.owner node)
          (edgesBelow leg.kind node w₂).1)
        (edgesBelow leg.kind node w₂).2 components w₃ ∧
      Walks files path rest w₃ later w' := by
  cases walks with
  | blocked met' _ => cases met.symm.trans met'
  | again met' known _ =>
    cases met.symm.trans met'
    cases unknown.symm.trans known
  | entered met' _ configured up down later =>
    cases met.symm.trans met'
    exact ⟨_, _, _, _, _, _, rfl, configured, up, down, later⟩

end FirstMet

/-- Whatever is followed well leaves a trail. -/
theorem followLegs_walks {steps : Nat} {legs : List Leg}
    (h : followLegs files (visit files steps) path legs w = .ok w') :
    ∃ trail, Walks files path legs w trail w' := by
  -- on the steps that may nest, and on the edges that are left
  induction steps using Nat.strongRecOn generalizing path legs w w' with
  | _ steps nested =>
    induction legs generalizing w with
    | nil =>
      cases h
      exact ⟨.nil, .nil⟩
    | cons leg rest ih =>
      obtain ⟨w₁, followed, later⟩ := bind_eq_ok h
      obtain ⟨trail, walks⟩ := ih later
      obtain ⟨m, c, met, arrives⟩ := followLeg_arrives followed
      cases arrives with
      | blocked reported =>
        subst reported
        exact ⟨_, .blocked met walks⟩
      | again known charged =>
        subst charged
        exact ⟨_, .again met known walks⟩
      | @entered r reference name node config below unknown configured fewer expanded =>
        -- what is below the node has been followed in fewer steps
        have lt : below < steps := by omega
        unfold expandNode at expanded
        have owned : (Walk.register { w with context := c } r.key name node leg.kind leg.owner
            config).1 = ownerBelow leg.kind name leg.owner node := by rw [register_eq]
        dsimp only at expanded
        rw [owned] at expanded
        obtain ⟨w₂, first, second⟩ := bind_eq_ok expanded
        rw [followHardware_eq_followLegs r] at first
        rw [followAll_eq_followLegs] at second
        obtain ⟨hardware, up⟩ := nested below lt first
        obtain ⟨components, down⟩ := nested below lt second
        exact ⟨_, .entered met unknown configured up down walks⟩

/-! ### The walk from a bot -/

/-- What the components of a bot belong to. -/
def botOwner (root : Resolved) (bot : BotRecord) : Option String :=
  ownerBelow .subsystem (rootName root) none bot.node

/-- The walk from a bot before anything is registered. -/
def unwalked (bot : BotRecord) (c : Context) : Walk where
  family := if bot.familyComponents.isEmpty then none else some bot.familyComponents
  context := c

/-- The walk from a bot before its first edge. -/
def botStart (root : Resolved) (bot : BotRecord) (c : Context) : Walk :=
  ((unwalked bot c).register root.key (rootName root) bot.node .subsystem none none).2

/-- **The walk from a bot** leaves a trail in three parts: its hardware, its subsystems, and then
the family's components, if they still wait, and its own. -/
structure BotWalks (files : FileTree) (root : Resolved) (bot : BotRecord) (c : Context)
    (hardware : Trail) (w₁ : Walk) (subsystems : Trail) (w₂ : Walk) (components : Trail)
    (w : Walk) : Prop where
  hardware : Walks files [root.key]
    (hardwareLegs root (rootName root) (botOwner root bot) bot.node) (botStart root bot c)
    hardware w₁
  subsystems : Walks files [root.key]
    (edgeLegs root .subsystem (botOwner root bot) bot.subsystems) w₁ subsystems w₂
  components : Walks files [root.key]
    (edgeLegs root .component (botOwner root bot) (w₂.family.getD [] ++ bot.node.childEdges))
    { w₂ with family := none } components w

theorem walkBot_walks {steps : Nat} {root : Resolved} {bot : BotRecord}
    (h : walkBot files (visit files steps) root bot c = .ok w) :
    ∃ hardware w₁ subsystems w₂ components,
      BotWalks files root bot c hardware w₁ subsystems w₂ components w := by
  unfold walkBot at h
  have owned :
      ((unwalked bot c).register root.key (rootName root) bot.node .subsystem none none).1 =
        botOwner root bot := by
    rw [register_eq]
    rfl
  unfold unwalked at owned
  dsimp only at h
  rw [owned] at h
  obtain ⟨w₁, first, h⟩ := bind_eq_ok h
  obtain ⟨w₂, second, third⟩ := bind_eq_ok h
  rw [followHardware_eq_followLegs root] at first
  rw [followAll_eq_followLegs] at second third
  obtain ⟨hardware, up⟩ := followLegs_walks first
  obtain ⟨subsystems, across⟩ := followLegs_walks second
  obtain ⟨components, down⟩ := followLegs_walks third
  exact ⟨hardware, w₁, subsystems, w₂, components, up, across, down⟩

/-- **Every traversal leaves a trail.** -/
theorem traverse_walks {root : Resolved} {t : Traversal} {c' : Context}
    (h : traverse files c root = (.ok t, c')) :
    ∃ bot hardware w₁ subsystems w₂ components w, botOf root = .ok bot ∧
      BotWalks files root bot c hardware w₁ subsystems w₂ components w ∧
      t = ⟨rootName root, bot.controller, w.entries, w.busUses⟩ ∧ c' = w.context := by
  unfold traverse at h
  cases isBot : botOf root with
  | error e =>
    rw [isBot] at h
    cases h
  | ok bot =>
    simp only [isBot] at h
    split at h
    · rename_i w walked
      cases h
      obtain ⟨hardware, w₁, subsystems, w₂, components, walks⟩ := walkBot_walks walked
      exact ⟨bot, hardware, w₁, subsystems, w₂, components, w, rfl, walks, rfl, rfl⟩
    · cases h
    · cases h

/-! ### A small bot -/

/-- A list of references. -/
def referenceList (names : List String) : Json := .array (names.map .string)

/-- A bot with a subsystem that leads back to it, a chip among its subsystems, a family, a component
that is not there and one that is named twice, and a device that two components share. -/
def smallDocuments : List (String × Members) := [
  ("bot", [("name", .string "bot"), ("hardware_reference", .string "p"),
    ("subsystems", referenceList ["s", "c"]), ("family_components", referenceList ["f"]),
    ("components", referenceList ["m", "n", "m", "gone"])]),
  ("c", [("name", .string "c"), ("exposed_pins", referenceList [])]),
  ("f", [("name", .string "f")]),
  ("h", [("name", .string "h"), ("bus_type", .string "i2c")]),
  ("m", [("name", .string "m"), ("hardware_reference", .string "h")]),
  ("n", [("name", .string "n"), ("hardware_reference", .string "h")]),
  ("p", [("name", .string "p"), ("bus_type", .string "spi")]),
  ("s", [("name", .string "s"), ("components", referenceList ["bot"])])]

/-- A store that has read some documents. -/
def storeOf (documents : List (String × Members)) : Store :=
  documents.foldl (fun s (key, doc) => { s with
    index := s.index.insert key key
    cache := s.cache.insert key (.ofDocument key key doc) }) (.empty "")

/-- A tree without files. -/
def noFiles : FileTree := ⟨[], [], []⟩

/-- The small bot resolved, and the context after that. -/
def smallStart : Resolved × Context :=
  (Context.ofStore (storeOf smallDocuments)).resolve noFiles
    (.ofDocument "bot" "bot" (smallDocuments.headD default).2)

/-- What the walk from the small bot yields. -/
def smallWalk : Except Failure Traversal × Context := traverse noFiles smallStart.2 smallStart.1

theorem exists_of_isOk {ε α β : Type} {x : Except ε α × β} (h : x.1.isOk = true) :
    ∃ a b, x = (.ok a, b) := by
  obtain ⟨found, b⟩ := x
  cases found with
  | error e => cases h
  | ok a => exact ⟨a, b, rfl⟩

theorem exists_smallWalk : ∃ t c, smallWalk = (.ok t, c) :=
  exists_of_isOk (by decide +kernel)

end DispatchTables
