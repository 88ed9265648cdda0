import DispatchTables.Proofs.Traversal.Accounting

/-!
# Traversals told in order

A trail nests as nodes do.  Read in the order in which its edges are followed it is a history, and
at each point of the history the walk is in some state.  What the state holds of what has been
followed so far is then an invariant: it is stated once of single steps and holds to the end.

## Main Definitions

* `Followed`: an edge with how it ended; `Trail.followed`: those of a trail, in order.
* `StepsKeep`: a property of histories and walks that single steps keep.
* `Tale`: a traversal with its trail, from the bot on.
* `tell`, `tellBot`: a walk together with its trail, computed.

## Main Statements

* `Walks.keeps`, `Tale.keeps`: what steps keep holds to the end of a walk and of a traversal.
* `traverse_tale`: every traversal has a tale; `Tale.accounts`: and it accounts for every edge.
* `traverse_accounted`: it is the only account.
* `tell_walks`, `Tale.trail_eq`: what is computed is the trail, and there is no other.
-/

namespace DispatchTables

/-- An edge that has been followed, and how it ended. -/
structure Followed where
  leg : Leg
  trace : Trace

namespace Followed

/-- The encounter that an edge ended in, if it did. -/
def encounter? (s : Followed) : Option Encounter := s.trace.encounter?

/-- Whether an edge ended in an encounter of some name. -/
def meets (name : String) (s : Followed) : Bool := s.encounter?.any (·.name == name)

theorem meets_iff {name : String} {s : Followed} :
    s.meets name = true ↔ ∃ e, s.encounter? = some e ∧ e.name = name := by
  unfold meets
  cases s.encounter? with
  | none => simp
  | some e => simp

/-- The name of the row that an edge has led to, if it has led to a new one. -/
def row? (s : Followed) : Option String :=
  match s.trace with
  | .entered e => if Walk.registers s.leg.kind e.node then some e.name else none
  | .blocked _ | .again _ => none

theorem row?_eq_some {name : String} {s : Followed} (h : s.row? = some name) :
    ∃ e, s.trace = .entered e ∧ Walk.registers s.leg.kind e.node = true ∧ e.name = name := by
  obtain ⟨leg, trace⟩ := s
  cases trace with
  | blocked o => cases h
  | again e => cases h
  | entered e =>
    unfold row? at h
    dsimp only at h
    split at h
    · rename_i rowed
      exact ⟨e, rfl, rowed, Option.some.inj h⟩
    · cases h

/-- Of the edges that have some property there is a first one. -/
theorem exists_find? {before : List Followed} {p : Followed → Bool} {s : Followed}
    (mem : s ∈ before) (holds : p s = true) : ∃ first, before.find? p = some first :=
  Option.isSome_iff_exists.mp (List.find?_isSome.mpr ⟨s, mem, holds⟩)

end Followed

namespace Trail

/-- The edges of a trail in the order in which they are followed; those below a node are followed
right after the edge that leads to it. -/
def followed : Trail → List Followed
  | nil => []
  | step leg trace below rest => ⟨leg, trace⟩ :: (below.followed ++ rest.followed)

theorem followed_append (t u : Trail) : (t.append u).followed = t.followed ++ u.followed := by
  induction t with
  | nil => rfl
  | step leg trace below rest _ ih => simp only [append, followed, ih, List.append_assoc,
      List.cons_append]

/-- The encounters of a trail are those that its edges end in, in order. -/
theorem encounters_eq (trail : Trail) :
    trail.encounters = trail.followed.filterMap Followed.encounter? := by
  induction trail with
  | nil => rfl
  | step leg trace below rest ihBelow ihRest =>
    rw [encounters, followed, List.filterMap_cons, List.filterMap_append, ← ihBelow, ← ihRest]
    cases ended : trace.encounter? <;> simp only [Followed.encounter?, ended] <;> rfl

end Trail

variable {files : FileTree} {path : List String} {legs : List Leg} {w w' : Walk}
  {c c' : Context} {root : Resolved} {bot : BotRecord} {t : Traversal}

/-! ### Invariants -/

/-- **A property of what has been followed and of the walk then** that every step keeps: an edge
that is blocked, a name that is met again, one that is met for the first time, and the family handed
on. -/
structure StepsKeep (files : FileTree) (I : List Followed → Walk → Prop) : Prop where
  blocked : ∀ {path before leg w o c}, I before w →
    meet files path leg w.context = .ok (.obstacle o, c) →
    I (before ++ [⟨leg, .blocked o⟩]) (Walk.report { w with context := c } (o.warning path leg))
  again : ∀ {path before leg w r reference name node first c}, I before w →
    meet files path leg w.context = .ok (.node r reference name node, c) →
    w.seen.get? name = some first →
    I (before ++ [⟨leg, .again ⟨r, name, node, first⟩⟩])
      (Walk.recordBus { w with context := c } name first node)
  entered : ∀ {path before leg w r reference name node c} config, I before w →
    meet files path leg w.context = .ok (.node r reference name node, c) →
    w.seen.get? name = none →
    I (before ++ [⟨leg, .entered ⟨r, name, node, ownerBelow leg.kind name leg.owner node⟩⟩])
      (Walk.register { w with context := c } r.key name node leg.kind leg.owner config).2
  family : ∀ {before w} family, I before w → I before { w with family }

/-- **What steps keep, a walk keeps.** -/
theorem Walks.keeps {I : List Followed → Walk → Prop} {trail : Trail} (steps : StepsKeep files I)
    (walks : Walks files path legs w trail w') {before : List Followed} (h : I before w) :
    I (before ++ trail.followed) w' := by
  induction walks generalizing before with
  | nil => rwa [Trail.followed, List.append_nil]
  | blocked met _ ih =>
    have later := ih (steps.blocked h met)
    rwa [List.append_assoc] at later
  | again met known _ ih =>
    have later := ih (steps.again h met known)
    rwa [List.append_assoc] at later
  | @entered path leg rest w r reference name node config c hardware w₂ components w₃ trail w'
      met unknown configured up down _ ihUp ihDown ihRest =>
    have above := ihUp (steps.entered config h met unknown)
    rw [edgesBelow_eq] at ihDown
    -- the hardware, the components and the rest each go on from what has been followed so far
    have later := ihRest (ihDown (steps.family _ above))
    rw [Trail.followed, Trail.followed_append]
    simpa only [List.append_assoc, List.cons_append, List.nil_append] using later

/-- A walk has one trail and one end. -/
theorem Walks.unique {trail other : Trail} {last : Walk}
    (walks : Walks files path legs w trail w') (again : Walks files path legs w other last) :
    other = trail ∧ last = w' := by
  induction walks generalizing other last with
  | nil =>
    cases again
    exact ⟨rfl, rfl⟩
  | blocked met _ ih =>
    -- one edge ends in one way, so the two walks agree on the first edge and then on the rest
    obtain ⟨later, rfl, rest⟩ := again.of_obstacle met
    obtain ⟨rfl, rfl⟩ := ih rest
    exact ⟨rfl, rfl⟩
  | again met known _ ih =>
    obtain ⟨later, rfl, rest⟩ := again.of_known met known
    obtain ⟨rfl, rfl⟩ := ih rest
    exact ⟨rfl, rfl⟩
  | entered met unknown configured _ _ _ ihUp ihDown ihRest =>
    obtain ⟨config, up, w₂, down, w₃, later, rfl, configured', first, second, rest⟩ :=
      again.of_unknown met unknown
    cases configured.symm.trans configured'
    obtain ⟨rfl, rfl⟩ := ihUp first
    obtain ⟨rfl, rfl⟩ := ihDown second
    obtain ⟨rfl, rfl⟩ := ihRest rest
    exact ⟨rfl, rfl⟩

/-! ### From the bot on -/

/-- The edge to a bot.  Nothing leads to it, but it is entered as subsystems are. -/
def botLeg (root : Resolved) : Leg :=
  ⟨root, rootName root, .subsystem, .reference root.key, none⟩

/-- The first step of a traversal. -/
def botStep (root : Resolved) (bot : BotRecord) : Followed :=
  ⟨botLeg root, .entered (botEncounter root bot)⟩

/-- The trail of a bot in the three parts that it has, its hardware, its subsystems and its
components, and the walk after each. -/
structure BotTrail where
  hardware : Trail
  afterHardware : Walk
  subsystems : Trail
  afterSubsystems : Walk
  components : Trail
  last : Walk

/-- **A traversal with its trail.** -/
structure Tale (files : FileTree) (root : Resolved) (bot : BotRecord) (c c' : Context)
    (t : Traversal) extends BotTrail where
  isBot : botOf root = .ok bot
  walks : BotWalks files root bot c hardware afterHardware subsystems afterSubsystems components
    last
  yields : t = ⟨rootName root, bot.controller, last.entries, last.busUses⟩
  context : c' = last.context

/-- The whole trail of a bot: the bot, and below it the three parts. -/
def BotTrail.whole (parts : BotTrail) (root : Resolved) (bot : BotRecord) : Trail :=
  .step (botLeg root) (.entered (botEncounter root bot))
    (parts.hardware.append (parts.subsystems.append parts.components)) .nil

namespace Tale

/-- The trail of a traversal. -/
def trail (tale : Tale files root bot c c' t) : Trail := tale.whole root bot

theorem entries_eq (tale : Tale files root bot c c' t) : t.entries = tale.last.entries :=
  congrArg Traversal.entries tale.yields

theorem busUses_eq (tale : Tale files root bot c c' t) : t.busUses = tale.last.busUses :=
  congrArg Traversal.busUses tale.yields

/-- What has been followed at the end of a traversal: the edge to the bot first. -/
theorem followed_eq (tale : Tale files root bot c c' t) :
    tale.trail.followed = [botStep root bot] ++ tale.hardware.followed ++
      tale.subsystems.followed ++ tale.components.followed := by
  rw [trail, BotTrail.whole, Trail.followed, Trail.followed_append, Trail.followed_append]
  simp only [Trail.followed, List.append_nil, List.append_assoc, List.singleton_append]
  rfl

/-- **What steps keep holds at the end of a traversal** if it holds of the bot alone. -/
theorem keeps {I : List Followed → Walk → Prop} (steps : StepsKeep files I)
    (tale : Tale files root bot c c' t) (start : I [botStep root bot] (botStart root bot c)) :
    I tale.trail.followed tale.last := by
  rw [tale.followed_eq]
  have first := tale.walks.hardware.keeps steps start
  have second := tale.walks.subsystems.keeps steps first
  exact tale.walks.components.keeps steps (steps.family none second)

/-- Every edge of a tale is accounted for. -/
theorem accounts {d : Descriptor} (begun : InUse files c)
    (tale : Tale files (c.resolve files d).1 bot (c.resolve files d).2 c' t) :
    Accounts files (c.resolve files d).1 bot (c.resolve files d).2 c' t tale.hardware
      tale.subsystems tale.components := by
  have settled := resolve_settled files c d
  have keyed : Keyed (c.resolve files d).2 := resolve_keyed begun.keyed d
  obtain ⟨parts, isBot, walks, rfl, rfl⟩ := tale
  exact walks.accounts settled keyed rfl

end Tale

/-- **Every traversal has a tale.** -/
theorem traverse_tale (h : traverse files c root = (.ok t, c')) :
    ∃ bot, Nonempty (Tale files root bot c c' t) := by
  obtain ⟨bot, hardware, w₁, subsystems, w₂, components, w, isBot, walks, yields, context⟩ :=
    traverse_walks h
  exact ⟨bot, ⟨⟨hardware, w₁, subsystems, w₂, components, w⟩, isBot, walks, yields, context⟩⟩

/-- **Every traversal is accounted for**, whatever descriptor it starts from and whatever has been
done with the context before: it has a tale, the tale's own trails account for it, and no other
trails do. -/
theorem traverse_accounted {d : Descriptor} {t : Traversal} (begun : InUse files c)
    (h : traverse files (c.resolve files d).2 (c.resolve files d).1 = (.ok t, c')) :
    (∃ bot, Nonempty (Tale files (c.resolve files d).1 bot (c.resolve files d).2 c' t)) ∧
    ∀ bot (tale : Tale files (c.resolve files d).1 bot (c.resolve files d).2 c' t),
      Accounts files (c.resolve files d).1 bot (c.resolve files d).2 c' t tale.hardware
        tale.subsystems tale.components ∧
      ∀ hardware subsystems components,
        Accounts files (c.resolve files d).1 bot (c.resolve files d).2 c' t hardware subsystems
          components →
        hardware = tale.hardware ∧ subsystems = tale.subsystems ∧
          components = tale.components := by
  refine ⟨traverse_tale h, fun bot tale => ⟨tale.accounts begun, ?_⟩⟩
  intro hardware subsystems components other
  exact (tale.accounts begun).unique other

/-- Along the way the small bot is met again, a chip is met, and one reference leads nowhere. -/
theorem traverse_accounted_smallBot :
    ∃ t c, smallWalk = (.ok t, c) ∧ t.busUses.map (·.device) = ["p", "h", "h"] ∧
      (c.diagnostics.filter isEdgeWarning).map (·.code) =
        [some .componentCycle, some .componentSkipped, some .componentSkipped] ∧
      ∃ bot, ∃ tale : Tale noFiles smallStart.1 bot smallStart.2 c t,
        Accounts noFiles smallStart.1 bot smallStart.2 c t tale.hardware tale.subsystems
          tale.components := by
  obtain ⟨t, c, walked⟩ := exists_smallWalk
  have uses : (smallWalk.1.toOption.map fun t => t.busUses.map (·.device)) =
      some ["p", "h", "h"] := by decide +kernel
  have warned : (smallWalk.2.diagnostics.filter isEdgeWarning).map (·.code) =
      [some .componentCycle, some .componentSkipped, some .componentSkipped] := by decide +kernel
  rw [walked] at uses warned
  obtain ⟨⟨bot, ⟨tale⟩⟩, accounted⟩ := traverse_accounted smallStore_inUse walked
  exact ⟨t, c, walked, Option.some.inj uses, warned, bot, tale, (accounted bot tale).1⟩

/-! ### Tales that are computed -/

/-- A walk along some edges together with its trail, if it ends well within some steps. -/
def tell (files : FileTree) : Nat → List String → List Leg → Walk → Option (Trail × Walk)
  | 0, _, _, _ => none
  | _ + 1, _, [], w => some (.nil, w)
  | steps + 1, path, leg :: rest, w =>
    match meet files path leg w.context with
    | .error _ => none
    | .ok (.obstacle o, c) => do
      let (trail, w) ← tell files steps path rest
        (Walk.report { w with context := c } (o.warning path leg))
      return (.step leg (.blocked o) .nil trail, w)
    | .ok (.node r reference name node, c) =>
      match w.seen.get? name with
      | some first => do
        let (trail, w) ← tell files steps path rest
          (Walk.recordBus { w with context := c } name first node)
        return (.step leg (.again ⟨r, name, node, first⟩) .nil trail, w)
      | none =>
        match configOf name node reference with
        | .error _ => none
        | .ok config => do
          let owner := ownerBelow leg.kind name leg.owner node
          let (hardware, w) ← tell files steps (path ++ [r.key]) (hardwareLegs r name owner node)
            (Walk.register { w with context := c } r.key name node leg.kind leg.owner config).2
          let (components, w) ← tell files steps (path ++ [r.key])
            (edgeLegs r .component owner (edgesBelow leg.kind node w).1)
            (edgesBelow leg.kind node w).2
          let (trail, w) ← tell files steps path rest w
          return (.step leg (.entered ⟨r, name, node, owner⟩) (hardware.append components) trail, w)

/-- What is told is the trail of a walk. -/
theorem tell_walks {steps : Nat} {trail : Trail}
    (h : tell files steps path legs w = some (trail, w')) : Walks files path legs w trail w' := by
  induction steps generalizing path legs w trail w' with
  | zero => cases h
  | succ steps ih =>
    cases legs with
    | nil =>
      cases h
      exact .nil
    | cons leg rest =>
      unfold tell at h
      cases met : meet files path leg w.context with
      | error stop =>
        rw [met] at h
        cases h
      | ok out =>
        obtain ⟨m, c⟩ := out
        cases m with
        | obstacle o =>
          simp only [met] at h
          obtain ⟨⟨later, w₁⟩, told, h⟩ := Option.bind_eq_some_iff.mp h
          cases h
          exact .blocked met (ih told)
        | node r reference name node =>
          simp only [met] at h
          cases known : w.seen.get? name with
          | some first =>
            simp only [known] at h
            obtain ⟨⟨later, w₁⟩, told, h⟩ := Option.bind_eq_some_iff.mp h
            cases h
            exact .again met known (ih told)
          | none =>
            simp only [known] at h
            cases configured : configOf name node reference with
            | error e =>
              rw [configured] at h
              cases h
            | ok config =>
              simp only [configured] at h
              obtain ⟨⟨hardware, w₂⟩, up, h⟩ := Option.bind_eq_some_iff.mp h
              obtain ⟨⟨components, w₃⟩, down, h⟩ := Option.bind_eq_some_iff.mp h
              obtain ⟨⟨later, w₄⟩, told, h⟩ := Option.bind_eq_some_iff.mp h
              cases h
              exact .entered met known configured (ih up) (ih down) (ih told)

/-- The walk from a bot together with its trail. -/
def tellBot (files : FileTree) (steps : Nat) (root : Resolved) (bot : BotRecord) (c : Context) :
    Option BotTrail := do
  let owner := botOwner root bot
  let (hardware, w₁) ← tell files steps [root.key]
    (hardwareLegs root (rootName root) owner bot.node) (botStart root bot c)
  let (subsystems, w₂) ← tell files steps [root.key]
    (edgeLegs root .subsystem owner bot.subsystems) w₁
  let (components, w) ← tell files steps [root.key]
    (edgeLegs root .component owner (w₂.family.getD [] ++ bot.node.childEdges))
    { w₂ with family := none }
  return ⟨hardware, w₁, subsystems, w₂, components, w⟩

/-- The trail of the walk from a bot, if it is told within some steps. -/
def toldTrail (files : FileTree) (steps : Nat) (root : Resolved) (c : Context) : Option Trail := do
  let bot ← (botOf root).toOption
  let parts ← tellBot files steps root bot c
  return parts.whole root bot

/-- **A traversal has one trail**, the one that is told. -/
theorem Tale.trail_eq {steps : Nat} {trail : Trail} (tale : Tale files root bot c c' t)
    (h : toldTrail files steps root c = some trail) : tale.trail = trail := by
  unfold toldTrail at h
  rw [tale.isBot] at h
  obtain ⟨_, same, h⟩ := Option.bind_eq_some_iff.mp h
  cases same
  obtain ⟨parts, told, h⟩ := Option.bind_eq_some_iff.mp h
  cases h
  obtain ⟨⟨hardware, w₁⟩, first, told⟩ := Option.bind_eq_some_iff.mp told
  obtain ⟨⟨subsystems, w₂⟩, second, told⟩ := Option.bind_eq_some_iff.mp told
  obtain ⟨⟨components, w⟩, third, told⟩ := Option.bind_eq_some_iff.mp told
  cases told
  obtain ⟨⟨hardware', w₁', subsystems', w₂', components', w'⟩, -, walks, -, -⟩ := tale
  obtain ⟨rfl, rfl⟩ := (tell_walks first).unique walks.hardware
  obtain ⟨rfl, rfl⟩ := (tell_walks second).unique walks.subsystems
  obtain ⟨rfl, rfl⟩ := (tell_walks third).unique walks.components
  rfl

/-- What a computation finds of the trail is so. -/
theorem Tale.trail_of_told (tale : Tale files root bot c c' t) (steps : Nat) (check : Trail → Bool)
    (h : (toldTrail files steps root c).map check = some true) : check tale.trail = true := by
  obtain ⟨trail, told, checked⟩ := Option.map_eq_some_iff.mp h
  rw [tale.trail_eq told, checked]

/-- The first of some documents that have been read, resolved as a bot, and the context then. -/
def startOf (documents : List (String × Members)) : Resolved × Context :=
  (Context.ofStore (storeOf documents)).resolve noFiles
    (.ofDocument "bot" "bot" (documents.headD default).2)

/-- What the walk from this bot yields. -/
def walkOf (documents : List (String × Members)) : Except Failure Traversal × Context :=
  traverse noFiles (startOf documents).2 (startOf documents).1

end DispatchTables
