import DispatchTables.Proofs.Traversal.Traces

/-!
# Every edge is accounted for

A traversal follows each edge of each node that it enters, once and in order, and each edge leaves
one trace.  A warning says that it leads nowhere, to a chip, or back onto the path; or else it is an
encounter, and then the node is entered if it is met for the first time, and its bus is charged
either way.  The family's components are followed once: below the first subsystem that is entered,
or below the bot.

Which of these an edge ends in is decided where the walk is when it gets there.  The account
therefore goes from context to context as the walk does, and leaves no choice: a trail that is
accounted for is the only one.

## Main Definitions

* `Leg.Finds`: what looking along an edge finds in a context.
* `Trace.Fits`: how an edge ends agrees with the context, with the path and with what has been met.
* `Trail.Accounted`: every edge of a trail ends so, and below every node are the edges it has.
* `Walk.Stands`: where a walk stands after some encounters.
* `Accounts`: the account of a traversal.

## Main Statements

* `Walks.accounted`: the trail of a walk is accounted for.
* `BotWalks.accounts`: so is the walk from a bot.
* `Trail.Accounted.unique`, `Accounts.unique`: no other trails are accounted for.
-/

namespace DispatchTables

/-! ### How edges may end -/

/-- **An edge leads to a document**: looking along it in a context finds the document, with the key
that the store has there, and leaves another context. -/
structure Leg.Finds (files : FileTree) (s : Store) (leg : Leg) (c : Context) (r : Resolved)
    (c' : Context) : Prop where
  key : targetKey files s leg.parent leg.edge = .ok r.key
  looked : ∃ reference, look files leg.parent leg.edge c = .ok (.found r reference, c')

namespace Trace

/-- The context once what is to be said of the end of an edge has been reported. -/
def contextAfter (path : List String) (leg : Leg) (c : Context) : Trace → Context
  | blocked o => c.report (o.warning path leg)
  | again _ | entered _ => c

/-- **How an edge may end** that is looked along in one context and leaves another, given what the
store has there, the path, and what has been met before.  A node that is met again is charged to the
owner of its first encounter; one that is entered gets the owner that its components will have. -/
def Fits (files : FileTree) (s : Store) (path : List String) (met : List Encounter) (leg : Leg)
    (c c' : Context) : Trace → Prop
  | blocked (.missing reference) =>
    targetKey files s leg.parent leg.edge = .error (.notFound reference) ∧
      look files leg.parent leg.edge c = .ok (.missing reference, c')
  | blocked (.onPath key) => ∃ r, leg.Finds files s c r c' ∧ r.key = key ∧ key ∈ path
  | blocked (.chip key) =>
    ∃ r, leg.Finds files s c r c' ∧ r.key = key ∧ key ∉ path ∧
      ∃ name chip, r.name = some name ∧ Record.ofDocument r.key r.kind r.doc = .ok (.chip chip)
  | again e =>
    leg.Finds files s c e.source c' ∧ e.source.key ∉ path ∧ e.Reads ∧
      Encounter.ownerOf? met e.name = some e.owner
  | entered e =>
    leg.Finds files s c e.source c' ∧ e.source.key ∉ path ∧ e.Reads ∧
      Encounter.ownerOf? met e.name = none ∧
      e.owner = ownerBelow leg.kind e.name leg.owner e.node

end Trace

namespace Trail

/-- **Every edge of a trail is accounted for** from one context to another: it ends as it may, and
below it are the edges of the node that is entered there, with those of the family if they wait and
it is a subsystem.  What is below is looked along next, and then the rest. -/
def Accounted (files : FileTree) (s : Store) :
    List String → List Encounter → List ComponentEdge → Context → Context → Trail → Prop
  | _, _, _, c, c', nil => c = c'
  | path, met, family, c, c', step leg trace below rest =>
    ∃ looked after, trace.Fits files s path met leg c looked ∧
      below.legs = trace.legsBelow (if leg.kind = .subsystem then family else []) ∧
      below.Accounted files s (trace.pathBelow path) (met ++ trace.encounter?.toList) []
        (trace.contextAfter path leg looked) after ∧
      rest.Accounted files s path (met ++ (trace.encounter?.toList ++ below.encounters))
        (if leg.kind == .subsystem && trace.isEntered then [] else family) after c'

variable {files : FileTree} {s : Store} {path : List String} {met : List Encounter}
  {family : List ComponentEdge} {c c'' : Context}

/-- One trail after another is accounted for just if each is, where the walk is when it gets to it. -/
theorem accounted_append {t u : Trail} : (t.append u).Accounted files s path met family c c'' ↔
    ∃ c', t.Accounted files s path met family c c' ∧
      u.Accounted files s path (met ++ t.encounters) (if t.entersSubsystem then [] else family)
        c' c'' := by
  induction t generalizing met family c with
  | nil =>
    rw [append, encounters, List.append_nil]
    constructor
    · intro h
      exact ⟨c, rfl, h⟩
    · rintro ⟨c', rfl, h⟩
      exact h
  | step leg trace below rest _ ih =>
    -- only what the first edge leaves of the family reaches the second trail
    have left : ∀ entered : Bool, (if rest.entersSubsystem then [] else
        if entered then [] else family) =
        if entered || rest.entersSubsystem then [] else family := by
      intro entered
      cases entered <;> cases rest.entersSubsystem <;> rfl
    have all : met ++ (step leg trace below rest).encounters =
        met ++ (trace.encounter?.toList ++ below.encounters) ++ rest.encounters := by
      rw [encounters]
      simp only [List.append_assoc]
    rw [all, entersSubsystem, ← left]
    constructor
    · rintro ⟨looked, after, fits, same, under, later⟩
      obtain ⟨c', first, second⟩ := ih.mp later
      exact ⟨c', ⟨looked, after, fits, same, under, first⟩, second⟩
    · rintro ⟨c', ⟨looked, after, fits, same, under, first⟩, second⟩
      exact ⟨looked, after, fits, same, under, ih.mpr ⟨c', first, second⟩⟩

end Trail

variable {files : FileTree} {s : Store} {path : List String} {met : List Encounter}
  {family : List ComponentEdge} {legs : List Leg} {w w' : Walk} {trail : Trail}
  {c c' c'' : Context}

/-! ### How edges end on a walk -/

namespace Trace

/-- How an edge ends at what is met there, after some encounters. -/
def ending (met : List Encounter) (leg : Leg) : Meeting → Trace
  | .obstacle o => blocked o
  | .node r _ name node =>
    match Encounter.ownerOf? met name with
    | some first => again ⟨r, name, node, first⟩
    | none => entered ⟨r, name, node, ownerBelow leg.kind name leg.owner node⟩

theorem ending_known {leg : Leg} {r : Resolved} {reference : Reference} {name : String}
    {node : NodeRecord} {first : Option String}
    (known : Encounter.ownerOf? met name = some first) :
    ending met leg (.node r reference name node) = again ⟨r, name, node, first⟩ := by
  simp only [ending, known]

theorem ending_unknown {leg : Leg} {r : Resolved} {reference : Reference} {name : String}
    {node : NodeRecord} (unknown : Encounter.ownerOf? met name = none) :
    ending met leg (.node r reference name node) =
      entered ⟨r, name, node, ownerBelow leg.kind name leg.owner node⟩ := by
  simp only [ending, unknown]

/-- An edge may end as it does at what is met there. -/
theorem fits_ending {leg : Leg} {m : Meeting} (keyed : Keyed c)
    (grown : Store.Grows files s c.store) (h : meet files path leg c = .ok (m, c')) :
    (ending met leg m).Fits files s path met leg c c' := by
  obtain ⟨target, looked, judged⟩ := meet_eq_ok h
  have key : targetKey files s leg.parent leg.edge = target.key := by
    rw [← targetKey_congr grown, look_key keyed looked]
  cases target with
  | missing reference =>
    cases judged
    exact ⟨key, looked⟩
  | found r reference =>
    have finds : leg.Finds files s c r c' := ⟨key, reference, looked⟩
    rcases meetResolved_cases judged with ⟨rfl, onPath⟩ | ⟨rfl, -, -⟩ |
      ⟨name, node, rfl, offPath, named, isNode⟩
    · exact ⟨r, finds, rfl, onPath⟩
    · obtain ⟨-, offPath, isChip⟩ := chip_of_meetResolved judged
      exact ⟨r, finds, rfl, offPath, isChip⟩
    · cases known : Encounter.ownerOf? met name with
      | some first =>
        rw [ending_known known]
        exact ⟨finds, offPath, ⟨named, isNode⟩, known⟩
      | none =>
        rw [ending_unknown known]
        exact ⟨finds, offPath, ⟨named, isNode⟩, known, rfl⟩

/-- An edge that may end in some way meets what it ends so at. -/
theorem Fits.meets {leg : Leg} {trace : Trace} (h : trace.Fits files s path met leg c c') :
    ∃ m, meet files path leg c = .ok (m, c') ∧ trace = ending met leg m := by
  cases trace with
  | blocked o =>
    cases o with
    | missing reference => exact ⟨_, meet_of_look h.2 rfl, rfl⟩
    | onPath key =>
      obtain ⟨r, ⟨-, reference, looked⟩, rfl, on⟩ := h
      exact ⟨_, meet_of_look looked (meetResolved_on on), rfl⟩
    | chip key =>
      obtain ⟨r, ⟨-, reference, looked⟩, rfl, off, name, chip, named, read⟩ := h
      exact ⟨_, meet_of_look looked (meetResolved_chip off named read), rfl⟩
  | again e =>
    obtain ⟨⟨-, reference, looked⟩, off, reads, known⟩ := h
    exact ⟨_, meet_of_look looked (meetResolved_node off reads.name reads.node),
      (ending_known known).symm⟩
  | entered e =>
    obtain ⟨⟨-, reference, looked⟩, off, reads, unknown, owned⟩ := h
    refine ⟨_, meet_of_look looked (meetResolved_node off reads.name reads.node), ?_⟩
    rw [ending_unknown unknown, ← owned]

/-- **An edge may end in one way only.** -/
theorem Fits.unique {leg : Leg} {trace other : Trace} (h : trace.Fits files s path met leg c c')
    (h' : other.Fits files s path met leg c c'') : trace = other ∧ c' = c'' := by
  obtain ⟨m, here, rfl⟩ := h.meets
  obtain ⟨m', there, rfl⟩ := h'.meets
  obtain ⟨rfl, rfl⟩ := Prod.mk.inj (Except.ok.inj (here.symm.trans there))
  exact ⟨rfl, rfl⟩

end Trace

/-- **Where a walk stands** after some encounters: it has noted their names, each with the owner of
the first encounter, and files have only been read since the store was as given. -/
structure Walk.Stands (files : FileTree) (s : Store) (met : List Encounter) (w : Walk) : Prop where
  settled : Settled w.context
  keyed : Keyed w.context
  grown : Store.Grows files s w.context.store
  seen : ∀ name, w.seen.get? name = Encounter.ownerOf? met name

namespace Walk.Stands

theorem look {parent : Resolved} {edge : ComponentEdge} {target : Target}
    (h : w.Stands files s met)
    (looked : DispatchTables.look files parent edge w.context = .ok (target, c)) :
    Walk.Stands files s met { w with context := c } := by
  have told := look_tells h.settled h.keyed looked
  exact ⟨told.settled, told.keyed, h.grown.trans told.grown, h.seen⟩

theorem report (h : w.Stands files s met) (d : Diagnostic) : (w.report d).Stands files s met :=
  ⟨⟨h.settled.store, h.settled.resolver⟩, h.keyed, h.grown, h.seen⟩

/-- A name that is met again is noted already. -/
theorem recordBus (h : w.Stands files s met) {e : Encounter}
    (known : w.seen.get? e.name = some e.owner) :
    (w.recordBus e.name e.owner e.node).Stands files s (met ++ [e]) := by
  rw [recordBus_eq]
  refine ⟨h.settled, h.keyed, h.grown, fun name => ?_⟩
  rw [Encounter.ownerOf?_append, ← h.seen, Encounter.ownerOf?_cons]
  show w.seen.get? name = _
  split
  · rename_i same
    rw [← same, known]
    rfl
  · exact Option.or_none.symm

theorem register (h : w.Stands files s met) {r : Resolved} {name : String} {node : NodeRecord}
    {kind : EdgeKind} {owner : Option String} (unknown : w.seen.get? name = none)
    (config : Option Expansion) :
    (w.register r.key name node kind owner config).2.Stands files s
      (met ++ [⟨r, name, node, ownerBelow kind name owner node⟩]) := by
  have seen := register_seen w r.key name node kind owner config
  rw [register_eq] at seen ⊢
  refine ⟨h.settled, h.keyed, h.grown, fun other => ?_⟩
  rw [seen, Encounter.ownerOf?_append, ← h.seen, Encounter.ownerOf?_cons]
  dsimp only
  split
  · rename_i same
    rw [← same, unknown]
    rfl
  · exact Option.or_none.symm

theorem edgesBelow (h : w.Stands files s met) (kind : EdgeKind) (node : NodeRecord) :
    (DispatchTables.edgesBelow kind node w).2.Stands files s met := by
  rw [edgesBelow_eq]
  exact ⟨h.settled, h.keyed, h.grown, h.seen⟩

/-- Along some edges what is met is what is on the trail. -/
theorem along (h : w.Stands files s met) (walks : Walks files path legs w trail w') :
    w'.Stands files s (met ++ trail.encounters) := by
  have told := walks.tells h.settled h.keyed
  refine ⟨told.settled, told.keyed, h.grown.trans told.grown, fun name => ?_⟩
  rw [walks.seen_eq, h.seen, Encounter.ownerOf?_append]

end Walk.Stands

/-- **The trail of a walk is accounted for**, from where the walk is to where it gets.  `met` lists
the encounters before, and `family` is what waits, unless there is no subsystem to wait for. -/
theorem Walks.accounted (walks : Walks files path legs w trail w') (stands : w.Stands files s met)
    (waits : (∀ leg ∈ legs, leg.kind ≠ .subsystem) ∨ family = w.family.getD []) :
    trail.Accounted files s path met family w.context w'.context := by
  -- on the walk; what has been met and what still waits differ from edge to edge
  induction walks generalizing met family with
  | nil => rfl
  | @blocked path leg rest w o c trail w' met' walks ih =>
    obtain ⟨target, looked, -⟩ := meet_eq_ok met'
    refine ⟨c, _, Trace.fits_ending stands.keyed stands.grown met', rfl, rfl, ih ?_ ?_⟩
    · rw [Trace.encounter?, Option.toList_none, Trail.encounters, List.append_nil,
        List.append_nil]
      exact (stands.look looked).report _
    · rw [Trace.isEntered, Bool.and_false]
      exact waits.imp_left fun none_ leg mem => none_ leg (List.mem_cons_of_mem _ mem)
  | @again path leg rest w r reference name node first c trail w' met' known walks ih =>
    obtain ⟨target, looked, -⟩ := meet_eq_ok met'
    have owned : Encounter.ownerOf? met name = some first := (stands.seen name).symm.trans known
    have fits : Trace.Fits files s path met leg w.context c _ :=
      Trace.fits_ending stands.keyed stands.grown met'
    rw [Trace.ending_known owned] at fits
    have here := (stands.look looked).recordBus (e := ⟨r, name, node, first⟩) known
    rw [recordBus_eq] at ih here
    refine ⟨c, c, fits, rfl, rfl, ih here ?_⟩
    rw [Trace.isEntered, Bool.and_false]
    exact waits.imp_left fun none_ leg mem => none_ leg (List.mem_cons_of_mem _ mem)
  | @entered path leg rest w r reference name node config c hardware w₂ components w₃ trail w'
      met' unknown configured up down walks ihUp ihDown ihRest =>
    obtain ⟨target, looked, -⟩ := meet_eq_ok met'
    have fresh : Encounter.ownerOf? met name = none := (stands.seen name).symm.trans unknown
    have fits : Trace.Fits files s path met leg w.context c _ :=
      Trace.fits_ending stands.keyed stands.grown met'
    rw [Trace.ending_unknown fresh] at fits
    -- what is waiting is followed by the edges below, if this is a subsystem
    have due : w₂.family = w.family :=
      (up.family_kept hardware_not_subsystem).trans (register_family ..)
    have family_eq : (if leg.kind = .subsystem then w₂.family.getD [] else []) =
        if leg.kind = .subsystem then family else [] := by
      split
      · rename_i sub
        rw [due]
        exact (waits.resolve_left fun none_ => none_ leg List.mem_cons_self sub).symm
      · rfl
    generalize isNew : Encounter.mk r name node (ownerBelow leg.kind name leg.owner node) = e
    have begun : (Walk.register { w with context := c } r.key name node leg.kind leg.owner
        config).2.Stands files s (met ++ [e]) :=
      isNew ▸ (stands.look looked).register unknown config
    have above := (begun.along up).edgesBelow leg.kind node
    have below := above.along down
    have first : hardware.Accounted files s (path ++ [r.key]) (met ++ [e]) [] _ w₂.context :=
      ihUp begun (.inl hardware_not_subsystem)
    have second : components.Accounted files s (path ++ [r.key]) (met ++ [e] ++ hardware.encounters)
        [] _ w₃.context := ihDown above (.inl component_not_subsystem)
    rw [register_eq] at first
    rw [edgesBelow_eq] at second
    subst isNew
    refine ⟨c, w₃.context, fits, ?_,
      Trail.accounted_append.mpr ⟨w₂.context, first, ?_⟩, ?_⟩
    · rw [Trail.legs_append, up.legs_eq, down.legs_eq, edgesBelow_eq, family_eq]
      rfl
    · rw [ite_self]
      exact second
    · rw [List.append_assoc, List.append_assoc, ← Trail.encounters_append] at below
      refine ihRest below ?_
      rcases waits with none_ | waiting
      · exact .inl fun leg mem => none_ leg (List.mem_cons_of_mem _ mem)
      · right
        rw [down.family_kept component_not_subsystem, edgesBelow_family, due, waiting,
          Trace.isEntered, Bool.and_true]
        by_cases sub : leg.kind = .subsystem
        · simp [sub]
        · simp [sub]

/-- **No other trail along the same edges is accounted for.** -/
theorem Trail.Accounted.unique {other : Trail}
    (h : trail.Accounted files s path met family c c')
    (h' : other.Accounted files s path met family c c'') (same : other.legs = trail.legs) :
    other = trail ∧ c' = c'' := by
  induction trail generalizing other path met family c c' c'' with
  | nil =>
    cases other with
    | nil =>
      cases h
      cases h'
      exact ⟨rfl, rfl⟩
    | step => cases same
  | step leg trace below rest ihBelow ihRest =>
    cases other with
    | nil => cases same
    | step leg' trace' below' rest' =>
      obtain ⟨rfl, rests⟩ := List.cons.inj same
      obtain ⟨looked, after, fits, legs, under, later⟩ := h
      obtain ⟨looked', after', fits', legs', under', later'⟩ := h'
      obtain ⟨rfl, rfl⟩ := fits.unique fits'
      obtain ⟨rfl, rfl⟩ := ihBelow under under' (legs'.trans legs.symm)
      obtain ⟨rfl, rfl⟩ := ihRest later later' rests
      exact ⟨rfl, rfl⟩

/-! ### The whole walk -/

/-- A bot as the first node that is met. -/
def botEncounter (root : Resolved) (bot : BotRecord) : Encounter :=
  ⟨root, rootName root, bot.node, botOwner root bot⟩

/-- **Three trails account for a traversal** of a bot: its hardware, its subsystems, and then its
components, those of the family first if no subsystem has been entered.  Taken together every edge
is accounted for, from the first context to the last; all that is reported of edges is what they
report, and all that is charged is the bot's own bus and what they charge. -/
structure Accounts (files : FileTree) (root : Resolved) (bot : BotRecord) (c c' : Context)
    (t : Traversal) (hardware subsystems components : Trail) : Prop where
  hardwareEdges : hardware.legs = hardwareLegs root (rootName root) (botOwner root bot) bot.node
  subsystemEdges : subsystems.legs =
    edgeLegs root .subsystem (botOwner root bot) bot.subsystems
  componentEdges : components.legs = edgeLegs root .component (botOwner root bot)
    ((if subsystems.entersSubsystem then [] else bot.familyComponents) ++ bot.node.childEdges)
  ends : (hardware.append (subsystems.append components)).Accounted files c.store [root.key]
    [botEncounter root bot] bot.familyComponents c c'
  reported : c'.diagnostics.filter isEdgeWarning = c.diagnostics.filter isEdgeWarning ++
    (hardware.append (subsystems.append components)).warnings [root.key]
  charged : t.busUses = (useOf (rootName root) (botOwner root bot) bot.node).toList ++
    (hardware.append (subsystems.append components)).uses

/-- **A traversal has one account.** -/
theorem Accounts.unique {root : Resolved} {bot : BotRecord} {t : Traversal}
    {hardware subsystems components hardware' subsystems' components' : Trail}
    (h : Accounts files root bot c c' t hardware subsystems components)
    (h' : Accounts files root bot c c' t hardware' subsystems' components') :
    hardware' = hardware ∧ subsystems' = subsystems ∧ components' = components := by
  obtain ⟨c₁, first, later⟩ := Trail.accounted_append.mp h.ends
  obtain ⟨c₁', first', later'⟩ := Trail.accounted_append.mp h'.ends
  obtain ⟨c₂, second, third⟩ := Trail.accounted_append.mp later
  obtain ⟨c₂', second', third'⟩ := Trail.accounted_append.mp later'
  obtain ⟨rfl, rfl⟩ := first.unique first' (h'.hardwareEdges.trans h.hardwareEdges.symm)
  obtain ⟨rfl, rfl⟩ := second.unique second' (h'.subsystemEdges.trans h.subsystemEdges.symm)
  obtain ⟨rfl, -⟩ := third.unique third' (h'.componentEdges.trans h.componentEdges.symm)
  exact ⟨rfl, rfl, rfl⟩

theorem botStart_stands (root : Resolved) (bot : BotRecord) (settled : Settled c)
    (keyed : Keyed c) : (botStart root bot c).Stands files c.store [botEncounter root bot] := by
  have nothing : (unwalked bot c).Stands files c.store [] :=
    ⟨settled, keyed, Store.Grows.refl files _, fun _ => rfl⟩
  exact nothing.register rfl none

/-- The walk from a bot is accounted for. -/
theorem BotWalks.accounts {root : Resolved} {bot : BotRecord}
    {hardware subsystems components : Trail} {w₁ w₂ : Walk} {t : Traversal}
    (walks : BotWalks files root bot c hardware w₁ subsystems w₂ components w)
    (settled : Settled c) (keyed : Keyed c) (uses : t.busUses = w.busUses) :
    Accounts files root bot c w.context t hardware subsystems components := by
  have begun : (botStart root bot c).context = c := botStart_context root bot c
  have due : w₂.family.getD [] =
      if subsystems.entersSubsystem then [] else bot.familyComponents := by
    rw [walks.subsystems.family_eq, walks.hardware.family_kept hardware_not_subsystem,
      ← botStart_family root bot c]
    cases subsystems.entersSubsystem <;> rfl
  -- where the walk stands before each of the three parts, and what each of them tells
  have stands := @botStart_stands files c root bot settled keyed
  have stands₁ := stands.along walks.hardware
  have stands₂ := stands₁.along walks.subsystems
  have first := walks.hardware.tells stands.settled stands.keyed
  rw [begun] at first
  have second := walks.subsystems.tells stands₁.settled stands₁.keyed
  have third := walks.components.tells stands₂.settled stands₂.keyed
  refine ⟨walks.hardware.legs_eq, walks.subsystems.legs_eq, ?_, ?_, ?_, ?_⟩
  · rw [walks.components.legs_eq, due]
  · have up : hardware.Accounted files c.store [root.key] [botEncounter root bot]
        bot.familyComponents _ w₁.context :=
      walks.hardware.accounted stands (.inl hardware_not_subsystem)
    rw [begun] at up
    refine Trail.accounted_append.mpr
      ⟨w₁.context, up, Trail.accounted_append.mpr ⟨w₂.context, ?_, ?_⟩⟩
    · refine walks.subsystems.accounted stands₁ (.inr ?_)
      rw [walks.hardware.family_kept hardware_not_subsystem,
        walks.hardware.entersSubsystem_eq_false hardware_not_subsystem]
      exact (botStart_family root bot c).symm
    · exact walks.components.accounted
        ⟨stands₂.settled, stands₂.keyed, stands₂.grown, stands₂.seen⟩
        (.inl component_not_subsystem)
  · rw [Trail.warnings_append, Trail.warnings_append]
    exact (first.trans (second.trans third)).said
  · have sum : w.busUses = w₂.busUses ++ components.uses := walks.components.busUses_eq
    rw [uses, sum, walks.subsystems.busUses_eq, walks.hardware.busUses_eq, botStart_busUses,
      Trail.uses_append, Trail.uses_append]
    simp only [List.append_assoc]

theorem storeOf_inUse (documents : List (String × Members)) :
    InUse noFiles (.ofStore (storeOf documents)) :=
  have opened : Store.ofDirectory noFiles "/" = .ok (.empty "/") :=
    Store.ofDirectory_of_ordered [] [] (by decide +kernel) (by decide +kernel) (by decide +kernel)
      (by decide +kernel) (by decide +kernel)
  .other (.opened opened) rfl

theorem smallStore_inUse : InUse noFiles (.ofStore (storeOf smallDocuments)) :=
  storeOf_inUse smallDocuments

end DispatchTables
