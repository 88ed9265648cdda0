import DispatchTables.Proofs.Descriptor.Fields
import DispatchTables.Proofs.Inheritance.Recall
import DispatchTables.Proofs.Traversal.Refinement
import DispatchTables.Proofs.Traversal.Sharing

/-!
# Components written in place

A component in place is resolved under a key made of its node's key and its own name.  Two of the
same node with the same name share that key, and so does the memory of the resolver: whatever the
later ones say, they are met as the first, and it is the first that says whether there is a bus and
which pins it needs.

## Main Definitions

* `declaredUse`: what is charged for a device by what its document says.
* `Leg.placeKey?`: the key under which a component in place is resolved.
* `Recounts`: what a context remembers under such a key of what has been followed.

## Main Statements

* `useOf_eq_declaredUse`: a node is charged what its document says.
* `recounts_steps`: every step keeps what is remembered.
* `inPlace_uses`: components in place under one key are charged what the first of them says.
-/

namespace DispatchTables

/-! ### What documents say of buses -/

/-- The bus that a document names. -/
def declaredBus (doc : Members) : Option String := (doc.get? "bus_type").bind Json.asString?

/-- The pins that a document asks for. -/
def declaredPins (doc : Members) : PinRequirements :=
  ((doc.get? "pin_requirements").bind fun v => (PinRequirements.decode v).toOption).getD {}

/-- **What is charged for a device by what its document says**: nothing if it names no bus. -/
def declaredUse (device : String) (owner : Option String) (doc : Members) : Option BusUse :=
  (declaredBus doc).map fun bus =>
    ⟨device, owner, bus, (declaredPins doc).shared, (declaredPins doc).unique⟩

theorem set_busType (n : NodeRecord) (v : Json) (n' : NodeRecord)
    (h : n.set "bus_type" v = .ok n') : n'.busType = v.asString? := by
  unfold NodeRecord.set at h
  obtain ⟨bus, read, h⟩ := bind_eq_ok h
  cases h
  cases v <;> cases read <;> rfl

theorem set_pinRequirements (n : NodeRecord) (v : Json) (n' : NodeRecord)
    (h : n.set "pin_requirements" v = .ok n') :
    n'.pinRequirements.getD {} = (PinRequirements.decode v).toOption.getD {} := by
  unfold NodeRecord.set at h
  obtain ⟨pins, read, h⟩ := bind_eq_ok h
  cases h
  unfold Decoder.optional at read
  split at read
  · cases read
    rfl
  · obtain ⟨needs, decoded, same⟩ := bind_eq_ok read
    cases same
    rw [decoded]
    rfl

theorem set_other (n : NodeRecord) (key : String) (v : Json) (n' : NodeRecord)
    (h : n.set key v = .ok n') :
    (key ≠ "bus_type" → n'.busType = n.busType) ∧
      (key ≠ "pin_requirements" → n'.pinRequirements = n.pinRequirements) := by
  unfold NodeRecord.set at h
  split at h
  case h_10 =>
    cases h
    exact ⟨fun _ => rfl, fun _ => rfl⟩
  all_goals
    obtain ⟨value, -, h⟩ := bind_eq_ok h
    cases h
    simp

variable {files : FileTree} {before : List Followed} {w w' : Walk} {s : Followed} {key : String}
  {c c' : Context} {root r : Resolved} {bot : BotRecord} {t : Traversal} {node : NodeRecord}
  {device : String} {owner : Option String} {known old : Option Resolved} {doc : Members}

/-- **A node is charged what its document says.** -/
theorem useOf_eq_declaredUse (isNode : nodeOf? r = some node) (distinct : r.doc.keys.Nodup) :
    useOf device owner node = declaredUse device owner r.doc := by
  obtain ⟨read, fields, same⟩ := bind_eq_ok (ofDocument_of_nodeOf? isNode)
  cases same
  have bus := fields_get (P := fun v bus => bus = v.asString?) set_busType
    (fun n key v n' other h => (set_other n key v n' h).1 other) distinct fields
  have pins := fields_get (f := fun n : NodeRecord => n.pinRequirements.getD {})
    (P := fun v pins => pins = (PinRequirements.decode v).toOption.getD {}) set_pinRequirements
    (fun n key v n' other h => by rw [(set_other n key v n' h).2 other]) distinct fields
  have bus : read.busType = declaredBus r.doc := by
    unfold declaredBus
    cases said : r.doc.get? "bus_type" <;> rw [said] at bus <;> exact bus
  have pins : read.pinRequirements.getD {} = declaredPins r.doc := by
    unfold declaredPins
    cases said : r.doc.get? "pin_requirements" <;> rw [said] at pins <;> exact pins
  unfold useOf declaredUse
  dsimp only
  rw [bus, pins]

theorem Resolved.Says.declaredUse (h : r.Says doc) (device : String) (owner : Option String) :
    declaredUse device owner r.doc = DispatchTables.declaredUse device owner doc := by
  unfold DispatchTables.declaredUse declaredBus declaredPins
  rw [h.get? "bus_type" (by decide), h.get? "pin_requirements" (by decide)]

/-! ### Under one key -/

/-- The key under which the component at the end of an edge is resolved, if it is one in place that
has a name. -/
def Leg.placeKey? (leg : Leg) : Option String :=
  match leg.edge with
  | .inline doc => (declaredName doc).map (leg.parent.key ++ "#" ++ ·)
  | .reference _ | .positioned _ => none

theorem aim_of_placeKey? {leg : Leg} (placed : leg.placeKey? = some key) (files : FileTree)
    (s : Store) :
    ∃ doc, leg.edge = .inline doc ∧
      aim files s leg.parent leg.edge = .ok (.ofDocument key leg.parent.path doc) := by
  obtain ⟨parent, subject, kind, edge, owner⟩ := leg
  cases edge with
  | reference text => cases placed
  | positioned text => cases placed
  | inline doc =>
    obtain ⟨label, named, rfl⟩ := Option.map_eq_some_iff.mp placed
    refine ⟨doc, rfl, ?_⟩
    unfold aim
    dsimp only
    rw [named]

theorem aim_ne {leg : Leg} {s : Store} {d : Descriptor} (lacks : s.Lacks files key)
    (elsewhere : leg.placeKey? ≠ some key) (aimed : aim files s leg.parent leg.edge = .ok d) :
    d.key ≠ key := by
  have text : ∀ text, aim files s leg.parent (.reference text) = .ok d → d.key ≠ key := by
    intro text aimed
    unfold aim at aimed
    dsimp only at aimed
    cases parsed : Reference.parse? text with
    | none =>
      rw [parsed] at aimed
      cases aimed
    | some reference =>
      rw [parsed] at aimed
      exact lacks reference.name d aimed
  obtain ⟨parent, subject, kind, edge, owner⟩ := leg
  cases edge with
  | reference name => exact text name aimed
  | positioned name => exact text name aimed
  | inline doc =>
    unfold aim at aimed
    dsimp only at aimed
    cases named : declaredName doc with
    | none =>
      rw [named] at aimed
      cases aimed
    | some label =>
      rw [named] at aimed
      cases aimed
      intro same
      exact elsewhere (Option.map_eq_some_iff.mpr ⟨label, named, same⟩)

/-- **Looking elsewhere leaves a key alone, and looking there finds what is remembered**, or else
puts there what is found. -/
theorem look_recalls {leg : Leg} {target : Target} (settled : Settled c)
    (h : Recalls files key known c) (uncut : Uncut c)
    (looked : look files leg.parent leg.edge c = .ok (target, c')) : Uncut c' ∧
      ((leg.placeKey? ≠ some key ∧ Recalls files key known c') ∨
        ∃ doc r reference, leg.placeKey? = some key ∧ leg.edge = .inline doc ∧
          target = .found r reference ∧ Recalls files key (some r) c' ∧
          (∀ r₀, known = some r₀ → r = r₀) ∧
          (known = none → inherits doc = false → doc.keys.Nodup → r.Says doc)) := by
  obtain ⟨c₁, extended, memory, found⟩ := look_eq_ok looked
  have h₁ : Recalls files key known c₁ :=
    ⟨h.lacks.mono (extended settled).grown, by rw [memory.memo]; exact h.memo⟩
  have uncut₁ : Uncut c₁ := by
    unfold Uncut
    rw [memory.cut]
    exact uncut
  by_cases placed : leg.placeKey? = some key
  · obtain ⟨doc, inPlace, aimed⟩ := aim_of_placeKey? placed files c.store
    obtain ⟨m, -, -, missing⟩ | ⟨d, reference, rfl, rfl, found⟩ := found
    · cases aimed.symm.trans missing
    · cases aimed.symm.trans found
      refine ⟨resolve_uncut uncut₁ _, .inr ⟨doc, _, reference, placed, inPlace, rfl, ?_⟩⟩
      cases known with
      | none =>
        have first := resolve_first (d := .ofDocument key leg.parent.path doc) h₁ uncut₁
        exact ⟨first, nofun, fun _ own distinct => resolve_says h₁.memo own distinct⟩
      | some r₀ =>
        have again := resolve_again (d := .ofDocument key leg.parent.path doc) files h₁.memo
        rw [again]
        exact ⟨h₁.absorb, fun _ same => Option.some.inj same, nofun⟩
  · obtain ⟨m, -, rfl, -⟩ | ⟨d, reference, -, rfl, aimed⟩ := found
    · exact ⟨uncut₁, .inl ⟨placed, h₁⟩⟩
    · exact ⟨resolve_uncut uncut₁ d,
        .inl ⟨placed, resolve_elsewhere h₁ (aim_ne h.lacks placed aimed)⟩⟩

/-- **What a context remembers of what has been followed** under a key that no reference leads to:
what was there before, or what the first component in place under this key says; and all that are
met under it are that one. -/
structure Recounts (files : FileTree) (key : String) (old : Option Resolved)
    (before : List Followed) (c : Context) : Prop where
  settled : Settled c
  uncut : Uncut c
  lacks : c.store.Lacks files key
  sources : ∀ s ∈ before, s.leg.placeKey? = some key → ∀ e, s.encounter? = some e →
    c.resolver.memo.get? key = some e.source ∧ nodeOf? e.source = some e.node
  kept : ∀ r, old = some r → c.resolver.memo.get? key = some r
  unplaced : before.find? (·.leg.placeKey? == some key) = none → c.resolver.memo.get? key = old
  first : old = none → ∀ s, before.find? (·.leg.placeKey? == some key) = some s →
    ∃ doc r, s.leg.edge = .inline doc ∧ c.resolver.memo.get? key = some r ∧
      (inherits doc = false → doc.keys.Nodup → r.Says doc)

/-- An edge elsewhere changes nothing under the key. -/
theorem Recounts.elsewhere {leg : Leg} (h : Recounts files key old before c) (settled : Settled c')
    (uncut : Uncut c') (recalls : Recalls files key (c.resolver.memo.get? key) c')
    (elsewhere : leg.placeKey? ≠ some key) (trace : Trace) :
    Recounts files key old (before ++ [⟨leg, trace⟩]) c' := by
  have passed : (before ++ [Followed.mk leg trace]).find? (·.leg.placeKey? == some key) =
      before.find? (·.leg.placeKey? == some key) := by
    rw [List.find?_append, List.find?_singleton, if_neg (by simpa using elsewhere),
      Option.or_none]
  refine ⟨settled, uncut, recalls.lacks, ?_, ?_, ?_, ?_⟩
  · intro s mem placed e ended
    rw [recalls.memo]
    rcases List.mem_append.mp mem with earlier | last
    · exact h.sources s earlier placed e ended
    · rw [List.mem_singleton.mp last] at placed
      exact absurd placed elsewhere
  · rw [recalls.memo]
    exact h.kept
  · rw [recalls.memo, passed]
    exact h.unplaced
  · rw [recalls.memo, passed]
    exact h.first

/-- A component in place under the key is met as what is remembered, or is remembered. -/
theorem Recounts.here {leg : Leg} {trace : Trace} (h : Recounts files key old before c)
    (settled : Settled c') (uncut : Uncut c') (recalls : Recalls files key (some r) c')
    (placed : leg.placeKey? = some key) (inPlace : leg.edge = .inline doc)
    (same : ∀ r₀, c.resolver.memo.get? key = some r₀ → r = r₀)
    (written : c.resolver.memo.get? key = none → inherits doc = false → doc.keys.Nodup →
      r.Says doc)
    (ends : ∀ e, trace.encounter? = some e → e.source = r ∧ nodeOf? r = some e.node) :
    Recounts files key old (before ++ [⟨leg, trace⟩]) c' := by
  refine ⟨settled, uncut, recalls.lacks, ?_, ?_, ?_, ?_⟩
  · intro s mem placed e ended
    rw [recalls.memo]
    rcases List.mem_append.mp mem with earlier | last
    · obtain ⟨known, isNode⟩ := h.sources s earlier placed e ended
      exact ⟨congrArg some (same e.source known), isNode⟩
    · rw [List.mem_singleton.mp last] at ended
      obtain ⟨is, isNode⟩ := ends e ended
      rw [is]
      exact ⟨rfl, isNode⟩
  · intro r₀ is
    rw [recalls.memo, same r₀ (h.kept r₀ is)]
  · intro none_
    have here := List.find?_eq_none.mp none_ ⟨leg, trace⟩
      (List.mem_append_right _ List.mem_cons_self)
    exact absurd (beq_iff_eq.mpr placed) here
  · intro blank s found
    rw [recalls.memo]
    rw [List.find?_append] at found
    cases earlier : before.find? (·.leg.placeKey? == some key) with
    | some first =>
      rw [earlier] at found
      cases found
      obtain ⟨doc, r', inPlace, known, written⟩ := h.first blank s earlier
      exact ⟨doc, r, inPlace, rfl, same r' known ▸ written⟩
    | none =>
      rw [earlier, Option.none_or, List.find?_singleton, if_pos (beq_iff_eq.mpr placed)] at found
      cases found
      exact ⟨doc, r, inPlace, rfl, written ((h.unplaced earlier).trans blank)⟩

/-- **One more edge is recounted**, wherever it leads. -/
theorem Recounts.step {path : List String} {leg : Leg} {m : Meeting} {trace : Trace}
    (h : Recounts files key old before c) (met : meet files path leg c = .ok (m, c'))
    (ends : ∀ e, trace.encounter? = some e →
      ∃ reference, m = .node e.source reference e.name e.node) :
    Recounts files key old (before ++ [⟨leg, trace⟩]) c' := by
  obtain ⟨target, looked, judged⟩ := meet_eq_ok met
  have settled := (look_extends h.settled looked).settled
  obtain ⟨uncut, ⟨elsewhere, recalls⟩ | ⟨doc, r, reference, placed, inPlace, rfl, recalls, same,
    written⟩⟩ := look_recalls h.settled ⟨h.lacks, rfl⟩ h.uncut looked
  · exact h.elsewhere settled uncut recalls elsewhere trace
  · refine h.here settled uncut recalls placed inPlace same written fun e ended => ?_
    obtain ⟨_, is⟩ := ends e ended
    rcases meetResolved_cases judged with ⟨is', -⟩ | ⟨is', -, -⟩ | ⟨_, _, is', -, -, isNode⟩
    · cases is.symm.trans is'
    · cases is.symm.trans is'
    · cases is.symm.trans is'
      exact ⟨rfl, isNode⟩

/-- **Every step keeps what is remembered.** -/
theorem recounts_steps (files : FileTree) (key : String) (old : Option Resolved) :
    StepsKeep files fun before w => Recounts files key old before w.context where
  blocked := by
    intro path before leg w o c h met
    have looked : Recounts files key old (before ++ [⟨leg, .blocked o⟩]) c := by
      refine h.step met ?_
      rintro e ⟨⟩
    exact ⟨⟨looked.settled.store, looked.settled.resolver⟩, looked.uncut, looked.lacks,
      looked.sources, looked.kept, looked.unplaced, looked.first⟩
  again := by
    intro path before leg w r reference name node first c h met known
    rw [recordBus_eq]
    refine h.step met ?_
    rintro e ⟨⟩
    exact ⟨reference, rfl⟩
  entered := by
    intro path before leg w r reference name node c config h met unknown
    rw [register_eq]
    refine h.step met ?_
    rintro e ⟨⟩
    exact ⟨reference, rfl⟩
  family := fun family h => h

/-- At the end of a traversal all that has been followed is recounted. -/
theorem Tale.recounts (tale : Tale files root bot c c' t) (settled : Settled c) (uncut : Uncut c)
    (lacks : c.store.Lacks files key) :
    Recounts files key (c.resolver.memo.get? key) tale.trail.followed c' := by
  have unplaced : [botStep root bot].find? (·.leg.placeKey? == some key) = none := rfl
  have start : Recounts files key (c.resolver.memo.get? key) [botStep root bot] c := by
    refine ⟨settled, uncut, lacks, ?_, fun r is => is, fun _ => rfl, ?_⟩
    · intro s mem placed
      rw [List.mem_singleton.mp mem] at placed
      cases placed
    · intro _ s found
      rw [unplaced] at found
      cases found
  rw [← botStart_context root bot c] at start
  have recounts := tale.keeps (recounts_steps files key _) start
  rwa [← tale.context, botStart_context] at recounts

/-- **Components in place under one key are charged what the first of them says.**  Where no file
has the key that a node's key and a name make, everything that is met under it is one document: what
is remembered from before, or else the first component in place that is followed there.  If that one
builds on nothing, an encounter charges a bus just if it names one, and then the pins that it asks
for; what the others say of theirs does not count. -/
theorem inPlace_uses {d : Descriptor} (begun : InUse files c) (uncut : Uncut c)
    (h : traverse files (c.resolve files d).2 (c.resolve files d).1 = (.ok t, c')) :
    (∃ bot, Nonempty (Tale files (c.resolve files d).1 bot (c.resolve files d).2 c' t)) ∧
    ∀ bot (tale : Tale files (c.resolve files d).1 bot (c.resolve files d).2 c' t),
      Accounts files (c.resolve files d).1 bot (c.resolve files d).2 c' t tale.hardware
        tale.subsystems tale.components ∧
      ∀ key, (c.resolve files d).2.store.Lacks files key →
        ∀ s ∈ tale.trail.followed, s.leg.placeKey? = some key → ∀ e, s.encounter? = some e →
          (∀ r, (c.resolve files d).2.resolver.memo.get? key = some r → e.source = r) ∧
          ((c.resolve files d).2.resolver.memo.get? key = none →
            ∃ first doc, tale.trail.followed.find? (·.leg.placeKey? == some key) = some first ∧
              first.leg.edge = .inline doc ∧
              (inherits doc = false → doc.keys.Nodup →
                e.use? = declaredUse e.name e.owner doc)) := by
  refine ⟨traverse_tale h, fun bot tale => ⟨tale.accounts begun, ?_⟩⟩
  intro key lacks s mem placed e ended
  have recounts := tale.recounts (resolve_settled files c d) (resolve_uncut uncut d) lacks
  obtain ⟨known, isNode⟩ := recounts.sources s mem placed e ended
  constructor
  · intro r is
    exact Option.some.inj (known.symm.trans (recounts.kept r is))
  · intro blank
    obtain ⟨first, found⟩ := Followed.exists_find? (p := (·.leg.placeKey? == some key)) mem
      (beq_iff_eq.mpr placed)
    obtain ⟨doc, r, inPlace, same, written⟩ := recounts.first blank first found
    cases known.symm.trans same
    refine ⟨first, doc, found, inPlace, fun own distinct => ?_⟩
    have written := written own distinct
    have distinct : e.source.doc.keys.Nodup := written.keys ▸ distinct
    rw [Encounter.use?, useOf_eq_declaredUse isNode distinct, written.declaredUse]

/-- A tree with a bot that has two components in place of one name, of which the second has a
bus. -/
def namesakeFiles : FileTree where
  workingDirectory := []
  directories := [["lib"]]
  files := [
    (["lib", "bot.json"], ("\x7b\"name\": \"bot\", \"components\": [\x7b\"name\": \"b\"\x7d, " ++
      "\x7b\"name\": \"b\", \"bus_type\": \"i2c\"\x7d]\x7d").toUTF8)]

/-- The store of this tree. -/
def namesakeStore : Store := [["bot.json"]].foldl Store.addFile (.empty "/lib")

theorem ofDirectory_namesakeFiles : Store.ofDirectory namesakeFiles "/lib" = .ok namesakeStore :=
  Store.ofDirectory_of_ordered ["lib"] _ (by decide +kernel) (by decide +kernel)
    (by decide +kernel) (by decide +kernel) (by decide +kernel)

/-- No file has the key of the two components. -/
theorem lacks_namesakeStore : (startAt namesakeFiles namesakeStore).2.store.Lacks namesakeFiles
    "bot#b" := by
  have faithful := Store.ofDirectory_faithful ofDirectory_namesakeFiles
  have lacks : namesakeStore.Lacks namesakeFiles "bot#b" :=
    faithful.lacks (by decide +kernel)
  have opened : Settled (Context.ofStore namesakeStore) := settled_absorb _
  exact lacks.mono ((Store.takeWarnings_grows namesakeFiles _).trans
    (resolve_extends opened (botAt namesakeFiles namesakeStore)).grown)

theorem traverseAt_namesake : ∃ t c, traverseAt namesakeFiles namesakeStore = (.ok t, c) ∧
    t.busUses = [] := by
  have uses : (traverseAt namesakeFiles namesakeStore).1.toOption.map (fun t => t.busUses) =
      some [] := by decide +kernel
  exact exists_of_fst_toOption uses

/-- Whether an edge leads to a component in place that says of itself, and not of what it builds on,
that it has a bus. -/
def Followed.declaresBus (s : Followed) : Bool :=
  match s.leg.edge with
  | .inline doc => !inherits doc && (declaredBus doc).isSome
  | .reference _ | .positioned _ => false

/-- The second of the two components is met, and has a bus. -/
theorem met_namesake {t : Traversal} {c : Context} {bot : BotRecord}
    (tale : Tale namesakeFiles (startAt namesakeFiles namesakeStore).1 bot
      (startAt namesakeFiles namesakeStore).2 c t) :
    ∃ s ∈ tale.trail.followed, s.leg.placeKey? = some "bot#b" ∧
      ∃ e, s.encounter? = some e ∧ ∃ doc, s.leg.edge = .inline doc ∧ inherits doc = false ∧
        (declaredUse e.name e.owner doc).isSome := by
  have met := tale.trail_of_told 10 (fun trail => trail.followed.any fun s =>
    s.leg.placeKey? == some "bot#b" && (s.encounter?.isSome && s.declaresBus)) (by decide +kernel)
  obtain ⟨s, mem, checked⟩ := List.any_eq_true.mp met
  obtain ⟨placed, checked⟩ := Bool.and_eq_true_iff.mp checked
  obtain ⟨ends, declares⟩ := Bool.and_eq_true_iff.mp checked
  obtain ⟨e, ended⟩ := Option.isSome_iff_exists.mp ends
  unfold Followed.declaresBus at declares
  split at declares
  · rename_i doc inPlace
    obtain ⟨own, bus⟩ := Bool.and_eq_true_iff.mp declares
    refine ⟨s, mem, beq_iff_eq.mp placed, e, ended, doc, inPlace, by simpa using own, ?_⟩
    rw [declaredUse, Option.isSome_map]
    exact bus
  · cases declares
  · cases declares

/-- Both are met as the first of them, which has no bus. -/
theorem inPlace_uses_namesake : ∃ t c, traverseAt namesakeFiles namesakeStore = (.ok t, c) ∧
    ∃ bot, ∃ tale : Tale namesakeFiles (startAt namesakeFiles namesakeStore).1 bot
      (startAt namesakeFiles namesakeStore).2 c t,
      ∃ s ∈ tale.trail.followed, s.leg.placeKey? = some "bot#b" ∧ ∃ e, s.encounter? = some e ∧
        ∃ first doc, tale.trail.followed.find? (·.leg.placeKey? == some "bot#b") = some first ∧
          first.leg.edge = .inline doc ∧ (inherits doc = false → doc.keys.Nodup →
            e.use? = declaredUse e.name e.owner doc) := by
  obtain ⟨t, c, walked, -⟩ := traverseAt_namesake
  obtain ⟨⟨bot, ⟨tale⟩⟩, uses⟩ := inPlace_uses (.opened ofDirectory_namesakeFiles)
    (show Uncut (.ofStore namesakeStore) from nofun) walked
  obtain ⟨s, mem, placed, e, ended, -⟩ := met_namesake tale
  obtain ⟨-, blank⟩ := (uses bot tale).2 "bot#b" lacks_namesakeStore s mem placed e ended
  obtain ⟨first, doc, found, inPlace, same⟩ := blank (by decide +kernel)
  exact ⟨t, c, walked, bot, tale, s, mem, placed, e, ended, first, doc, found, inPlace, same⟩

/-- **What a component in place says of its bus may be lost.**  The second of two that share a node
and a name has a bus, and is met, and nothing is charged. -/
theorem inPlace_bus_lost : ∃ t c, traverseAt namesakeFiles namesakeStore = (.ok t, c) ∧
    ∃ bot, ∃ tale : Tale namesakeFiles (startAt namesakeFiles namesakeStore).1 bot
      (startAt namesakeFiles namesakeStore).2 c t,
      ∃ s ∈ tale.trail.followed, ∃ doc, s.leg.edge = .inline doc ∧ inherits doc = false ∧
        ∃ e, s.encounter? = some e ∧ (declaredUse e.name e.owner doc).isSome ∧
          t.busUses = [] := by
  obtain ⟨t, c, walked, uses⟩ := traverseAt_namesake
  obtain ⟨bot, ⟨tale⟩⟩ := traverse_tale walked
  obtain ⟨s, mem, -, e, ended, doc, inPlace, own, declares⟩ := met_namesake tale
  exact ⟨t, c, walked, bot, tale, s, mem, doc, inPlace, own, e, ended, declares, uses⟩

end DispatchTables
