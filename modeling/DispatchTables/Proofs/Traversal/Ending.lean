import DispatchTables.Proofs.Traversal.Standing

/-!
# The steps of a walk come to an end

The walk is a recursion within a bound, and its steps know of none.  They do what the recursion
does, by induction on its bound and, inside that, on the edges that are left: each expansion takes
one of the names that are left, and there are no more of these than steps.  What is called for on
the way comes to an end as all calls of the resolver do.

## Main Definitions

* `Walk.Bears`: steps bear out what a part of the walk comes to.

## Main Statements

* `Walk.bears_followLegs`: the steps bear out what following edges comes to.
* `Walk.bears_walkBot`: so they do for the walk from a bot.
* `traverse_halts`: every walk comes to an end.
-/

namespace DispatchTables

namespace Walk

open DispatchTables.Walk.Configuration

variable {files : FileTree} {names path expanded : List String} {c : Context} {r root : Resolved}
  {m : Position} {frame : Frame} {rest : List Frame} {leg : Leg} {legs : List Leg} {part : Part}
  {parts : List Part} {w : Walk} {x y : Configuration} {out : Walking Walk}
  {middle finish : List String → Walk → Configuration} {steps : Nat} {node : NodeRecord}
  {name : String} {kind : EdgeKind} {owner : Option String} {config : Option Expansion}
  {reference : Reference}

/-- **Steps bear out what a part of the walk comes to**: they lead to where it is finished, and
names may have been expanded on the way; or they fail as it does.  It never comes to a lack of
steps. -/
inductive Bears (files : FileTree) (x : Configuration) (expanded : List String)
    (finish : List String → Walk → Configuration) : Walking Walk → Prop where
  | ok {w : Walk} {more : List String} : Reaches files x (finish more w) → expanded ⊆ more →
      Bears files x expanded finish (.ok w)
  | failed {e : Failure} {c : Context} : Reaches files x (.stopped e c) →
      Bears files x expanded finish (.error (.failed e, c))

theorem Bears.head (reached : Reaches files x y) (h : Bears files y expanded finish out) :
    Bears files x expanded finish out := by
  cases h with
  | ok onward grown => exact .ok (reached.trans onward) grown
  | failed onward => exact .failed (reached.trans onward)

theorem Bears.bind {f : Walk → Walking Walk} (h : Bears files x expanded middle out)
    (later : ∀ more w, Reaches files x (middle more w) → expanded ⊆ more →
      Bears files (middle more w) more finish (f w)) :
    Bears files x expanded finish (out >>= f) := by
  cases h with
  | failed reached => exact .failed reached
  | @ok w more reached grown =>
    have onward := later more w reached grown
    show Bears files x expanded finish (f w)
    generalize f w = last at onward
    cases onward with
    | ok onward grows => exact .ok (reached.trans onward) (List.Subset.trans grown grows)
    | failed onward => exact .failed (reached.trans onward)

/-- One more step ends a part of the walk. -/
theorem Bears.tail (h : Bears files x expanded middle out)
    (next : ∀ more w, Next files (middle more w) (finish more w)) :
    Bears files x expanded finish out := by
  cases h with
  | ok reached grown => exact .ok (reached.tail (next _ _)) grown
  | failed reached => exact .failed reached

theorem Bears.mono {fewer : List String} (h : Bears files x expanded finish out)
    (sub : fewer ⊆ expanded) : Bears files x fewer finish out := by
  cases h with
  | ok reached grown => exact .ok reached (List.Subset.trans sub grown)
  | failed reached => exact .failed reached

/-! ### Names that are left -/

/-- The number of names that have not been expanded. -/
def namesLeft (names expanded : List String) : Nat :=
  (names.filter fun name => !expanded.contains name).length

theorem namesLeft_le {more : List String} (grown : expanded ⊆ more) :
    namesLeft names more ≤ namesLeft names expanded := by
  refine (List.monotone_filter_right names fun name left => ?_).length_le
  simp only [List.contains_eq_mem, Bool.not_eq_true', decide_eq_false_iff_not] at left ⊢
  exact fun mem => left (grown mem)

/-! ### Edges -/

/-- The innermost node is at some of its edges. -/
def following (path : List String) (frame : Frame) (rest : List Frame) (legs : List Leg)
    (expanded : List String) (w : Walk) : Configuration :=
  .walking ⟨path, { frame with legs } :: rest, expanded, w⟩

/-- What the steps bear out of following edges, as long as there are more steps than names left. -/
def Follows (files : FileTree) (names : List String) (steps : Nat) : Prop :=
  ∀ {path frame rest legs expanded w},
    (following path frame rest legs expanded w).Stands files (· ∈ names) →
    namesLeft names expanded < steps →
    Bears files (following path frame rest legs expanded w) expanded (following path frame rest [])
      (followLegs files (visit files steps) path legs w)

/-- **The next part of the edges of a node is followed.** -/
theorem bears_turn (follows : Follows files names steps)
    (h : (following path ⟨r, owner, [], part :: parts⟩ rest [] expanded w).Stands files (· ∈ names))
    (room : namesLeft names expanded < steps) :
    Bears files (following path ⟨r, owner, [], part :: parts⟩ rest [] expanded w) expanded
      (following path ⟨r, owner, [], parts⟩ rest [])
      (followLegs files (visit files steps) path (part.begin r owner w).1
        (part.begin r owner w).2) := by
  have turned : Next files
      (following path ⟨r, owner, [], part :: parts⟩ rest [] expanded w)
      (following path ⟨r, owner, [], parts⟩ rest (part.begin r owner w).1 expanded
        (part.begin r owner w).2) := rfl
  exact (follows (h.step turned) room).head (.single turned)

/-- A node that has no edges left is left. -/
theorem next_leave (files : FileTree) (path : List String) (rest : List Frame)
    (expanded : List String) (w : Walk) :
    Next files (following (path ++ [r.key]) ⟨r, owner, legs, []⟩ rest [] expanded w)
      (.walking ⟨path, rest, expanded, w⟩) := by
  have left : Next files (following (path ++ [r.key]) ⟨r, owner, legs, []⟩ rest [] expanded w)
      (.walking ⟨(path ++ [r.key]).dropLast, rest, expanded, w⟩) := rfl
  rwa [List.dropLast_concat] at left

/-- The components of a node are followed with those of the family if this is a subsystem. -/
theorem begin_components (kind : EdgeKind) (node : NodeRecord) (w : Walk) :
    (Part.components node.childEdges (kind == .subsystem)).begin r owner w =
      (edgeLegs r .component owner (edgesBelow kind node w).1, (edgesBelow kind node w).2) := by
  cases kind <;> rfl

/-- **A node that is entered is expanded**: its hardware is followed, then its components, with
those of the family if it may take them. -/
theorem bears_expandNode (m : Position) (follows : Follows files names steps)
    (h : (Configuration.walking (m.enter r name node kind owner config
      [.components node.childEdges (kind == .subsystem)])).Stands files (· ∈ names))
    (room : namesLeft names (m.expanded ++ [name]) < steps) :
    Bears files
      (.walking (m.enter r name node kind owner config
        [.components node.childEdges (kind == .subsystem)]))
      m.expanded (fun more w => .walking { m with expanded := more, walk := w })
      (expandNode files (visit files steps) m.stack r name node kind owner config m.walk) := by
  unfold expandNode
  unfold Position.enter at h ⊢
  generalize m.walk.register r.key name node kind owner config = out at h ⊢
  obtain ⟨own, w⟩ := out
  dsimp only at h ⊢
  have entered : (following (m.stack ++ [r.key])
      ⟨r, own, [], [.components node.childEdges (kind == .subsystem)]⟩ m.frames
      (hardwareLegs r name own node) (m.expanded ++ [name]) w).Stands files (· ∈ names) := h
  have toHardware := follows entered room
  rw [followHardware_eq_followLegs r]
  refine Bears.mono ?_ (List.subset_append_left _ [name])
  refine toHardware.bind fun more w' reached grown => ?_
  have turned := bears_turn follows (entered.along reached)
    (Nat.lt_of_le_of_lt (namesLeft_le grown) room)
  rw [begin_components] at turned
  rw [followAll_eq_followLegs]
  exact turned.tail (next_leave files m.stack m.frames)

/-- A node whose name is among those that are left takes one of them. -/
theorem namesLeft_append_lt (mem : name ∈ names) (unexpanded : name ∉ expanded) :
    namesLeft names (expanded ++ [name]) < namesLeft names expanded :=
  @length_filter_append_lt _ names id expanded name mem unexpanded

/-- **What an edge leads to is met** as a visit says. -/
theorem bears_comeTo (follows : Follows files names steps) (h : m.Stands files (· ∈ names))
    (ready : c.Ready files (Stocked (· ∈ names)) c.store) (uncut : c.resolver.cut = none)
    (own : Stocked (· ∈ names) r.doc) (room : namesLeft names m.expanded < steps + 1) :
    Bears files (comeTo m leg r reference c) m.expanded
      (fun more w => .walking { m with expanded := more, walk := w })
      (visit files (steps + 1) m.stack r reference leg.kind leg.owner
        { m.walk with context := c }) := by
  have stands : (comeTo m leg r reference c).Stands files (· ∈ names) :=
    stands_comeTo h ready uncut own
  have here : ∀ w, Bears files (.walking { m with walk := w }) m.expanded
      (fun more w => .walking { m with expanded := more, walk := w }) (.ok w) :=
    fun w => .ok .refl (List.Subset.refl _)
  rw [visit_succ]
  unfold comeTo at stands ⊢
  dsimp only at stands ⊢
  cases met : meetResolved m.stack r reference with
  | error e => exact .failed .refl
  | ok meeting =>
    rw [met] at stands
    obtain ⟨rfl, -⟩ | ⟨rfl, -⟩ | ⟨name, node, rfl, -, named, -⟩ := meetResolved_cases met
    · exact here _
    · exact here _
    · dsimp only at stands ⊢
      cases known : m.walk.seen.get? name with
      | some first => exact here _
      | none =>
        rw [known] at stands
        dsimp only at stands ⊢
        cases configured : configOf name node reference with
        | error e => exact .failed .refl
        | ok config =>
          rw [configured] at stands
          have unexpanded : name ∉ m.expanded := by
            rw [← h.seen, known]
            exact Bool.false_ne_true
          have fewer := namesLeft_append_lt (own.own name named) unexpanded
          exact bears_expandNode { m with walk := { m.walk with context := c } } follows stands
            (by dsimp only; omega)

/-- **An edge is followed**: what it leads to is loaded and resolved, and met. -/
theorem bears_followLeg (follows : Follows files names steps)
    (h : (following path frame rest (leg :: legs) expanded w).Stands files (· ∈ names))
    (room : namesLeft names expanded < steps + 1) :
    Bears files (following path frame rest (leg :: legs) expanded w) expanded
      (following path frame rest legs) (followLeg files (visit files (steps + 1)) path leg w) := by
  have first : Next files (following path frame rest (leg :: legs) expanded w)
      (.depart files ⟨path, { frame with legs } :: rest, expanded, w⟩ leg) := rfl
  have stands := h.position _ rfl
  have fits := stands.frames _ List.mem_cons_self
  obtain ⟨now, later⟩ := List.forall_mem_cons.mp fits.legs
  have here : Position.Stands files (· ∈ names) ⟨path, { frame with legs } :: rest, expanded, w⟩ :=
    stands.reframe rfl rfl ⟨later, fits.parts⟩
  have both := departs here.context.faithful leg
  rw [followLeg_eq]
  dsimp only at both
  generalize depart files ⟨path, { frame with legs } :: rest, expanded, w⟩ leg = x,
    look files leg.parent leg.edge w.context = looked at both first
  cases both with
  | stopped => exact .failed (.single first)
  | missing _ _ => exact .ok (.single first) (List.Subset.refl _)
  | @asks c d reference grown same asked =>
    obtain ⟨ready, uncut, own⟩ := ready_of_asks here now grown same asked
    have halts := ready.halts layering_stocked uncut own
    have arrived : Reaches files
        (.resolving (.call c d) reference leg ⟨path, { frame with legs } :: rest, expanded, w⟩) _ :=
      reaches_comeTo halts.ends halts.answer
    rw [halts.leaves] at arrived
    obtain ⟨ready, uncut, own⟩ := ready.resolve layering_stocked uncut own
    exact (bears_comeTo follows here ready.rebase uncut own room).head (arrived.head first)

/-- **The steps bear out what following edges comes to**, as long as there are more steps than names
left. -/
theorem bears_followLegs (files : FileTree) (names : List String) (steps : Nat) :
    Follows files names steps := by
  induction steps with
  | zero => exact fun _ room => absurd room (Nat.not_lt_zero _)
  | succ steps follows =>
    intro path frame rest legs expanded w h room
    induction legs generalizing expanded w with
    | nil => exact .ok .refl (List.Subset.refl _)
    | cons leg legs ih =>
      refine (bears_followLeg follows h room).bind fun more w' reached grown => ?_
      exact ih (h.along reached) (Nat.lt_of_le_of_lt (namesLeft_le grown) room)

/-- **The steps bear out what the walk from a bot comes to.** -/
theorem bears_walkBot {bot : BotRecord} (isBot : botOf root = .ok bot)
    (h : (start root c).Stands files (· ∈ names)) (room : names.length < steps) :
    Bears files (start root c) [] (fun more w => .walking ⟨[], [], more, w⟩)
      (walkBot files (visit files steps) root bot c) := by
  have follows : Follows files names steps := bears_followLegs files names steps
  have left (expanded : List String) : namesLeft names expanded < steps :=
    Nat.lt_of_le_of_lt (List.length_filter_le _ _) room
  unfold start at h ⊢
  rw [isBot] at h ⊢
  unfold walkBot
  unfold Position.enter at h ⊢
  dsimp only at h ⊢
  generalize Walk.register _ root.key (rootName root) bot.node .subsystem none none = out at h ⊢
  obtain ⟨owner, w⟩ := out
  dsimp only at h ⊢
  have entered : (following [root.key]
      ⟨root, owner, [], [.subsystems bot.subsystems, .components bot.node.childEdges true]⟩ []
      (hardwareLegs root (rootName root) owner bot.node) [rootName root] w).Stands files
      (· ∈ names) := h
  have toHardware := follows entered (left _)
  rw [followHardware_eq_followLegs root]
  refine Bears.mono ?_ (List.nil_subset [rootName root])
  refine toHardware.bind fun more w' reached grown => ?_
  have stands := entered.along reached
  have toSubsystems := bears_turn follows stands (left _)
  rw [followAll_eq_followLegs]
  refine toSubsystems.bind fun more' w'' reached' grown' => ?_
  have toComponents := bears_turn follows (stands.along reached') (left _)
  rw [followAll_eq_followLegs]
  exact toComponents.tail (next_leave files [] [])

end Walk

open Walk Walk.Configuration

variable {files : FileTree} {c : Context} {root : Resolved} {d : Descriptor}

/-- **Every walk comes to an end.**  In a store where no component in place names sources, whatever
cycles its components, hardware references and sources form, the steps of a walk from any root end
with what the walk yields; and whatever they come to on the way, each name has been expanded once
and each key is on the stack once. -/
theorem traverse_halts (session : Session files c)
    (plain : ∀ e, c.store.Holds files e → PlainWithin e.doc)
    (keyed : (Json.object root.doc).wellKeyed = true) (plainRoot : PlainWithin root.doc) :
    (∃ last ∈ StateTransition.eval (Configuration.step files) (start root c),
      last.outcome? root = some (traverse files c root)) ∧
      ∀ x, Walk.Reaches files (start root c) x → ∀ m ∈ x.position?,
        m.expanded.Nodup ∧ m.stack.Nodup := by
  obtain ⟨ready, uncut⟩ := session.stocked plain root
  have own : Stocked (· ∈ c.names files root) root.doc :=
    stocked_of_namesWithin keyed plainRoot fun name named =>
      List.mem_append_left _ (List.mem_append_left _ named)
  have stands := stands_start ready uncut own
  refine ⟨?_, fun x reached m here => ?_⟩
  · unfold traverse
    cases isBot : botOf root with
    | error e =>
      refine ⟨.stopped e c, StateTransition.mem_eval.mpr ⟨?_, rfl⟩, rfl⟩
      rw [start, isBot]
      exact .refl
    | ok bot =>
      have room := Nat.lt_succ_of_le (c.length_names_le files root)
      have bears := bears_walkBot isBot stands room
      dsimp only
      generalize walkBot files _ root bot c = out at bears
      cases bears with
      | @ok w more reached =>
        refine ⟨_, StateTransition.mem_eval.mpr ⟨reached, rfl⟩, ?_⟩
        simp only [outcome?, isBot]
        rfl
      | @failed e c reached =>
        exact ⟨_, StateTransition.mem_eval.mpr ⟨reached, rfl⟩, rfl⟩
  · have there := (stands.along reached).position m here
    exact ⟨there.once, there.distinct⟩

/-- What is resolved for a file may be a root. -/
theorem Session.rooted (session : Session files c)
    (plain : ∀ e, c.store.Holds files e → PlainWithin e.doc) (held : c.store.Holds files d) :
    (Json.object (c.resolve files d).1.doc).wellKeyed = true ∧
      PlainWithin (c.resolve files d).1.doc := by
  obtain ⟨ready, uncut⟩ := session.stocked plain default
  have resolved := (ready.resolve layering_stocked uncut (ready.held d held)).2.2
  exact ⟨resolved.keyed, resolved.plain⟩

/-- A bot and a part that build on each other, and are components and hardware of each other. -/
def loopedFiles : FileTree where
  workingDirectory := []
  directories := [["lib"]]
  files := [
    (["lib", "bot.json"], ("\x7b\"name\": \"bot\", \"inherits_from\": \"part\", " ++
      "\"hardware_reference\": \"part\"\x7d").toUTF8),
    (["lib", "part.json"], ("\x7b\"name\": \"part\", \"inherits_from\": \"bot\", " ++
      "\"components\": [\"bot\", \x7b\"name\": \"c\", \"components\": [\"part\"]\x7d]\x7d").toUTF8)]

/-- The store of this tree. -/
def loopedStore : Store := [["bot.json"], ["part.json"]].foldl Store.addFile (.empty "/lib")

theorem ofDirectory_loopedFiles : Store.ofDirectory loopedFiles "/lib" = .ok loopedStore :=
  Store.ofDirectory_of_ordered ["lib"] _ (by decide +kernel) (by decide +kernel)
    (by decide +kernel) (by decide +kernel) (by decide +kernel)

theorem plainWithin_loopedFiles (e : Descriptor) (held : loopedStore.Holds loopedFiles e) :
    PlainWithin e.doc := by
  have all : (loopedStore.held loopedFiles).all (fun e =>
      plainLists e.doc && (componentsIn e.doc).all plainLists) = true := by
    decide +kernel
  have plain := List.all_eq_true.mp all e (Store.mem_held_iff.mpr held)
  rw [Bool.and_eq_true, List.all_eq_true] at plain
  exact plain

theorem traverse_halts_loopedFiles :
    let opened := Context.ofStore loopedStore
    let d := loopedStore.descriptorAt loopedFiles "bot"
    let root := (opened.resolve loopedFiles d).1
    let c := (opened.resolve loopedFiles d).2
    ((∃ last ∈ StateTransition.eval (Configuration.step loopedFiles) (start root c),
        last.outcome? root = some (traverse loopedFiles c root)) ∧
      ∀ x, Walk.Reaches loopedFiles (start root c) x → ∀ m ∈ x.position?,
        m.expanded.Nodup ∧ m.stack.Nodup) ∧
      (traverse loopedFiles c root).1.toOption.map (·.entries.map (·.name)) =
        some ["c"] := by
  intro opened d root c
  have session : Session loopedFiles opened := .opened ofDirectory_loopedFiles
  have read : (loopedStore.readKey loopedFiles "bot").isOk = true := by decide +kernel
  have held : opened.store.Holds loopedFiles d := holds_ofStore.mpr (Store.holds_descriptorAt read)
  have plain : ∀ e, opened.store.Holds loopedFiles e → PlainWithin e.doc :=
    fun e there => plainWithin_loopedFiles e (holds_ofStore.mp there)
  have later : ∀ e, c.store.Holds loopedFiles e → PlainWithin e.doc :=
    fun e there => plain e ((resolve_onward loopedFiles opened d).grown.holds_iff.mp there)
  obtain ⟨keyed, plainRoot⟩ := session.rooted plain held
  exact ⟨traverse_halts (session.resolved held) later keyed plainRoot, by decide +kernel⟩

end DispatchTables
