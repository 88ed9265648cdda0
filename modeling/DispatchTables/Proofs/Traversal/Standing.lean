import DispatchTables.Proofs.Traversal.Listed
import DispatchTables.Proofs.Traversal.Machine
import DispatchTables.Proofs.Traversal.Stock
import DispatchTables.Proofs.Traversal.Trail

/-!
# What is true between the steps of a walk

The stack has the keys of the nodes that are being expanded, each of them once, since a key on it is
not entered again; and each name is expanded once, since the names that have been expanded are those
that the walk has seen.  Both are kept by each step, whatever the resolver comes to; for this not to
depend on what it has resolved before, all that a walk may come upon is stocked.

## Main Definitions

* `Walk.Position.Stands`, `Walk.Configuration.Stands`: what is true of a walk between two steps.
* `Walk.Departs`: what comes of an edge, both in steps and as it is looked along.

## Main Statements

* `Walk.departs`: a step along an edge and a look along it come to the same.
* `Walk.Configuration.Stands.step`: a step keeps what is true.
* `Walk.Configuration.Stands.along`: so do any number of steps.
-/

namespace DispatchTables

variable {files : FileTree} {Called : String → Prop} {c c' : Context} {d : Descriptor}
  {r : Resolved} {doc : Members} {edge : ComponentEdge} {node : NodeRecord} {name : String}

/-! ### Edges -/

/-- What an edge has in place is stocked. -/
def ComponentEdge.Fits (Called : String → Prop) (edge : ComponentEdge) : Prop :=
  ∀ doc, edge = .inline doc → Stocked Called doc

/-- The edges listed in a stocked document fit. -/
theorem ComponentEdge.Listed.fits (h : edge.Listed doc) (stocks : Stocks Called doc) :
    edge.Fits Called := by
  rintro x rfl
  exact stocks.inner h.mem_componentsIn

namespace Walk

variable {leg : Leg} {legs : List Leg} {m m' : Position} {frame : Frame} {rest : List Frame}
  {part : Part} {parts : List Part} {x y : Configuration} {kind : EdgeKind}
  {owner : Option String} {config : Option Expansion} {reference : Reference}

theorem fits_hardwareLegs (r : Resolved) (name : String) (owner : Option String)
    (node : NodeRecord) : ∀ leg ∈ hardwareLegs r name owner node, leg.edge.Fits Called := by
  intro leg mem
  obtain ⟨text, -, rfl⟩ := List.mem_map.mp mem
  exact nofun

theorem fits_edgeLegs {edges : List ComponentEdge} (fits : ∀ edge ∈ edges, edge.Fits Called) :
    ∀ leg ∈ edgeLegs r kind owner edges, leg.edge.Fits Called := by
  intro leg mem
  obtain ⟨edge, inEdges, rfl⟩ := List.mem_map.mp mem
  exact fits edge inEdges

/-- The edges of a part. -/
def Part.edges : Part → List ComponentEdge
  | subsystems edges => edges
  | components edges _ => edges

/-- What the edges of a node have in place is stocked. -/
structure Frame.Fits (Called : String → Prop) (frame : Frame) : Prop where
  legs : ∀ leg ∈ frame.legs, leg.edge.Fits Called
  parts : ∀ part ∈ frame.parts, ∀ edge ∈ part.edges, edge.Fits Called

/-! ### Positions -/

/-- **What is true of a position**: the resolver is ready and no cut is open; the stack has the keys
of the nodes that are being expanded, each of them once; each name has been expanded once, and what
the walk has seen are these names. -/
structure Position.Stands (files : FileTree) (Called : String → Prop) (m : Position) : Prop where
  context : m.walk.context.Ready files (Stocked Called) m.walk.context.store
  uncut : m.walk.context.resolver.cut = none
  keys : m.stack = (m.frames.map (·.source.key)).reverse
  distinct : m.stack.Nodup
  frames : ∀ f ∈ m.frames, f.Fits Called
  family : ∀ edge ∈ m.walk.family.getD [], edge.Fits Called
  once : m.expanded.Nodup
  seen : ∀ name, (m.walk.seen.get? name).isSome = true ↔ name ∈ m.expanded

namespace Position

/-- The walk goes on in another context. -/
theorem Stands.within (h : m.Stands files Called)
    (context : c.Ready files (Stocked Called) c.store) (uncut : c.resolver.cut = none) :
    Stands files Called { m with walk := { m.walk with context := c } } :=
  { h with context, uncut }

theorem Stands.report (h : m.Stands files Called) (w : Diagnostic) :
    Stands files Called { m with walk := m.walk.report w } :=
  { h with context := h.context.same rfl rfl }

theorem Stands.recordBus (h : m.Stands files Called) (device : String) (owner : Option String)
    (node : NodeRecord) :
    Stands files Called { m with walk := m.walk.recordBus device owner node } := by
  rw [recordBus_eq]
  exact { h with }

/-- The innermost node is at other edges. -/
theorem Stands.reframe {frame' : Frame} (h : m.Stands files Called)
    (here : m.frames = frame :: rest) (same : frame'.source = frame.source)
    (fits : frame'.Fits Called) :
    Stands files Called { m with frames := frame' :: rest } := by
  have keys := h.keys
  have frames := h.frames
  rw [here] at keys frames
  rw [List.map_cons, ← same] at keys
  exact { h with keys, frames := List.forall_mem_cons.mpr ⟨fits, fun f mem =>
    frames f (List.mem_cons_of_mem _ mem)⟩ }

/-- **A node is entered** only if its key is not on the stack and its name has not been seen. -/
theorem Stands.enter (h : m.Stands files Called) (offStack : r.key ∉ m.stack)
    (unseen : m.walk.seen.get? name = none)
    (fits : ∀ part ∈ parts, ∀ edge ∈ part.edges, edge.Fits Called) :
    (m.enter r name node kind owner config parts).Stands files Called := by
  have unexpanded : name ∉ m.expanded := by
    rw [← h.seen, unseen]
    exact Bool.false_ne_true
  unfold Position.enter
  rw [register_eq]
  exact {
    context := h.context
    uncut := h.uncut
    keys := by simp [h.keys]
    distinct := nodup_append_singleton h.distinct offStack
    frames := List.forall_mem_cons.mpr
      ⟨⟨fits_hardwareLegs r name _ node, fits⟩, h.frames⟩
    family := h.family
    once := nodup_append_singleton h.once unexpanded
    seen := by
      intro other
      rw [KeyMap.get?_insert, List.mem_append, List.mem_singleton, ← h.seen]
      by_cases same : name = other
      · simp [same]
      · simp [same, Ne.symm same] }

/-- The next part of the edges of the innermost node is turned to. -/
theorem Stands.turn (h : m.Stands files Called) (here : m.frames = frame :: rest)
    (parts_ : frame.parts = part :: parts) :
    (m.turn frame rest part parts).Stands files Called := by
  have fits := h.frames frame (here ▸ List.mem_cons_self)
  have split := fits.parts
  rw [parts_] at split
  obtain ⟨now, later⟩ := List.forall_mem_cons.mp split
  unfold Position.turn
  cases part with
  | subsystems edges => exact h.reframe here rfl ⟨fits_edgeLegs now, later⟩
  | components edges takesFamily =>
    cases takesFamily with
    | false => exact h.reframe here rfl ⟨fits_edgeLegs now, later⟩
    | true =>
      have all : ∀ edge ∈ m.walk.family.getD [] ++ edges, edge.Fits Called := by
        intro edge mem
        exact (List.mem_append.mp mem).elim (h.family edge) (now edge)
      have taken : Position.Stands files Called { m with
          frames := { frame with
            legs := edgeLegs frame.source .component frame.owner (m.walk.family.getD [] ++ edges)
            parts } :: rest } :=
        h.reframe here rfl ⟨fits_edgeLegs all, later⟩
      exact { taken with family := nofun }

/-- The innermost node is left: its key was the last on the stack. -/
theorem Stands.leave (h : m.Stands files Called) (here : m.frames = frame :: rest) :
    (m.leave rest).Stands files Called := by
  have keys := h.keys
  rw [here, List.map_cons, List.reverse_cons] at keys
  exact { h with
    keys := by rw [Position.leave, keys, List.dropLast_concat]
    distinct := h.distinct.sublist (List.dropLast_sublist _)
    frames := fun f mem => h.frames f (here ▸ List.mem_cons_of_mem _ mem) }

end Position

/-! ### Edges, in steps and at a look -/

/-- **What comes of an edge**, in steps and as it is looked along: a failure; nothing, where a file
is missing; or the resolver is called for what a file reads as or what stands in place. -/
inductive Departs (files : FileTree) (m : Position) (leg : Leg) :
    Configuration → Walking (Target × Context) → Prop where
  | stopped {e : Failure} {c : Context} :
      Departs files m leg (.stopped e c) (.error (.failed e, c))
  | missing {text : String} {c : Context} : Store.Grows files m.walk.context.store c.store →
      SameMemory m.walk.context c →
      Departs files m leg
        (.walking { m with
          walk := Walk.report { m.walk with context := c }
            (Obstacle.warning m.stack leg (.missing text)) })
        (.ok (.missing text, c))
  | asks {c : Context} {d : Descriptor} {reference : Reference} :
      Store.Grows files m.walk.context.store c.store → SameMemory m.walk.context c →
      (c.store.Holds files d ∨ leg.edge = .inline d.doc) →
      Departs files m leg (.resolving (.call c d) reference leg m)
        (.ok (.found (c.resolve files d).1 reference, (c.resolve files d).2))

theorem departs_seek (faithful : m.walk.context.store.Faithful files) (leg : Leg)
    (text : String) :
    Departs files m leg (.seek files m leg text)
      (look files leg.parent (.reference text) m.walk.context) := by
  unfold Configuration.seek look Context.loadResolved
  dsimp only
  cases Reference.parse? text with
  | none => exact .stopped
  | some reference =>
    have read := faithful.load_eq reference.name
    have loads := Store.load_grows files m.walk.context.store reference.name
    dsimp only
    generalize m.walk.context.store.load files reference.name = out at read loads
    obtain ⟨found, s⟩ := out
    have grown := loads.trans (Store.takeWarnings_grows files _)
    cases found with
    | error e =>
      cases e with
      | notFound missing => exact .missing grown ⟨rfl, rfl⟩
      | _ => exact .stopped
    | ok d =>
      have held := Store.holds_of_readReference read.symm
      exact .asks grown ⟨rfl, rfl⟩ (.inl (grown.holds_iff.mpr held))

/-- **A step along an edge and a look along it come to the same.** -/
theorem departs (faithful : m.walk.context.store.Faithful files) (leg : Leg) :
    Departs files m leg (.depart files m leg)
      (look files leg.parent leg.edge m.walk.context) := by
  unfold Configuration.depart
  cases edge : leg.edge with
  | reference name => exact departs_seek faithful leg name
  | positioned name => exact departs_seek faithful leg name
  | inline doc =>
    unfold look
    dsimp only
    cases declaredName doc with
    | none => exact .stopped
    | some label => exact .asks (Store.Grows.refl files _) ⟨rfl, rfl⟩ (.inr edge)

/-! ### Configurations -/

namespace Configuration

/-- **What is true of a configuration**: of its position what is true of one, and of a call of the
resolver what is true of that. -/
inductive Stands (files : FileTree) (Called : String → Prop) : Configuration → Prop where
  | walking {m : Position} : m.Stands files Called → Stands files Called (.walking m)
  | resolving {inner : Resolver.Configuration} {reference : Reference} {leg : Leg} {m : Position}
      {c : Context} {d : Descriptor} : m.Stands files Called →
      inner.Stands files (Stocked Called) (StockedBelow Called) c.store (c.keysWith d) →
      Stands files Called (.resolving inner reference leg m)
  | stopped {e : Failure} {c : Context} : Stands files Called (.stopped e c)

/-- What is called for along an edge is stocked, and the context is ready for the call. -/
theorem ready_of_asks (h : m.Stands files Called) (fits : leg.edge.Fits Called)
    (grown : Store.Grows files m.walk.context.store c.store) (same : SameMemory m.walk.context c)
    (asked : c.store.Holds files d ∨ leg.edge = .inline d.doc) :
    c.Ready files (Stocked Called) c.store ∧ c.resolver.cut = none ∧ Stocked Called d.doc := by
  have ready := (h.context.congr grown same.memo).rebase
  refine ⟨ready, same.cut.trans h.uncut, ?_⟩
  rcases asked with held | inPlace
  · exact ready.held d held
  · exact fits d.doc inPlace

theorem stands_depart (h : m.Stands files Called) (fits : leg.edge.Fits Called) :
    (depart files m leg).Stands files Called := by
  have both := departs h.context.faithful leg
  generalize depart files m leg = x, look files leg.parent leg.edge m.walk.context = looked at both
  cases both with
  | stopped => exact .stopped
  | missing grown same =>
    have ready := (h.context.congr grown same.memo).rebase
    exact .walking ((h.within ready (same.cut.trans h.uncut)).report _)
  | asks grown same asked =>
    obtain ⟨ready, uncut, own⟩ := ready_of_asks h fits grown same asked
    exact .resolving h (ready.stands uncut own)

/-- **What an edge leads to is met**: an obstacle, a name that has been seen, or a node to enter. -/
theorem stands_comeTo (h : m.Stands files Called)
    (ready : c.Ready files (Stocked Called) c.store) (uncut : c.resolver.cut = none)
    (own : Stocked Called r.doc) : (comeTo m leg r reference c).Stands files Called := by
  have here := h.within ready uncut
  unfold comeTo
  dsimp only
  cases met : meetResolved m.stack r reference with
  | error e => exact .stopped
  | ok meeting =>
    obtain ⟨rfl, -⟩ | ⟨rfl, -⟩ | ⟨name, node, rfl, offStack, -, isNode⟩ := meetResolved_cases met
    · exact .walking (here.report _)
    · exact .walking (here.report _)
    · dsimp only
      cases known : m.walk.seen.get? name with
      | some first => exact .walking (here.recordBus name first node)
      | none =>
        cases configOf name node reference with
        | error e => exact .stopped
        | ok config =>
          refine .walking (here.enter offStack known ?_)
          intro part mem edge inPart
          rw [List.mem_singleton.mp mem] at inPart
          exact ((listed_of_nodeOf isNode).childEdges edge inPart).fits own.toStocks

/-- **A step keeps what is true of a configuration.** -/
theorem Stands.step (h : x.Stands files Called) (next : Next files x y) :
    y.Stands files Called := by
  unfold Next Configuration.step at next
  cases h with
  | stopped => cases next
  | @resolving inner reference leg m c d h inside =>
    dsimp only at next
    cases stepped : inner.step files with
    | some inner' =>
      rw [stepped] at next
      cases next
      exact .resolving h (inside.step layering_stocked (List.subset_cons_self ..) stepped)
    | none =>
      rw [stepped] at next
      cases answer : inner.control with
      | answer r =>
        simp only [answer] at next
        cases next
        obtain ⟨ready, uncut, own⟩ := inside.ended answer stepped
        exact stands_comeTo h ready.rebase uncut own
      | _ =>
        simp only [answer] at next
        cases next
  | @walking m h =>
    dsimp only at next
    cases here : m.frames with
    | nil =>
      rw [here] at next
      cases next
    | cons frame rest =>
      have fits := h.frames frame (here ▸ List.mem_cons_self)
      rw [here] at next
      cases legs : frame.legs with
      | cons leg legs' =>
        simp only [legs] at next
        cases next
        obtain ⟨now, later⟩ := List.forall_mem_cons.mp (legs ▸ fits.legs)
        exact stands_depart (h.reframe here rfl ⟨later, fits.parts⟩) now
      | nil =>
        cases parts : frame.parts with
        | cons part parts' =>
          simp only [legs, parts] at next
          cases next
          exact .walking (h.turn here parts)
        | nil =>
          simp only [legs, parts] at next
          cases next
          exact .walking (h.leave here)

/-- **So it is true of whatever is reached.** -/
theorem Stands.along (h : x.Stands files Called) (reached : Reaches files x y) :
    y.Stands files Called := by
  induction reached with
  | refl => exact h
  | tail _ next ih => exact ih.step next

/-- What is true of the position of a walk that has not failed. -/
theorem Stands.position (h : x.Stands files Called) : ∀ m ∈ x.position?, m.Stands files Called := by
  intro m here
  cases h with
  | walking h =>
    cases here
    exact h
  | resolving h _ =>
    cases here
    exact h
  | stopped => cases here

/-- **A walk begins with the root**, which need not have a name. -/
theorem stands_start {root : Resolved} (ready : c.Ready files (Stocked Called) c.store)
    (uncut : c.resolver.cut = none) (own : Stocked Called root.doc) :
    (start root c).Stands files Called := by
  unfold start
  cases isBot : botOf root with
  | error e => exact .stopped
  | ok bot =>
    have listed := listed_of_botOf isBot
    have family : ∀ edge ∈ bot.familyComponents, edge.Fits Called :=
      fun edge mem => (listed.family edge mem).fits own.toStocks
    dsimp only
    generalize waiting : (if bot.familyComponents.isEmpty then none
      else some bot.familyComponents) = family? at *
    have before : Position.Stands files Called
        ⟨[], [], [], { family := family?, context := c }⟩ := {
      context := ready
      uncut := uncut
      keys := rfl
      distinct := List.nodup_nil
      frames := nofun
      family := by
        intro edge mem
        subst waiting
        split at mem
        · cases mem
        · exact family edge mem
      once := List.nodup_nil
      seen := fun name => by simp }
    refine .walking (before.enter List.not_mem_nil rfl ?_)
    intro part mem edge inPart
    rcases List.mem_cons.mp mem with rfl | mem
    · exact (listed.subsystems edge inPart).fits own.toStocks
    · rw [List.mem_singleton.mp mem] at inPart
      exact (listed.node.childEdges edge inPart).fits own.toStocks

end Configuration

end Walk

end DispatchTables
