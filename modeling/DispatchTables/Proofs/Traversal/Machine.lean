import DispatchTables.Proofs.Inheritance.Machine
import DispatchTables.Proofs.Traversal.Edges

/-!
# The walk, step by step

The walk over the component graph is taken apart into steps, and so are the calls of the resolver on
it.  A step follows one edge, turns to more edges of the innermost node, or leaves this node; where
an edge leads to a document, the steps of the resolver come next, and where these end the document
is met.  No bound says how often anything may be done.

## Main Definitions

* `Walk.Position`: the stack, the nodes that are being expanded, and what the walk has come to.
* `Walk.Configuration`: the walk between two steps, or the resolver between two of its own.
* `Walk.Configuration.step`: one step.
* `Walk.Configuration.start`, `Walk.Configuration.outcome?`: how a walk begins, and what one that is
  over has yielded.

## Design Notes

A position keeps the names that have been expanded.  Nothing is decided by them.
-/

namespace DispatchTables.Walk

/-! ### Positions -/

/-- Edges of a node that are still to come: subsystems, or components, with those of the family
ahead of them as long as these wait and may go there. -/
inductive Part where
  | subsystems (edges : List ComponentEdge)
  | components (edges : List ComponentEdge) (takesFamily : Bool)

/-- The edges of a part, and the walk without the family's components if they are among them. -/
def Part.begin (source : Resolved) (owner : Option String) (w : Walk) : Part → List Leg × Walk
  | subsystems edges => (edgeLegs source .subsystem owner edges, w)
  | components edges false => (edgeLegs source .component owner edges, w)
  | components edges true =>
    (edgeLegs source .component owner (w.family.getD [] ++ edges), { w with family := none })

/-- A node that is being expanded: the owner of what is below it, the edges that are left of those
that are being followed, and the parts that come after them. -/
structure Frame where
  source : Resolved
  owner : Option String
  legs : List Leg
  parts : List Part

/-- **Where a walk is.**  The stack has the outermost key first, the frames have the innermost node
first, and `expanded` has the first name first. -/
structure Position where
  stack : List String
  frames : List Frame
  expanded : List String
  walk : Walk

namespace Position

/-- The innermost node, the first edges of which are those of its hardware. -/
def enter (m : Position) (r : Resolved) (name : String) (node : NodeRecord) (kind : EdgeKind)
    (owner : Option String) (config : Option Expansion) (parts : List Part) : Position :=
  let (own, w) := m.walk.register r.key name node kind owner config
  { stack := m.stack ++ [r.key]
    frames := ⟨r, own, hardwareLegs r name own node, parts⟩ :: m.frames
    expanded := m.expanded ++ [name]
    walk := w }

/-- Turns to the next part of the edges of the innermost node. -/
def turn (m : Position) (frame : Frame) (rest : List Frame) (part : Part) (parts : List Part) :
    Position :=
  let (legs, w) := part.begin frame.source frame.owner m.walk
  { m with frames := { frame with legs, parts } :: rest, walk := w }

/-- Is done with the innermost node. -/
def leave (m : Position) (rest : List Frame) : Position :=
  { m with stack := m.stack.dropLast, frames := rest }

end Position

/-! ### Configurations -/

/-- **The walk between two steps**: it is at a position; or it has called the resolver for what an
edge leads to, given by a reference; or it has failed. -/
inductive Configuration where
  | walking (m : Position)
  | resolving (inner : Resolver.Configuration) (reference : Reference) (leg : Leg) (m : Position)
  | stopped (e : Failure) (c : Context)

namespace Configuration

/-- The position of a walk that has not failed. -/
def position? : Configuration → Option Position
  | walking m => some m
  | resolving _ _ _ m => some m
  | stopped _ _ => none

/-- Follows a reference as far as the descriptor that it means. -/
def seek (files : FileTree) (m : Position) (leg : Leg) (text : String) : Configuration :=
  match Reference.parse? text with
  | none => stopped (.invalidReference text) m.walk.context
  | some reference =>
    let (found, s) := m.walk.context.store.load files reference.name
    let c := { m.walk.context with store := s }.absorb
    match found with
    | .error (.notFound missing) =>
      walking { m with
        walk := Walk.report { m.walk with context := c }
          (Obstacle.warning m.stack leg (.missing missing)) }
    | .error e => stopped e c
    | .ok d => resolving (.call c d) reference leg m

/-- Follows an edge as far as the descriptor that it leads to. -/
def depart (files : FileTree) (m : Position) (leg : Leg) : Configuration :=
  match leg.edge with
  | .reference text | .positioned text => seek files m leg text
  | .inline doc =>
    match declaredName doc with
    | none =>
      stopped (.missingField (leg.parent.key ++ " (inline component)") "name") m.walk.context
    | some label =>
      let d := Descriptor.ofDocument (leg.parent.key ++ "#" ++ label) leg.parent.path doc
      resolving (.call m.walk.context d) (.plain label) leg m

/-- Meets what an edge leads to: an obstacle is reported, a name that has been met is charged, and
any other is expanded. -/
def comeTo (m : Position) (leg : Leg) (r : Resolved) (reference : Reference) (c : Context) :
    Configuration :=
  let w := { m.walk with context := c }
  match meetResolved m.stack r reference with
  | .error e => stopped e c
  | .ok (.obstacle o) => walking { m with walk := w.report (o.warning m.stack leg) }
  | .ok (.node r reference name node) =>
    match w.seen.get? name with
    | some first => walking { m with walk := w.recordBus name first node }
    | none =>
      match configOf name node reference with
      | .error e => stopped e c
      | .ok config =>
        walking (Position.enter { m with walk := w } r name node leg.kind leg.owner config
          [.components node.childEdges (leg.kind == .subsystem)])

/-- **One step**, unless the walk is over or has failed.  Where the resolver has ended, the walk
goes on with what it has answered. -/
def step (files : FileTree) : Configuration → Option Configuration
  | stopped _ _ => none
  | resolving inner reference leg m =>
    match inner.step files with
    | some inner => some (resolving inner reference leg m)
    | none =>
      match inner.control with
      | .answer r => some (comeTo m leg r reference inner.context.absorb)
      | _ => none
  | walking m =>
    match m.frames with
    | [] => none
    | frame :: rest =>
      match frame.legs, frame.parts with
      | leg :: legs, _ => some (depart files { m with frames := { frame with legs } :: rest } leg)
      | [], part :: parts => some (walking (m.turn frame rest part parts))
      | [], [] => some (walking (m.leave rest))

/-- How a walk begins: the root is expanded, whatever its name. -/
def start (root : Resolved) (c : Context) : Configuration :=
  match botOf root with
  | .error e => stopped e c
  | .ok bot =>
    let family := if bot.familyComponents.isEmpty then none else some bot.familyComponents
    walking (Position.enter ⟨[], [], [], { family, context := c }⟩ root (rootName root) bot.node
      .subsystem none none [.subsystems bot.subsystems, .components bot.node.childEdges true])

/-- What a walk that is over has yielded. -/
def outcome? (root : Resolved) : Configuration → Option (Except Failure Traversal × Context)
  | walking ⟨_, [], _, w⟩ =>
    let controller := (botOf root).toOption.bind (·.controller)
    some (.ok ⟨rootName root, controller, w.entries, w.busUses⟩, w.context)
  | stopped e c => some (.error e, c)
  | _ => none

end Configuration

/-- One configuration comes after another. -/
def Next (files : FileTree) (x y : Configuration) : Prop := y ∈ x.step files

/-- **Some steps lead from one configuration to another.** -/
abbrev Reaches (files : FileTree) : Configuration → Configuration → Prop :=
  StateTransition.Reaches (Configuration.step files)

variable {files : FileTree} {inner inner' : Resolver.Configuration} {reference : Reference}
  {leg : Leg} {m : Position} {r : Resolved}

/-- A step of the resolver is a step of the walk. -/
theorem next_resolving (next : Resolver.Next files inner inner') :
    Next files (.resolving inner reference leg m) (.resolving inner' reference leg m) := by
  have stepped : inner.step files = some inner' := next
  unfold Next Configuration.step
  dsimp only
  rw [stepped]
  rfl

/-- The steps of the resolver are steps of the walk. -/
theorem reaches_resolving (reached : Resolver.Reaches files inner inner') :
    Reaches files (.resolving inner reference leg m) (.resolving inner' reference leg m) := by
  induction reached with
  | refl => exact .refl
  | tail _ next ih => exact ih.tail (next_resolving next)

/-- **Where the resolver ends, the walk goes on.** -/
theorem reaches_comeTo {last : Resolver.Configuration}
    (ends : last ∈ StateTransition.eval (Resolver.Configuration.step files) inner)
    (answer : last.control = .answer r) :
    Reaches files (.resolving inner reference leg m)
      (.comeTo m leg r reference last.context.absorb) := by
  obtain ⟨reached, ended⟩ := StateTransition.mem_eval.mp ends
  have next : Next files (.resolving last reference leg m)
      (.comeTo m leg r reference last.context.absorb) := by
    unfold Next Configuration.step
    dsimp only
    rw [ended]
    dsimp only
    rw [answer]
    rfl
  exact (reaches_resolving reached).tail next

end DispatchTables.Walk
