import DispatchTables.Inheritance.Resolver
import DispatchTables.Traversal.Basic

/-!
# Walking the component graph

A depth-first walk from a bot, each node's edges in their order: its hardware, then its components.
The first time a component of some name is met it is expanded, and gets a row of the tables if it is
reached as a component or brings software.  Every time it is met its bus is charged.

## Main Definitions

* `Walk`: the state of a walk.
* `Walk.register`: what the first encounter of a node does.
* `visit`: one encounter.
* `traverse`: the walk from a resolved bot.

## Design Notes

A node that is already on the path is not entered again.  The components that a bot shares with its
family go ahead of those of the first subsystem that is expanded, and ahead of the bot's own when
there is none.

Encounters nest only inside expansions, and a name is expanded once.  Every name stands in an object
of some document, so the number of objects bounds the depth of the walk; `nameBound` is such a
number and is what `traverse` gives `visit` to begin with.
-/

namespace DispatchTables

/-- How a node is reached. -/
inductive EdgeKind where
  | component
  | subsystem
  | hardware
  deriving DecidableEq, Inhabited

/-- The state of a walk: the family's components while they wait, the owner that each name met so
far is charged to, and what the walk has yielded. -/
structure Walk where
  family : Option (List ComponentEdge) := none
  seen : KeyMap (Option String) := .empty
  entries : List DispatchEntry := []
  busUses : List BusUse := []
  context : Context

/-- Why a walk ends early. -/
inductive Stop where
  | failed (failure : Failure)
  | outOfSteps

/-- What a step of a walk gives, unless the walk stops; the context outlives the walk. -/
abbrev Walking := Except (Stop × Context)

namespace Walk

/-- Stops with a failure. -/
def fail {α : Type} (w : Walk) (failure : Failure) : Walking α :=
  .error (.failed failure, w.context)

/-- Adds a diagnostic to the report. -/
def report (w : Walk) (d : Diagnostic) : Walk := { w with context := w.context.report d }

/-- Charges the bus of a node, if it has one, to an owner. -/
def recordBus (w : Walk) (device : String) (owner : Option String) (node : NodeRecord) : Walk :=
  match node.busType with
  | none => w
  | some bus =>
    let needs := node.pinRequirements.getD {}
    { w with busUses := w.busUses ++ [⟨device, owner, bus, needs.shared, needs.unique⟩] }

/-- The row of a node; functions that it does not name are named after it. -/
def entryOf (key name : String) (node : NodeRecord) (config : Option Expansion) : DispatchEntry :=
  let software := node.software.getD {}
  let base := cIdentifier name
  { name
    initFunction := software.initFunction.getD (base ++ "_init")
    actFunction := software.actFunction.getD (base ++ "_act")
    hitCount := node.hitCount
    source := key
    useFields := node.useFields
    config }

/-- Whether a node reached by an edge gets a row. -/
def registers (kind : EdgeKind) (node : NodeRecord) : Bool :=
  kind == .component || node.software.isSome

/-- The first encounter of a node: its name is noted, its row added if it gets one, its bus charged.
Also gives the owner of what is below it: the node itself when it has a row, else its own owner. -/
def register (w : Walk) (key name : String) (node : NodeRecord) (kind : EdgeKind)
    (owner : Option String) (config : Option Expansion) : Option String × Walk :=
  let rowed := registers kind node
  let own := if rowed then some name else owner
  let w := { w with
    seen := w.seen.insert name own
    entries := if rowed then w.entries ++ [entryOf key name node config] else w.entries }
  (own, w.recordBus name own node)

end Walk

/-! ### Following edges -/

/-- What is done at the end of an edge, given the keys on the path from the root inward. -/
abbrev Visit :=
  List String → Resolved → Reference → EdgeKind → Option String → Walk → Walking Walk

/-- Follows a reference.  A component that is not there is reported and passed over. -/
def followReference (files : FileTree) (visit : Visit) (path : List String) (text : String)
    (kind : EdgeKind) (owner : Option String) (parentName : String) (w : Walk) : Walking Walk :=
  match Reference.parse? text with
  | none => w.fail (.invalidReference text)
  | some reference =>
    match w.context.loadResolved files reference.name with
    | (.error (.notFound missing), c) =>
      .ok { w with context := c.report (.warn .componentSkipped parentName
        ("component '" ++ missing ++ "' not found; skipped")) }
    | (.error e, c) => .error (.failed e, c)
    | (.ok r, c) => visit path r reference kind owner { w with context := c }

/-- Follows an edge of a node.  A component written in place must have a name; it is known by the
node's key and that name. -/
def follow (files : FileTree) (visit : Visit) (path : List String) (parent : Resolved)
    (kind : EdgeKind) (owner : Option String) (edge : ComponentEdge) (w : Walk) : Walking Walk :=
  let parentName := parent.name.getD parent.key
  match edge with
  | .reference text | .positioned text =>
    followReference files visit path text kind owner parentName w
  | .inline doc =>
    match declaredName doc with
    | none => w.fail (.missingField (parent.key ++ " (inline component)") "name")
    | some label =>
      let (r, c) := w.context.resolve files
        (.ofDocument (parent.key ++ "#" ++ label) parent.path doc)
      visit path r (.plain label) kind owner { w with context := c }

/-- Follows edges of a node in turn. -/
def followAll (files : FileTree) (visit : Visit) (path : List String) (parent : Resolved)
    (kind : EdgeKind) (owner : Option String) : List ComponentEdge → Walk → Walking Walk
  | [], w => .ok w
  | edge :: rest, w => do
    followAll files visit path parent kind owner rest
      (← follow files visit path parent kind owner edge w)

/-- Follows the reference to a node's hardware, if there is one. -/
def followHardware (files : FileTree) (visit : Visit) (path : List String) (name : String)
    (node : NodeRecord) (owner : Option String) (w : Walk) : Walking Walk :=
  match node.hardwareReference with
  | none => .ok w
  | some text => followReference files visit path text .hardware owner name w

/-! ### Visiting nodes -/

/-- The configuration of a node, when the reference gives arguments or the node needs some. -/
def configOf (name : String) (node : NodeRecord) (reference : Reference) :
    Except Failure (Option Expansion) :=
  if reference.isGeneric || node.templates.hasRequiredRoles then
    return some (← expand name node.templates reference)
  else return none

/-- The edges to components below a node that is expanded now: those of the family, when they still
wait and this is a subsystem, and then its own. -/
def edgesBelow (kind : EdgeKind) (node : NodeRecord) (w : Walk) : List ComponentEdge × Walk :=
  if kind = .subsystem then (w.family.getD [] ++ node.childEdges, { w with family := none })
  else (node.childEdges, w)

/-- A node met for the first time: it is registered and its edges are followed. -/
def expandNode (files : FileTree) (visit : Visit) (path : List String) (r : Resolved)
    (name : String) (node : NodeRecord) (kind : EdgeKind) (owner : Option String)
    (config : Option Expansion) (w : Walk) : Walking Walk := do
  let (own, w) := w.register r.key name node kind owner config
  let path := path ++ [r.key]
  let w ← followHardware files visit path name node own w
  let (edges, w) := edgesBelow kind node w
  followAll files visit path r .component own edges w

/-- One encounter of a node, inside which `steps` more may nest. -/
def visit (files : FileTree) : Nat → Visit
  | 0, _, _, _, _, _, w => .error (.outOfSteps, w.context)
  | steps + 1, path, r, reference, kind, owner, w =>
    if path.contains r.key then
      .ok (w.report ((Diagnostic.warn .componentCycle (path.getLastD "")
        ("component cycle back to '" ++ r.key ++ "' not followed")).because
        (" -> ".intercalate path)))
    else match r.name with
      | none => w.fail (.missingField r.key "name")
      | some name =>
        match Record.ofDocument r.key r.kind r.doc with
        | .error e => w.fail (.invalidShape r.key (.mismatch e))
        | .ok record =>
          match record.node? with
          | none =>
            .ok (w.report (.warn .componentSkipped (owner.getD "")
              ("'" ++ r.key ++ "' is a chip spec, not a component; skipped")))
          | some node =>
            match w.seen.get? name with
            | some firstOwner => .ok (w.recordBus name firstOwner node)
            | none =>
              match configOf name node reference with
              | .error e => w.fail e
              | .ok config =>
                expandNode files (visit files steps) path r name node kind owner config w

/-! ### The walk from a bot -/

mutual

/-- The number of objects in a value. -/
def Json.objectCount : Json → Nat
  | .array items => Json.objectCountItems items
  | .object members => Json.objectCountMembers members + 1
  | _ => 0

/-- The number of objects in the items of an array. -/
def Json.objectCountItems : List Json → Nat
  | [] => 0
  | v :: rest => v.objectCount + Json.objectCountItems rest

/-- The number of objects in the values of members. -/
def Json.objectCountMembers : Members → Nat
  | [] => 0
  | (_, v) :: rest => v.objectCount + Json.objectCountMembers rest

end

/-- A number that the names met on a walk do not exceed: the objects in documents read or resolved
so far, and the bytes of the files that may still be read. -/
def nameBound (files : FileTree) (c : Context) (root : Resolved) : Nat :=
  let objects := fun (doc : Members) => (Json.object doc).objectCount
  let bytes := fun path => match files.read path with
    | .ok content => content.size
    | .error _ => 0
  let unread := c.store.index.values.foldl (fun n path => n + bytes path) 0
  let read := c.store.cache.values.foldl (fun n d => n + objects d.doc) 0
  let resolved := c.resolver.memo.values.foldl (fun n r => n + objects r.doc) 0
  objects root.doc + unread + read + resolved

/-- The name a bot goes by: the declared one, or the last part of its key. -/
def rootName (root : Resolved) : String :=
  root.name.getD (((root.key.toList.splitOn '/').map String.ofList).getLastD root.key)

/-- A resolved document as the bot to compile; any node will do, but no chip. -/
def botOf (root : Resolved) : Except Failure BotRecord :=
  match Record.ofDocument root.key root.kind root.doc with
  | .error e => .error (.invalidShape root.key (.mismatch e))
  | .ok (.bot bot) => .ok bot
  | .ok (.node _ node) => .ok { node }
  | .ok (.chip _) => .error (.invalidShape root.key .chipAsBot)

/-- The walk from a bot: its hardware, its subsystems, then the family's components if they still
wait, and its own. -/
def walkBot (files : FileTree) (visit : Visit) (root : Resolved) (bot : BotRecord) (c : Context) :
    Walking Walk := do
  let name := rootName root
  let family := if bot.familyComponents.isEmpty then none else some bot.familyComponents
  let start : Walk := { family, context := c }
  let (owner, w) := start.register root.key name bot.node .subsystem none none
  let path := [root.key]
  let w ← followHardware files visit path name bot.node owner w
  let w ← followAll files visit path root .subsystem owner bot.subsystems w
  let edges := w.family.getD [] ++ bot.node.childEdges
  followAll files visit path root .component owner edges { w with family := none }

/-- The rows and bus encounters of a bot. -/
def traverse (files : FileTree) (c : Context) (root : Resolved) :
    Except Failure Traversal × Context :=
  match botOf root with
  | .error e => (.error e, c)
  | .ok bot =>
    match walkBot files (visit files (nameBound files c root + 1)) root bot c with
    | .ok w => (.ok ⟨rootName root, bot.controller, w.entries, w.busUses⟩, w.context)
    | .error (.failed e, c) => (.error e, c)
    | .error (.outOfSteps, c) => (.error (.invalidShape root.key .nestedTooDeeply), c)

end DispatchTables
