import DispatchTables.Proofs.Inheritance.Warnings
import DispatchTables.Proofs.Traversal.Edges

/-!
# What is queued on a walk

A walk queues what is queued where it looks, and what it reports of obstacles.  As for the resolver,
this is said of each function by recursion along it and without a look at any queue, up to the place
where a walk stops if it stops early; and nothing of it is lost, on walks that end well and on those
that do not.

## Main Definitions

* `Walking.context`: the context that a step of a walk leaves, even if it stops the walk.
* `legWarnings`, `visitWarnings`: what is queued on an edge and below it.
* `traverseWarnings`: what is queued on the walk from a bot.

## Main Statements

* `queues_visit`: visits lose nothing, however deep they nest.
* `queues_traverse`: nor does the walk from a bot.
-/

namespace DispatchTables

variable {files : FileTree} {c : Context} {w : Walk}

/-- The context that a step of a walk leaves. -/
def Walking.context : Walking Walk → Context
  | .ok w => w.context
  | .error (_, c) => c

/-! ### Looking -/

/-- What is queued where an edge leads. -/
def lookWarnings (files : FileTree) (parent : Resolved) (edge : ComponentEdge) (c : Context) :
    List Diagnostic :=
  match edge with
  | .reference text | .positioned text =>
    match Reference.parse? text with
    | none => []
    | some reference => c.loadResolvedWarnings files reference.name
  | .inline doc =>
    match declaredName doc with
    | none => []
    | some label =>
      c.resolveWarnings files (.ofDocument (parent.key ++ "#" ++ label) parent.path doc)

/-- The context after a look. -/
def lookContext : Walking (Target × Context) → Context
  | .ok (_, c) => c
  | .error (_, c) => c

theorem queues_look (files : FileTree) (parent : Resolved) (edge : ComponentEdge) (c : Context) :
    Queues c (lookWarnings files parent edge c) (lookContext (look files parent edge c)) := by
  have text : ∀ text, Queues c (lookWarnings files parent (.reference text) c)
      (lookContext (look files parent (.reference text) c)) := by
    intro text
    unfold lookWarnings look
    dsimp only
    cases Reference.parse? text with
    | none => exact .refl c
    | some reference =>
      have loaded := queues_loadResolved files c reference.name
      dsimp only
      generalize c.loadResolved files reference.name = out at loaded
      obtain ⟨found, c₁⟩ := out
      cases found with
      | ok r => exact loaded
      | error e => cases e <;> exact loaded
  cases edge with
  | reference name => exact text name
  | positioned name => exact text name
  | inline doc =>
    unfold lookWarnings look
    dsimp only
    cases declaredName doc with
    | none => exact .refl c
    | some label => exact queues_resolve files c _

/-! ### Following -/

/-- What is queued on a visit to the end of an edge. -/
abbrev VisitWarnings := List String → Leg → Resolved → Reference → Walk → List Diagnostic

/-- What is queued on an edge. -/
def legWarnings (files : FileTree) (inner : VisitWarnings) (path : List String) (leg : Leg)
    (w : Walk) : List Diagnostic :=
  lookWarnings files leg.parent leg.edge w.context ++
    match look files leg.parent leg.edge w.context with
    | .error _ => []
    | .ok (.missing m, _) => [Obstacle.warning path leg (.missing m)]
    | .ok (.found r reference, c) => inner path leg r reference { w with context := c }

/-- What is queued on edges that are followed in turn, up to the first at which the walk stops. -/
def legsWarnings (files : FileTree) (visit : Visit) (inner : VisitWarnings) (path : List String) :
    List Leg → Walk → List Diagnostic
  | [], _ => []
  | leg :: rest, w =>
    legWarnings files inner path leg w ++
      match followLeg files visit path leg w with
      | .error _ => []
      | .ok w => legsWarnings files visit inner path rest w

/-- What is queued below a node that is met for the first time. -/
def nodeWarnings (files : FileTree) (visit : Visit) (inner : VisitWarnings) (path : List String)
    (leg : Leg) (r : Resolved) (name : String) (node : NodeRecord) (config : Option Expansion)
    (w : Walk) : List Diagnostic :=
  let (own, w) := w.register r.key name node leg.kind leg.owner config
  let path := path ++ [r.key]
  legsWarnings files visit inner path (hardwareLegs r name own node) w ++
    match followLegs files visit path (hardwareLegs r name own node) w with
    | .error _ => []
    | .ok w =>
      let (edges, w) := edgesBelow leg.kind node w
      legsWarnings files visit inner path (edgeLegs r .component own edges) w

/-- What is queued on a visit inside which `steps` more may nest. -/
def visitWarnings (files : FileTree) : Nat → VisitWarnings
  | 0, _, _, _, _, _ => []
  | steps + 1, path, leg, r, reference, w =>
    match meetResolved path r reference with
    | .error _ => []
    | .ok (.obstacle o) => [o.warning path leg]
    | .ok (.node r reference name node) =>
      match w.seen.get? name with
      | some _ => []
      | none =>
        match configOf name node reference with
        | .error _ => []
        | .ok config =>
          nodeWarnings files (visit files steps) (visitWarnings files steps) path leg r name node
            config w

/-- Visits lose none of what they queue. -/
def Visit.Tells (visit : Visit) (inner : VisitWarnings) : Prop :=
  ∀ path leg r reference w, Queues w.context (inner path leg r reference w)
    (Walking.context (visit path r reference leg.kind leg.owner w))

section Following

variable {visit : Visit} {inner : VisitWarnings}

theorem queues_followLeg (files : FileTree) (tells : Visit.Tells visit inner) (path : List String)
    (leg : Leg) (w : Walk) :
    Queues w.context (legWarnings files inner path leg w)
      (Walking.context (followLeg files visit path leg w)) := by
  have looked := queues_look files leg.parent leg.edge w.context
  rw [followLeg_eq]
  unfold legWarnings
  generalize look files leg.parent leg.edge w.context = out at looked
  cases out with
  | error stop =>
    rw [List.append_nil]
    exact looked
  | ok out =>
    obtain ⟨target, c₁⟩ := out
    cases target with
    | missing m => exact looked.trans (queues_report c₁ _)
    | found r reference => exact looked.trans (tells path leg r reference { w with context := c₁ })

theorem queues_followLegs (files : FileTree) (tells : Visit.Tells visit inner) (path : List String)
    (legs : List Leg) (w : Walk) :
    Queues w.context (legsWarnings files visit inner path legs w)
      (Walking.context (followLegs files visit path legs w)) := by
  induction legs generalizing w with
  | nil => exact .refl w.context
  | cons leg rest ih =>
    have first := queues_followLeg files tells path leg w
    unfold legsWarnings followLegs
    generalize followLeg files visit path leg w = out at first
    cases out with
    | error stop =>
      rw [List.append_nil]
      exact first
    | ok w₁ => exact first.trans (ih w₁)

theorem queues_expandNode (files : FileTree) (tells : Visit.Tells visit inner) (path : List String)
    (leg : Leg) (r : Resolved) (name : String) (node : NodeRecord) (config : Option Expansion)
    (w : Walk) :
    Queues w.context (nodeWarnings files visit inner path leg r name node config w)
      (Walking.context (expandNode files visit path r name node leg.kind leg.owner config w)) := by
  unfold nodeWarnings expandNode
  have unchanged :
      (w.register r.key name node leg.kind leg.owner config).2.context = w.context := by
    unfold Walk.register Walk.recordBus
    dsimp only
    split <;> rfl
  generalize w.register r.key name node leg.kind leg.owner config = out at unchanged
  obtain ⟨own, w₁⟩ := out
  dsimp only at unchanged ⊢
  rw [followHardware_eq_followLegs r, ← unchanged]
  have up := queues_followLegs files tells (path ++ [r.key])
    (hardwareLegs r name own node) w₁
  generalize followLegs files visit (path ++ [r.key]) (hardwareLegs r name own node) w₁ = out at up
  cases out with
  | error stop =>
    rw [List.append_nil]
    exact up
  | ok w₂ =>
    have same : (edgesBelow leg.kind node w₂).2.context = w₂.context := by
      unfold edgesBelow
      split <;> rfl
    have down := queues_followLegs files tells (path ++ [r.key])
      (edgeLegs r .component own (edgesBelow leg.kind node w₂).1) (edgesBelow leg.kind node w₂).2
    rw [same, ← followAll_eq_followLegs] at down
    exact up.trans down

end Following

/-- **Visits lose none of what they queue**, however deep they nest. -/
theorem queues_visit (files : FileTree) (steps : Nat) :
    Visit.Tells (visit files steps) (visitWarnings files steps) := by
  induction steps with
  | zero => exact fun _ _ _ _ w => .refl w.context
  | succ steps ih =>
    intro path leg r reference w
    rw [visit_succ]
    unfold visitWarnings
    cases meetResolved path r reference with
    | error e => exact .refl w.context
    | ok m =>
      cases m with
      | obstacle o => exact queues_report w.context _
      | node r reference name node =>
        dsimp only
        cases w.seen.get? name with
        | some first =>
          have unchanged : (w.recordBus name first node).context = w.context := by
            unfold Walk.recordBus
            split <;> rfl
          have quiet : Queues w.context [] (w.recordBus name first node).context := by
            rw [unchanged]
            exact .refl w.context
          exact quiet
        | none =>
          dsimp only
          cases configOf name node reference with
          | error e => exact .refl w.context
          | ok config => exact queues_expandNode files ih path leg r name node config w

/-! ### The walk from a bot -/

/-- What is queued on the walk from a bot. -/
def botWarnings (files : FileTree) (visit : Visit) (inner : VisitWarnings) (root : Resolved)
    (bot : BotRecord) (c : Context) : List Diagnostic :=
  let name := rootName root
  let family := if bot.familyComponents.isEmpty then none else some bot.familyComponents
  let start : Walk := { family, context := c }
  let (owner, w) := start.register root.key name bot.node .subsystem none none
  let path := [root.key]
  legsWarnings files visit inner path (hardwareLegs root name owner bot.node) w ++
    match followLegs files visit path (hardwareLegs root name owner bot.node) w with
    | .error _ => []
    | .ok w =>
      legsWarnings files visit inner path (edgeLegs root .subsystem owner bot.subsystems) w ++
        match followLegs files visit path (edgeLegs root .subsystem owner bot.subsystems) w with
        | .error _ => []
        | .ok w =>
          let edges := w.family.getD [] ++ bot.node.childEdges
          legsWarnings files visit inner path (edgeLegs root .component owner edges)
            { w with family := none }

/-- What is queued on a traversal. -/
def traverseWarnings (files : FileTree) (c : Context) (root : Resolved) : List Diagnostic :=
  match botOf root with
  | .error _ => []
  | .ok bot =>
    let steps := nameBound files c root + 1
    botWarnings files (visit files steps) (visitWarnings files steps) root bot c

theorem queues_walkBot (files : FileTree) {visit : Visit} {inner : VisitWarnings}
    (tells : Visit.Tells visit inner)
    (root : Resolved) (bot : BotRecord) (c : Context) :
    Queues c (botWarnings files visit inner root bot c)
      (Walking.context (walkBot files visit root bot c)) := by
  unfold botWarnings walkBot
  dsimp only
  generalize started : Walk.register _ root.key (rootName root) bot.node .subsystem none none = out
  have unchanged : out.2.context = c := by
    rw [← started]
    unfold Walk.register Walk.recordBus
    dsimp only
    split <;> rfl
  obtain ⟨owner, w⟩ := out
  dsimp only at unchanged ⊢
  rw [followHardware_eq_followLegs root, ← unchanged]
  have up := queues_followLegs files tells [root.key]
    (hardwareLegs root (rootName root) owner bot.node) w
  generalize followLegs files visit [root.key]
    (hardwareLegs root (rootName root) owner bot.node) w = out at up
  cases out with
  | error stop =>
    rw [List.append_nil]
    exact up
  | ok w₁ =>
    refine up.trans ?_
    have across := queues_followLegs files tells [root.key]
      (edgeLegs root .subsystem owner bot.subsystems) w₁
    show Queues w₁.context _ (Walking.context (followAll files visit [root.key] root .subsystem
      owner bot.subsystems w₁ >>= _))
    rw [followAll_eq_followLegs]
    dsimp only
    generalize followLegs files visit [root.key]
      (edgeLegs root .subsystem owner bot.subsystems) w₁ = out at across
    cases out with
    | error stop =>
      rw [List.append_nil]
      exact across
    | ok w₂ =>
      have down := queues_followLegs files tells [root.key]
        (edgeLegs root .component owner (w₂.family.getD [] ++ bot.node.childEdges))
        { w₂ with family := none }
      rw [← followAll_eq_followLegs] at down
      exact across.trans down

/-- **A walk loses none of what it queues**, whether it ends well or not. -/
theorem queues_traverse (files : FileTree) (c : Context) (root : Resolved) :
    Queues c (traverseWarnings files c root) (traverse files c root).2 := by
  unfold traverseWarnings traverse
  cases botOf root with
  | error e => exact .refl c
  | ok bot =>
    have walked := queues_walkBot files
      (queues_visit files (nameBound files c root + 1)) root bot c
    dsimp only
    generalize walkBot files (visit files (nameBound files c root + 1)) root bot c = out at walked
    cases out with
    | ok w => exact walked
    | error stop =>
      obtain ⟨why, c₁⟩ := stop
      cases why <;> exact walked

end DispatchTables
