import DispatchTables.Proofs.Descriptor.Fields
import DispatchTables.Proofs.Inheritance.Frame
import DispatchTables.Traversal.Walk

/-!
# Edges and where they lead

What a walk meets at the end of an edge is found in two steps.  Looking reads files and resolves
them, and does not depend on the path; what is found there is then an obstacle or a node, as the
path and the document say, and nothing else.

## Main Definitions

* `Leg`: one edge of a node, with all that is said when it is followed.
* `look`: where an edge leads; `aim`, `targetKey`: the descriptor and the key that the store has
  there.
* `meet`: what is met there, before it matters whether it has been met already.
* `nodeOf?`: the node that a document is, if it is one.

## Main Statements

* `look_eq`: what looking comes to; `look_extends`, `look_keyed`: what it does to a context.
* `look_key`: what is found is what the store has under the reference.
* `meetResolved_cases`: the three things that a document can be to a walk.
* `followLeg_eq`, `visit_succ`: following an edge and visiting its end, by what is met there.
-/

namespace DispatchTables

variable {files : FileTree} {path : List String} {w w' : Walk} {c c' : Context}

/-! ### Edges -/

/-- An edge with what is known of it when it is followed: the node it is from and how warnings call
it, what kind it is, and what the components at its end belong to. -/
structure Leg where
  parent : Resolved
  subject : String
  kind : EdgeKind
  edge : ComponentEdge
  owner : Option String

/-- The edge to a node's hardware, if there is one. -/
def hardwareLegs (parent : Resolved) (name : String) (owner : Option String) (node : NodeRecord) :
    List Leg :=
  node.hardwareReference.toList.map fun text => ⟨parent, name, .hardware, .reference text, owner⟩

/-- Edges of a node to components or subsystems. -/
def edgeLegs (parent : Resolved) (kind : EdgeKind) (owner : Option String)
    (edges : List ComponentEdge) : List Leg :=
  edges.map fun edge => ⟨parent, parent.name.getD parent.key, kind, edge, owner⟩

/-- Follows an edge. -/
def followLeg (files : FileTree) (visit : Visit) (path : List String) (leg : Leg) (w : Walk) :
    Walking Walk :=
  match leg.edge with
  | .reference text | .positioned text =>
    followReference files visit path text leg.kind leg.owner leg.subject w
  | .inline _ => follow files visit path leg.parent leg.kind leg.owner leg.edge w

/-- Follows edges in turn. -/
def followLegs (files : FileTree) (visit : Visit) (path : List String) :
    List Leg → Walk → Walking Walk
  | [], w => .ok w
  | leg :: rest, w => do followLegs files visit path rest (← followLeg files visit path leg w)

theorem followAll_eq_followLegs {visit : Visit} {parent : Resolved} {kind : EdgeKind}
    {owner : Option String} {edges : List ComponentEdge} :
    followAll files visit path parent kind owner edges w =
      followLegs files visit path (edgeLegs parent kind owner edges) w := by
  induction edges generalizing w with
  | nil => rfl
  | cons edge rest ih =>
    have first : follow files visit path parent kind owner edge w =
        followLeg files visit path
          ⟨parent, parent.name.getD parent.key, kind, edge, owner⟩ w := by
      cases edge <;> rfl
    rw [followAll, first, edgeLegs, List.map_cons, followLegs]
    congr 1
    funext w
    exact ih

theorem followHardware_eq_followLegs {visit : Visit} (parent : Resolved) {name : String}
    {node : NodeRecord} {owner : Option String} :
    followHardware files visit path name node owner w =
      followLegs files visit path (hardwareLegs parent name owner node) w := by
  unfold followHardware hardwareLegs
  cases node.hardwareReference with
  | none => rfl
  | some text => exact (bind_pure _).symm

/-! ### The ends of edges -/

/-- Why nothing is entered at the end of an edge. -/
inductive Obstacle where
  | missing (reference : String)
  | onPath (key : String)
  | chip (key : String)

/-- What is at the end of an edge. -/
inductive Meeting where
  | obstacle (o : Obstacle)
  | node (r : Resolved) (reference : Reference) (name : String) (node : NodeRecord)

/-- What a resolved document is to a walk with some keys on its path. -/
def meetResolved (path : List String) (r : Resolved) (reference : Reference) :
    Except Failure Meeting :=
  if path.contains r.key then .ok (.obstacle (.onPath r.key))
  else match r.name with
    | none => .error (.missingField r.key "name")
    | some name =>
      match Record.ofDocument r.key r.kind r.doc with
      | .error e => .error (.invalidShape r.key (.mismatch e))
      | .ok record =>
        match record.node? with
        | none => .ok (.obstacle (.chip r.key))
        | some node => .ok (.node r reference name node)

/-- Where an edge leads: what is named is not there, or it is a document. -/
inductive Target where
  | missing (reference : String)
  | found (r : Resolved) (reference : Reference)

/-- Where an edge of a node leads, with the context after looking. -/
def look (files : FileTree) (parent : Resolved) (edge : ComponentEdge) (c : Context) :
    Walking (Target × Context) :=
  match edge with
  | .reference text | .positioned text =>
    match Reference.parse? text with
    | none => .error (.failed (.invalidReference text), c)
    | some reference =>
      match c.loadResolved files reference.name with
      | (.error (.notFound missing), c) => .ok (.missing missing, c)
      | (.error e, c) => .error (.failed e, c)
      | (.ok r, c) => .ok (.found r reference, c)
  | .inline doc =>
    match declaredName doc with
    | none => .error (.failed (.missingField (parent.key ++ " (inline component)") "name"), c)
    | some label =>
      let (r, c) := c.resolve files (.ofDocument (parent.key ++ "#" ++ label) parent.path doc)
      .ok (.found r (.plain label), c)

/-- What an edge leads to is to a walk with some keys on its path. -/
def meetTarget (path : List String) : Target → Except Failure Meeting
  | .missing reference => .ok (.obstacle (.missing reference))
  | .found r reference => meetResolved path r reference

/-- What is met at the end of an edge, with the context after looking. -/
def meet (files : FileTree) (path : List String) (leg : Leg) (c : Context) :
    Walking (Meeting × Context) :=
  match look files leg.parent leg.edge c with
  | .error stop => .error stop
  | .ok (target, c) =>
    match meetTarget path target with
    | .error e => .error (.failed e, c)
    | .ok m => .ok (m, c)

/-- What is reported of an obstacle. -/
def Obstacle.warning (path : List String) (leg : Leg) : Obstacle → Diagnostic
  | .missing reference =>
    .warn .componentSkipped leg.subject ("component '" ++ reference ++ "' not found; skipped")
  | .onPath key =>
    (Diagnostic.warn .componentCycle (path.getLastD "")
      ("component cycle back to '" ++ key ++ "' not followed")).because (" -> ".intercalate path)
  | .chip key =>
    .warn .componentSkipped (leg.owner.getD "")
      ("'" ++ key ++ "' is a chip spec, not a component; skipped")

theorem meet_eq_ok {leg : Leg} {m : Meeting}
    (h : meet files path leg c = .ok (m, c')) :
    ∃ target, look files leg.parent leg.edge c = .ok (target, c') ∧
      meetTarget path target = .ok m := by
  unfold meet at h
  cases looked : look files leg.parent leg.edge c with
  | error stop =>
    rw [looked] at h
    cases h
  | ok out =>
    obtain ⟨target, c₁⟩ := out
    simp only [looked] at h
    cases met : meetTarget path target with
    | error e =>
      rw [met] at h
      cases h
    | ok m =>
      rw [met] at h
      cases h
      exact ⟨target, rfl, met⟩

theorem meet_of_look {leg : Leg} {target : Target} {m : Meeting}
    (looked : look files leg.parent leg.edge c = .ok (target, c'))
    (met : meetTarget path target = .ok m) : meet files path leg c = .ok (m, c') := by
  simp only [meet, looked, met]

/-! ### What looking finds -/

variable {parent r : Resolved} {edge : ComponentEdge} {target : Target} {reference : Reference}
  {name : String} {node : NodeRecord}

/-- The descriptor that an edge leads to: the one that the store has for a reference, or a component
in place under a key made of the node's key and its name. -/
def aim (files : FileTree) (s : Store) (parent : Resolved) (edge : ComponentEdge) :
    Except Failure Descriptor :=
  match edge with
  | .reference text | .positioned text =>
    match Reference.parse? text with
    | none => .error (.invalidReference text)
    | some reference => (s.load files reference.name).1
  | .inline doc =>
    match declaredName doc with
    | none => .error (.missingField (parent.key ++ " (inline component)") "name")
    | some label => .ok (.ofDocument (parent.key ++ "#" ++ label) parent.path doc)

/-- The key of the descriptor that an edge leads to. -/
def targetKey (files : FileTree) (s : Store) (parent : Resolved) (edge : ComponentEdge) :
    Except Failure String :=
  (aim files s parent edge).map (·.key)

/-- The key of what has been found. -/
def Target.key : Target → Except Failure String
  | .missing reference => .error (.notFound reference)
  | .found r _ => .ok r.key

/-- Where an edge leads does not change while a store grows. -/
theorem aim_congr {s t : Store} (grown : Store.Grows files s t) :
    aim files t parent edge = aim files s parent edge := by
  cases edge <;> simp only [aim, grown.load_fst_eq]

theorem targetKey_congr {s t : Store} (grown : Store.Grows files s t) :
    targetKey files t parent edge = targetKey files s parent edge := by
  rw [targetKey, aim_congr grown]
  rfl

/-- **What looking comes to**: after something has been loaded, what the edge leads to is
resolved. -/
theorem look_eq (files : FileTree) (parent : Resolved) (edge : ComponentEdge) (c : Context) :
    ∃ c₁ reference, (Settled c → Extends files c c₁) ∧ SameMemory c c₁ ∧
      look files parent edge c = match aim files c.store parent edge with
        | .error (.notFound m) => .ok (.missing m, c₁)
        | .error e => .error (.failed e, c₁)
        | .ok d => .ok (.found (c₁.resolve files d).1 reference, (c₁.resolve files d).2) := by
  have same : SameMemory c c := ⟨rfl, rfl⟩
  have text : ∀ text, ∃ c₁ reference, (Settled c → Extends files c c₁) ∧ SameMemory c c₁ ∧
      look files parent (.reference text) c = match aim files c.store parent (.reference text) with
        | .error (.notFound m) => .ok (.missing m, c₁)
        | .error e => .error (.failed e, c₁)
        | .ok d => .ok (.found (c₁.resolve files d).1 reference, (c₁.resolve files d).2) := by
    intro text
    unfold look aim
    dsimp only
    cases Reference.parse? text with
    | none => exact ⟨c, default, fun settled => settled.extends, same, rfl⟩
    | some reference =>
      obtain ⟨c₁, extended, memory, eq⟩ := loadResolved_eq files c reference.name
      refine ⟨c₁, reference, extended, memory, ?_⟩
      dsimp only
      rw [eq]
      cases (c.store.load files reference.name).1 with
      | error e => cases e <;> rfl
      | ok d => rfl
  cases edge with
  | reference name => exact text name
  | positioned name => exact text name
  | inline doc =>
    unfold look aim
    dsimp only
    cases declaredName doc with
    | none => exact ⟨c, default, fun settled => settled.extends, same, rfl⟩
    | some label => exact ⟨c, .plain label, fun settled => settled.extends, same, rfl⟩

/-- The target of a look is missing in the store, or what the edge leads to is resolved. -/
theorem look_eq_ok (h : look files parent edge c = .ok (target, c')) :
    ∃ c₁, (Settled c → Extends files c c₁) ∧ SameMemory c c₁ ∧
      ((∃ m, target = .missing m ∧ c' = c₁ ∧
          aim files c.store parent edge = .error (.notFound m)) ∨
        ∃ d reference, target = .found (c₁.resolve files d).1 reference ∧
          c' = (c₁.resolve files d).2 ∧ aim files c.store parent edge = .ok d) := by
  obtain ⟨c₁, reference, extended, memory, eq⟩ := look_eq files parent edge c
  refine ⟨c₁, extended, memory, ?_⟩
  rw [h] at eq
  cases aimed : aim files c.store parent edge with
  | ok d =>
    rw [aimed] at eq
    cases eq
    exact .inr ⟨d, reference, rfl, rfl, rfl⟩
  | error e =>
    rw [aimed] at eq
    cases e <;> cases eq
    exact .inl ⟨_, rfl, rfl, rfl⟩

theorem look_extends (settled : Settled c)
    (h : look files parent edge c = .ok (target, c')) : Extends files c c' := by
  obtain ⟨c₁, extended, -, ⟨-, -, rfl, -⟩ | ⟨d, -, -, rfl, -⟩⟩ := look_eq_ok h
  · exact extended settled
  · exact (extended settled).trans (resolve_extends (extended settled).settled d)

theorem look_keyed (keyed : Keyed c) (h : look files parent edge c = .ok (target, c')) :
    Keyed c' := by
  obtain ⟨c₁, -, memory, ⟨-, -, rfl, -⟩ | ⟨d, -, -, rfl, -⟩⟩ := look_eq_ok h
  · exact keyed.congr memory.memo
  · exact resolve_keyed (keyed.congr memory.memo) d

/-- What is found is what the store has. -/
theorem look_key (keyed : Keyed c) (h : look files parent edge c = .ok (target, c')) :
    targetKey files c.store parent edge = target.key := by
  obtain ⟨c₁, -, memory, ⟨m, rfl, -, aimed⟩ | ⟨d, reference, rfl, -, aimed⟩⟩ := look_eq_ok h
  · rw [targetKey, aimed]
    rfl
  · rw [targetKey, aimed, Target.key, resolve_key (keyed.congr memory.memo)]
    rfl

/-- Looking finds what the store has. -/
theorem exists_look (key : targetKey files c.store parent edge = target.key) :
    ∃ other c', look files parent edge c = .ok (other, c') := by
  obtain ⟨c₁, reference, -, -, eq⟩ := look_eq files parent edge c
  rw [eq]
  unfold targetKey at key
  cases aimed : aim files c.store parent edge with
  | ok d => exact ⟨_, _, rfl⟩
  | error e =>
    rw [aimed] at key
    cases target with
    | found r reference => cases key
    | missing m =>
      cases key
      exact ⟨_, _, rfl⟩

/-- The reference that an edge is given by, unless it is given in place. -/
def ComponentEdge.reference? : ComponentEdge → Option Reference
  | .reference text | .positioned text => Reference.parse? text
  | .inline _ => none

/-- **How an edge is looked along**: what its reference means is loaded and resolved, or missing; or
what it has in place is resolved. -/
theorem look_cases (h : look files parent edge c = .ok (target, c')) :
    (∃ reference, edge.reference? = some reference ∧
      ((∃ r, c.loadResolved files reference.name = (.ok r, c') ∧ target = .found r reference) ∨
        ∃ m, c.loadResolved files reference.name = (.error (.notFound m), c') ∧
          target = .missing m)) ∨
      ∃ doc label, edge = .inline doc ∧ declaredName doc = some label ∧
        (c.resolve files (.ofDocument (parent.key ++ "#" ++ label) parent.path doc)).2 = c' ∧
        target = .found
          (c.resolve files (.ofDocument (parent.key ++ "#" ++ label) parent.path doc)).1
          (.plain label) := by
  have text : ∀ text, look files parent (.reference text) c = .ok (target, c') →
      ∃ reference, Reference.parse? text = some reference ∧
        ((∃ r, c.loadResolved files reference.name = (.ok r, c') ∧ target = .found r reference) ∨
          ∃ m, c.loadResolved files reference.name = (.error (.notFound m), c') ∧
            target = .missing m) := by
    intro text h
    unfold look at h
    cases parsed : Reference.parse? text with
    | none => simp [parsed] at h
    | some reference =>
      simp only [parsed] at h
      refine ⟨reference, rfl, ?_⟩
      generalize c.loadResolved files reference.name = out at h
      obtain ⟨found, c₁⟩ := out
      cases found with
      | ok r =>
        cases h
        exact .inl ⟨r, rfl, rfl⟩
      | error e =>
        cases e with
        | notFound missing =>
          cases h
          exact .inr ⟨missing, rfl, rfl⟩
        | _ => cases h
  cases edge with
  | reference name => exact .inl (text name h)
  | positioned name => exact .inl (text name h)
  | inline doc =>
    unfold look at h
    cases named : declaredName doc with
    | none => simp [named] at h
    | some label =>
      simp only [named] at h
      cases h
      exact .inr ⟨doc, label, rfl, named, rfl, rfl⟩

/-! ### What a document is to a walk -/

/-- The node that a document is, if it is one. -/
def nodeOf? (r : Resolved) : Option NodeRecord :=
  match Record.ofDocument r.key r.kind r.doc with
  | .ok record => record.node?
  | .error _ => none

theorem ofDocument_of_nodeOf? (isNode : nodeOf? r = some node) :
    NodeRecord.ofDocument r.doc = .ok node := by
  unfold nodeOf? at isNode
  split at isNode
  · rename_i record read
    obtain ⟨-, chip, rfl, -⟩ | ⟨-, bot, rfl, own⟩ | ⟨node, rfl, own⟩ := Record.ofDocument_eq_ok read
    · cases isNode
    · cases isNode
      obtain ⟨node, inner, rest⟩ := bind_eq_ok own
      obtain ⟨fields, -, rest⟩ := bind_eq_ok rest
      cases rest
      exact inner
    · cases isNode
      exact own
  · cases isNode

/-- What a document is to a walk: on the path, no node, or a node that has a name. -/
theorem meetResolved_cases {m : Meeting} (h : meetResolved path r reference = .ok m) :
    (m = .obstacle (.onPath r.key) ∧ r.key ∈ path) ∨
      (m = .obstacle (.chip r.key) ∧ r.key ∉ path ∧ nodeOf? r = none) ∨
      ∃ name node, m = .node r reference name node ∧ r.key ∉ path ∧ r.name = some name ∧
        nodeOf? r = some node := by
  unfold meetResolved at h
  unfold nodeOf?
  by_cases onPath : r.key ∈ path
  · rw [if_pos (List.contains_iff_mem.mpr onPath)] at h
    cases h
    exact .inl ⟨rfl, onPath⟩
  · rw [if_neg (fun contained => onPath (List.contains_iff_mem.mp contained))] at h
    cases named : r.name with
    | none =>
      rw [named] at h
      cases h
    | some name =>
      cases read : Record.ofDocument r.key r.kind r.doc with
      | error e =>
        simp only [named, read] at h
        cases h
      | ok record =>
        simp only [named, read] at h ⊢
        cases isNode : record.node? with
        | none =>
          rw [isNode] at h
          cases h
          exact .inr (.inl ⟨rfl, onPath, rfl⟩)
        | some node =>
          rw [isNode] at h
          cases h
          exact .inr (.inr ⟨name, node, rfl, onPath, rfl, rfl⟩)

/-- What a document off the path is does not depend on the path. -/
theorem meetResolved_off (off : r.key ∉ path) :
    meetResolved path r reference = meetResolved [] r reference := by
  unfold meetResolved
  rw [if_neg fun contained => off (List.contains_iff_mem.mp contained)]
  rfl

theorem meetResolved_on (on : r.key ∈ path) :
    meetResolved path r reference = .ok (.obstacle (.onPath r.key)) := by
  unfold meetResolved
  rw [if_pos (List.contains_iff_mem.mpr on)]

theorem meetResolved_node (off : r.key ∉ path) (named : r.name = some name)
    (isNode : nodeOf? r = some node) :
    meetResolved path r reference = .ok (.node r reference name node) := by
  rw [meetResolved_off off]
  unfold nodeOf? at isNode
  unfold meetResolved
  cases read : Record.ofDocument r.key r.kind r.doc with
  | error e =>
    rw [read] at isNode
    cases isNode
  | ok record =>
    simp only [read] at isNode
    simp only [named, isNode]
    rfl

theorem meetResolved_chip {chip : ChipSpec} (off : r.key ∉ path) (named : r.name = some name)
    (read : Record.ofDocument r.key r.kind r.doc = .ok (.chip chip)) :
    meetResolved path r reference = .ok (.obstacle (.chip r.key)) := by
  rw [meetResolved_off off]
  unfold meetResolved
  simp only [named, read]
  rfl

/-- What is called a chip has a name and is read as a chip. -/
theorem chip_of_meetResolved {key : String}
    (h : meetResolved path r reference = .ok (.obstacle (.chip key))) :
    r.key = key ∧ r.key ∉ path ∧ ∃ name chip, r.name = some name ∧
      Record.ofDocument r.key r.kind r.doc = .ok (.chip chip) := by
  unfold meetResolved at h
  split at h
  · cases h
  · rename_i off
    cases named : r.name with
    | none =>
      rw [named] at h
      cases h
    | some name =>
      cases read : Record.ofDocument r.key r.kind r.doc with
      | error e =>
        simp only [named, read] at h
        cases h
      | ok record =>
        simp only [named, read] at h
        cases record with
        | bot bot => cases h
        | node kind node => cases h
        | chip chip =>
          cases h
          exact ⟨rfl, fun mem => off (List.contains_iff_mem.mpr mem), name, chip, rfl, rfl⟩

/-! ### Following and visiting -/

/-- **An edge is followed** by a look and, if something is found, a visit. -/
theorem followLeg_eq (files : FileTree) (visit : Visit) (path : List String) (leg : Leg)
    (w : Walk) :
    followLeg files visit path leg w = match look files leg.parent leg.edge w.context with
      | .error stop => .error stop
      | .ok (.missing m, c) =>
        .ok (Walk.report { w with context := c } (Obstacle.warning path leg (.missing m)))
      | .ok (.found r reference, c) =>
        visit path r reference leg.kind leg.owner { w with context := c } := by
  obtain ⟨parent, subject, kind, edge, owner⟩ := leg
  have text : ∀ text, followReference files visit path text kind owner subject w =
      match look files parent (.reference text) w.context with
        | .error stop => .error stop
        | .ok (.missing m, c) =>
          .ok (Walk.report { w with context := c }
            (Obstacle.warning path ⟨parent, subject, kind, edge, owner⟩ (.missing m)))
        | .ok (.found r reference, c) =>
          visit path r reference kind owner { w with context := c } := by
    intro text
    unfold followReference look
    dsimp only
    cases Reference.parse? text with
    | none => rfl
    | some reference =>
      dsimp only
      generalize w.context.loadResolved files reference.name = out
      obtain ⟨found, c⟩ := out
      cases found with
      | ok r => rfl
      | error e => cases e <;> rfl
  cases edge with
  | reference name => exact text name
  | positioned name => exact text name
  | inline doc =>
    unfold followLeg follow look
    dsimp only
    cases declaredName doc <;> rfl

/-- **A visit** reports an obstacle, charges a node that has been met before and expands any
other. -/
theorem visit_succ (files : FileTree) (steps : Nat) (path : List String) (leg : Leg) (r : Resolved)
    (reference : Reference) (w : Walk) :
    visit files (steps + 1) path r reference leg.kind leg.owner w =
      match meetResolved path r reference with
      | .error e => w.fail e
      | .ok (.obstacle o) => .ok (w.report (o.warning path leg))
      | .ok (.node r reference name node) =>
        match w.seen.get? name with
        | some first => .ok (w.recordBus name first node)
        | none =>
          match configOf name node reference with
          | .error e => w.fail e
          | .ok config =>
            expandNode files (visit files steps) path r name node leg.kind leg.owner config w := by
  unfold visit meetResolved
  by_cases onPath : path.contains r.key = true
  · rw [if_pos onPath, if_pos onPath]
    rfl
  · rw [if_neg onPath, if_neg onPath]
    cases r.name with
    | none => rfl
    | some name =>
      dsimp only
      cases Record.ofDocument r.key r.kind r.doc with
      | error e => rfl
      | ok record =>
        dsimp only
        cases record.node? <;> rfl

end DispatchTables
