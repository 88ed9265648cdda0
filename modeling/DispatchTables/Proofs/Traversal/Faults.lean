import DispatchTables.Proofs.Traversal.Listed
import DispatchTables.Proofs.Traversal.Meetable
import DispatchTables.Proofs.Traversal.Trail

/-!
# What a walk may fail on

A walk over files all of which are records does not come upon a file that is none, nor upon text
that is no document.  What it may still come upon is a component in place that is no record, since
these are read as records on the walk only.  And it never runs out of steps: encounters nest only
inside expansions, each of which takes one of the names that are left.

## Main Definitions

* `Store.Clean`: every file can be read and is a record.
* `Store.FaultInPlace`: a failure over a component in place that is no record.
* `Fares`: how a step of a walk may end.

## Main Statements

* `visit_fares`: one encounter, as long as there are more steps than names left.
* `traverse_leaves`: what the walk from a bot may fail on.
-/

namespace DispatchTables

open Keeping (Rooted)

variable {files : FileTree} {s : Store} {c c' : Context} {path : List String} {r parent : Resolved}
  {edge : ComponentEdge} {leg : Leg} {legs : List Leg} {w w' : Walk} {node : NodeRecord}
  {e : Failure} {d : Descriptor}

/-- **A store every file of which can be read and is a record.** -/
structure Store.Clean (files : FileTree) (s : Store) : Prop extends Store.Orderly files s where
  loads : ∀ key ∈ s.keys, ∃ d, s.readKey files key = .ok d
  records : ∀ d, s.Holds files d → ∃ record, Record.ofDocument (resolveAlone files s d).key
    (resolveAlone files s d).kind (resolveAlone files s d).doc = .ok record

/-- **A failure over a component in place** that is no record. -/
def Store.FaultInPlace (files : FileTree) (s : Store) (e : Failure) : Prop :=
  ∃ r fault, ResolvedInPlace files s r ∧ Record.ofDocument r.key r.kind r.doc = .error fault ∧
    e = .invalidShape r.key (.mismatch fault)

/-- What may go wrong where every file is a record: a file is no document never, and a document is
no record only if it is a component in place. -/
structure Store.Leaves (files : FileTree) (s : Store) (e : Failure) : Prop where
  document : e.code ≠ .malformedJson
  record : e.code = .invalidShape → s.FaultInPlace files e

theorem Store.leaves_of_code (files : FileTree) (s : Store) (document : e.code ≠ .malformedJson)
    (record : e.code ≠ .invalidShape) : s.Leaves files e :=
  ⟨document, fun same => absurd same record⟩

/-! ### Edges -/

/-- What is in place at the end of an edge stands in place in a file. -/
def ComponentEdge.Placed (files : FileTree) (s : Store) : ComponentEdge → Prop
  | .inline doc => s.Places files doc
  | _ => True

/-- The edges listed in a document that may be met are placed. -/
theorem ComponentEdge.Listed.placed (h : edge.Listed r.doc) (met : Meetable files s r) :
    edge.Placed files s := by
  cases edge with
  | inline x => exact met.places x h.mem_componentsIn
  | _ => trivial

/-- How a look may end. -/
inductive Looked (files : FileTree) (s : Store) : Walking (Target × Context) → Prop where
  | missing {m : String} {c : Context} : Settled c → Abides files s c →
      Looked files s (.ok (.missing m, c))
  | found {r : Resolved} {reference : Reference} {c : Context} : Meetable files s r → Settled c →
      Abides files s c → Looked files s (.ok (.found r reference, c))
  | failed {e : Failure} {c : Context} : s.Leaves files e → Looked files s (.error (.failed e, c))

/-- Of a clean store nothing else comes of a reference than that there is no file, or what it
reads as. -/
theorem Store.Clean.load (clean : s.Clean files) (reference : String) :
    (∃ m, (s.load files reference).1 = .error (.notFound m)) ∨
      ∃ d, (s.load files reference).1 = .ok d ∧ s.Holds files d := by
  rw [clean.faithful.load_eq, readReference]
  have resolved : (∃ m, (s.resolveKey reference).1 = .error (.notFound m)) ∨
      ∃ key, (s.resolveKey reference).1 = .ok key := by
    unfold resolveKey
    cases (tails (normalSegments reference)).findSome? s.matchTail with
    | none => exact .inl ⟨reference, rfl⟩
    | some chosen => exact .inr ⟨chosen.1, rfl⟩
  obtain ⟨m, none_⟩ | ⟨key, some_⟩ := resolved
  · rw [none_]
    exact .inl ⟨m, rfl⟩
  · rw [some_]
    by_cases filed : key ∈ s.keys
    · obtain ⟨d, read⟩ := clean.loads key filed
      exact .inr ⟨d, read, (readKey_eq_ok_iff.mp read).2⟩
    · refine .inl ⟨key, ?_⟩
      have missing : s.index.get? key = none := by
        rw [← Option.not_isSome_iff_eq_none]
        exact fun has => filed (KeyMap.mem_keys_iff.mpr has)
      simp only [readKey, missing]

/-- How an edge may aim: at nothing, at a file, at a component in place, or it fails for itself. -/
inductive Aimed (files : FileTree) (s : Store) (parent : Resolved) :
    Except Failure Descriptor → Prop where
  | missing {m : String} : Aimed files s parent (.error (.notFound m))
  | file {d : Descriptor} : s.Holds files d → Aimed files s parent (.ok d)
  | inPlace {doc : Members} {label : String} : s.Places files doc →
      declaredName doc = some label → Aimed files s parent
        (.ok (.ofDocument (parent.key ++ "#" ++ label) parent.path doc))
  | failed {e : Failure} : (∀ m, e ≠ .notFound m) → s.Leaves files e →
      Aimed files s parent (.error e)

theorem aim_ends (clean : s.Clean files) (parent : Resolved) (placed : edge.Placed files s) :
    Aimed files s parent (aim files s parent edge) := by
  have text (text : String) : Aimed files s parent (aim files s parent (.reference text)) := by
    unfold aim
    dsimp only
    cases Reference.parse? text with
    | none => exact .failed nofun (s.leaves_of_code files nofun nofun)
    | some reference =>
      obtain ⟨m, missing⟩ | ⟨d, found, held⟩ := clean.load reference.name
      · dsimp only
        rw [missing]
        exact .missing
      · dsimp only
        rw [found]
        exact .file held
  cases edge with
  | reference name => exact text name
  | positioned name => exact text name
  | inline doc =>
    unfold aim
    dsimp only
    cases named : declaredName doc with
    | none => exact .failed nofun (s.leaves_of_code files nofun nofun)
    | some label => exact .inPlace placed named

/-- **Where a look along an edge leads**: to nothing, or to what a walk may meet. -/
theorem look_ends (clean : s.Clean files) (settled : Settled c) (h : Abides files s c)
    (rooted : Rooted s parent.key) (placed : edge.Placed files s) :
    Looked files s (look files parent edge c) := by
  obtain ⟨c₁, reference, extended, memory, eq⟩ := look_eq files parent edge c
  have onward := extended settled
  have abides := h.keeps onward.grown memory.memo memory.cut
  rw [eq, aim_congr h.grown]
  have aimed := aim_ends clean parent placed
  generalize aim files s parent edge = found at aimed
  cases aimed with
  | missing => exact .missing onward.settled abides
  | @file d held =>
    obtain ⟨yields, after⟩ := abides.resolve_file clean.toOrderly held
    exact .found (yields ▸ .file held) (resolve_settled files c₁ d) after
  | inPlace stands named =>
    obtain ⟨resolved, after⟩ :=
      abides.resolve_inPlace clean.toOrderly stands rooted named parent.path
    exact .found (.inPlace resolved) (resolve_settled files c₁ _) after
  | @failed e other leaves =>
    cases e with
    | notFound m => exact absurd rfl (other m)
    | _ => exact .failed leaves

/-! ### Meeting nodes -/

/-- **What may be met is a record**, unless it is a component in place. -/
theorem Meetable.leaves (clean : s.Clean files) (h : Meetable files s r) {fault : ShapeError}
    (misread : Record.ofDocument r.key r.kind r.doc = .error fault) :
    s.Leaves files (.invalidShape r.key (.mismatch fault)) := by
  cases h with
  | file held =>
    obtain ⟨record, read⟩ := clean.records _ held
    rw [read] at misread
    cases misread
  | inPlace resolved => exact ⟨nofun, fun _ => ⟨r, fault, resolved, misread, rfl⟩⟩

theorem meetResolved_leaves (clean : s.Clean files) (h : Meetable files s r)
    {reference : Reference} (failed : meetResolved path r reference = .error e) :
    s.Leaves files e := by
  unfold meetResolved at failed
  split at failed
  · cases failed
  · split at failed
    · cases failed
      exact s.leaves_of_code files nofun nofun
    · split at failed
      · rename_i misread
        cases failed
        exact h.leaves clean misread
      · split at failed <;> cases failed

/-! ### Expanding templates -/

/-- The codes of what may be wrong with a reference to a component with templates. -/
def expansionCodes : List Code :=
  [.unknownDevice, .duplicateRole, .missingRole, .unsupportedArgument]

section

variable {name : String} {catalog : TemplateCatalog} {claim : RoleClaim} {claims : List RoleClaim}
  {fields : List ConfigField}

theorem claimRoles_code {args : List String}
    (failed : claimRoles name catalog claims args = .error e) : e.code ∈ expansionCodes := by
  induction args generalizing claims with
  | nil => cases failed
  | cons device rest ih =>
    unfold claimRoles at failed
    split at failed
    · cases failed
      show Code.unknownDevice ∈ expansionCodes
      decide
    · split at failed
      · exact ih failed
      · cases failed
        show Code.duplicateRole ∈ expansionCodes
        decide

theorem addArguments_code {args : List (String × Json)}
    (failed : addArguments name claim fields args = .error e) : e.code ∈ expansionCodes := by
  induction args generalizing fields with
  | nil => cases failed
  | cons m rest ih =>
    obtain ⟨argument, value⟩ := m
    unfold addArguments at failed
    split at failed
    · cases failed
      show Code.unsupportedArgument ∈ expansionCodes
      decide
    · exact ih failed

theorem configFields_code (failed : configFields name catalog fields claims = .error e) :
    e.code ∈ expansionCodes := by
  induction claims generalizing fields with
  | nil => cases failed
  | cons claim rest ih =>
    rcases bind_eq_error failed with first | ⟨more, -, later⟩
    · exact addArguments_code first
    · exact ih later

/-- **An expansion fails over the arguments of the reference** and nothing else. -/
theorem configOf_code {reference : Reference} (failed : configOf name node reference = .error e) :
    e.code ∈ expansionCodes := by
  unfold configOf at failed
  split at failed
  · rcases bind_eq_error failed with expanded | ⟨expansion, -, done⟩
    · rcases bind_eq_error expanded with claimed | ⟨claims, -, later⟩
      · exact claimRoles_code claimed
      · split at later
        · cases later
          show Code.missingRole ∈ expansionCodes
          decide
        · rcases bind_eq_error later with brought | ⟨fields, -, done⟩
          · exact configFields_code brought
          · cases done
    · cases done
  · cases failed

end

theorem configOf_leaves {name : String} {reference : Reference}
    (failed : configOf name node reference = .error e) : s.Leaves files e := by
  have code := configOf_code failed
  refine s.leaves_of_code files ?_ ?_ <;>
  · intro same
    rw [same] at code
    revert code
    decide

/-! ### Steps -/

/-- **What is true of a walk**: of its context, and of the edges that wait for a subsystem. -/
structure Walk.Fair (files : FileTree) (s : Store) (w : Walk) : Prop where
  settled : Settled w.context
  abides : Abides files s w.context
  family : ∀ edge ∈ w.family.getD [], edge.Placed files s

/-- The number of names that a walk has not met. -/
def Walk.unmet (files : FileTree) (s : Store) (w : Walk) : Nat :=
  ((s.names files).filter fun name => (w.seen.get? name).isNone).length

/-- **How a step of a walk may end**: fairly, with no more names left than before, or over what a
walk may fail on. -/
inductive Fares (files : FileTree) (s : Store) (w : Walk) : Walking Walk → Prop where
  | done {w' : Walk} : w'.Fair files s → w'.unmet files s ≤ w.unmet files s →
      Fares files s w (.ok w')
  | failed {e : Failure} {c : Context} : s.Leaves files e → Fares files s w (.error (.failed e, c))

/-- One step after another. -/
theorem Fares.bind {x : Walking Walk} {f : Walk → Walking Walk} (h : Fares files s w x)
    (next : ∀ w', w'.Fair files s → w'.unmet files s ≤ w.unmet files s → Fares files s w' (f w')) :
    Fares files s w (x >>= f) := by
  cases h with
  | failed leaves => exact .failed leaves
  | @done w' fair fewer =>
    have later := next w' fair fewer
    show Fares files s w (f w')
    generalize f w' = out at later
    cases later with
    | failed leaves => exact .failed leaves
    | done fair' fewer' => exact .done fair' (Nat.le_trans fewer' fewer)

/-- What only starts from a walk with the same names met. -/
theorem Fares.mono {x : Walking Walk} (h : Fares files s w' x)
    (fewer : w'.unmet files s ≤ w.unmet files s) : Fares files s w x := by
  cases h with
  | failed leaves => exact .failed leaves
  | done fair le => exact .done fair (Nat.le_trans le fewer)

theorem Walk.Fair.looked (h : w.Fair files s) (settled : Settled c) (abides : Abides files s c) :
    Walk.Fair files s { w with context := c } := ⟨settled, abides, h.family⟩

theorem Walk.Fair.report (h : w.Fair files s) (d : Diagnostic) : (w.report d).Fair files s :=
  ⟨⟨h.settled.store, h.settled.resolver⟩, h.abides.report d, h.family⟩

theorem Walk.Fair.recordBus (h : w.Fair files s) (device : String) (owner : Option String)
    (node : NodeRecord) : (w.recordBus device owner node).Fair files s := by
  rw [recordBus_eq]
  exact ⟨h.settled, h.abides, h.family⟩

theorem Walk.Fair.register (h : w.Fair files s) (key name : String) (node : NodeRecord)
    (kind : EdgeKind) (owner : Option String) (config : Option Expansion) :
    (w.register key name node kind owner config).2.Fair files s := by
  rw [register_eq]
  exact ⟨h.settled, h.abides, h.family⟩

/-- A name that has been met stays met. -/
theorem unmet_insert_le (w : Walk) (name : String) (owner : Option String) :
    Walk.unmet files s { w with seen := w.seen.insert name owner } ≤ w.unmet files s := by
  unfold Walk.unmet
  simp only [← List.countP_eq_length_filter]
  refine List.countP_mono_left fun other _ unmet => ?_
  rw [KeyMap.get?_insert] at unmet
  split at unmet
  · cases unmet
  · exact unmet

/-- **Each expansion takes one of the names that are left.** -/
theorem unmet_insert_lt {name : String} (mem : name ∈ s.names files)
    (unknown : w.seen.get? name = none) (owner : Option String) :
    Walk.unmet files s { w with seen := w.seen.insert name owner } < w.unmet files s := by
  have fewer : ((s.names files).filter fun other =>
      ((w.seen.insert name owner).get? other).isNone) =
      ((s.names files).filter fun other => (w.seen.get? other).isNone).filter
        fun other => other != name := by
    rw [List.filter_filter]
    refine List.filter_congr fun other _ => ?_
    rw [KeyMap.get?_insert]
    by_cases same : name = other
    · simp [same]
    · simp [same, Ne.symm same]
  unfold Walk.unmet
  dsimp only
  rw [fewer]
  refine List.length_filter_lt_length_iff_exists.mpr ⟨name, ?_, by simp⟩
  rw [List.mem_filter, unknown]
  exact ⟨mem, rfl⟩

/-! ### Following edges -/

/-- A visit fares as it should at whatever may be met, as long as fewer names are left than there
is room for. -/
def Visit.Fares (files : FileTree) (s : Store) (room : Nat) (visit : Visit) : Prop :=
  ∀ path r reference kind owner w, Meetable files s r → w.Fair files s →
    w.unmet files s < room → DispatchTables.Fares files s w (visit path r reference kind owner w)

section

variable {visit : Visit} {room : Nat}

theorem followLeg_fares (clean : s.Clean files) (visits : visit.Fares files s room)
    (rooted : Rooted s leg.parent.key) (placed : leg.edge.Placed files s) (fair : w.Fair files s)
    (fits : w.unmet files s < room) : Fares files s w (followLeg files visit path leg w) := by
  rw [followLeg_eq]
  have looked := look_ends clean fair.settled fair.abides rooted placed
  generalize look files leg.parent leg.edge w.context = out at looked
  cases looked with
  | failed leaves => exact .failed leaves
  | missing settled abides => exact .done ((fair.looked settled abides).report _) (Nat.le_refl _)
  | @found r reference c met settled abides =>
    exact (visits path r reference leg.kind leg.owner _ met (fair.looked settled abides) fits).mono
      (Nat.le_refl _)

/-- **Edges are followed fairly** if what is at their ends is visited so. -/
theorem followLegs_fares (clean : s.Clean files) (visits : visit.Fares files s room)
    (rooted : ∀ leg ∈ legs, Rooted s leg.parent.key)
    (placed : ∀ leg ∈ legs, leg.edge.Placed files s) (fair : w.Fair files s)
    (fits : w.unmet files s < room) : Fares files s w (followLegs files visit path legs w) := by
  induction legs generalizing w with
  | nil => exact .done fair (Nat.le_refl _)
  | cons leg rest ih =>
    rw [List.forall_mem_cons] at rooted placed
    refine (followLeg_fares clean visits rooted.1 placed.1 fair fits).bind fun w' fair' fewer => ?_
    exact ih rooted.2 placed.2 fair' (Nat.lt_of_le_of_lt fewer fits)

theorem hardwareLegs_fares (clean : s.Clean files) (visits : visit.Fares files s room)
    (met : Meetable files s parent) (name : String) (owner : Option String) (node : NodeRecord)
    (fair : w.Fair files s) (fits : w.unmet files s < room) :
    Fares files s w (followHardware files visit path name node owner w) := by
  rw [followHardware_eq_followLegs parent]
  refine followLegs_fares clean visits ?_ ?_ fair fits
  · intro leg mem
    obtain ⟨text, -, rfl⟩ := List.mem_map.mp mem
    exact met.rooted
  · intro leg mem
    obtain ⟨text, -, rfl⟩ := List.mem_map.mp mem
    trivial

theorem edgeLegs_fares (clean : s.Clean files) (visits : visit.Fares files s room)
    (met : Meetable files s parent) (kind : EdgeKind) (owner : Option String)
    {edges : List ComponentEdge} (placed : ∀ edge ∈ edges, edge.Placed files s)
    (fair : w.Fair files s) (fits : w.unmet files s < room) :
    Fares files s w (followAll files visit path parent kind owner edges w) := by
  rw [followAll_eq_followLegs]
  refine followLegs_fares clean visits ?_ ?_ fair fits
  · intro leg mem
    obtain ⟨edge, -, rfl⟩ := List.mem_map.mp mem
    exact met.rooted
  · intro leg mem
    obtain ⟨edge, inEdges, rfl⟩ := List.mem_map.mp mem
    exact placed edge inEdges

/-! ### Visiting nodes -/

/-- The edges below a node, with those of the family if they are its turn, are placed. -/
theorem Walk.Fair.edgesBelow (h : w.Fair files s) (kind : EdgeKind)
    (placed : ∀ edge ∈ node.childEdges, edge.Placed files s) :
    (∀ edge ∈ (edgesBelow kind node w).1, edge.Placed files s) ∧
      (edgesBelow kind node w).2.Fair files s := by
  rw [edgesBelow_eq]
  refine ⟨?_, h.settled, h.abides, ?_⟩
  · intro edge mem
    rcases List.mem_append.mp mem with waiting | own
    · split at waiting
      · exact h.family edge waiting
      · cases waiting
    · exact placed edge own
  · dsimp only
    split
    · exact nofun
    · exact h.family

theorem expandNode_fares (clean : s.Clean files) (visits : visit.Fares files s room)
    (met : Meetable files s r) {name : String} (named : r.name = some name)
    (isNode : nodeOf? r = some node) (kind : EdgeKind) (owner : Option String)
    (config : Option Expansion) (fair : w.Fair files s) (unknown : w.seen.get? name = none)
    (fits : w.unmet files s < room + 1) :
    Fares files s w (expandNode files visit path r name node kind owner config w) := by
  have registered := fair.register r.key name node kind owner config
  have fewer :
      (w.register r.key name node kind owner config).2.unmet files s < w.unmet files s := by
    rw [register_eq]
    exact unmet_insert_lt (met.mem_names clean.toOrderly named) unknown _
  unfold expandNode
  generalize w.register r.key name node kind owner config = out at registered fewer
  obtain ⟨own, w₁⟩ := out
  dsimp only at registered fewer ⊢
  refine Fares.mono ?_ (Nat.le_of_lt fewer)
  have fits₁ : w₁.unmet files s < room := by omega
  refine (hardwareLegs_fares clean visits met name own node registered fits₁).bind
    fun w₂ fair₂ fewer₂ => ?_
  have placed : ∀ edge ∈ node.childEdges, edge.Placed files s := fun edge mem =>
    ((listed_of_nodeOf isNode).childEdges edge mem).placed met
  have below := fair₂.edgesBelow kind placed
  have same : (edgesBelow kind node w₂).2.unmet files s = w₂.unmet files s := by
    rw [edgesBelow_eq]
    rfl
  generalize edgesBelow kind node w₂ = out at below same
  obtain ⟨edges, w₃⟩ := out
  dsimp only at below same ⊢
  refine Fares.mono ?_ (Nat.le_of_eq same)
  exact edgeLegs_fares clean visits met .component own below.1 below.2 (by omega)

end

/-- **A visit fares as it should** as long as there are more steps than names left. -/
theorem visit_fares (clean : s.Clean files) (steps : Nat) :
    (visit files steps).Fares files s steps := by
  induction steps with
  | zero => exact fun _ _ _ _ _ _ _ _ none => absurd none (Nat.not_lt_zero _)
  | succ steps ih =>
    intro path r reference kind owner w met fair fits
    have eq := visit_succ files steps path ⟨r, "", kind, .inline [], owner⟩ r reference w
    dsimp only at eq
    rw [eq]
    cases meeting : meetResolved path r reference with
    | error e => exact .failed (meetResolved_leaves clean met meeting)
    | ok m =>
      rcases meetResolved_cases meeting with
        ⟨rfl, -⟩ | ⟨rfl, -⟩ | ⟨name, node, rfl, -, named, isNode⟩
      · exact .done (fair.report _) (Nat.le_refl _)
      · exact .done (fair.report _) (Nat.le_refl _)
      · dsimp only
        cases known : w.seen.get? name with
        | some first =>
          refine .done (fair.recordBus ..) ?_
          rw [recordBus_eq]
          exact Nat.le_refl _
        | none =>
          dsimp only
          cases configured : configOf name node reference with
          | error e => exact .failed (configOf_leaves configured)
          | ok config =>
            exact expandNode_fares clean ih met named isNode kind owner config fair known fits

/-! ### The walk from a bot -/

theorem walkBot_fares {visit : Visit} {room : Nat} (clean : s.Clean files)
    (visits : visit.Fares files s room) {root : Resolved} {bot : BotRecord}
    (met : Meetable files s root) (isBot : botOf root = .ok bot) (settled : Settled c)
    (abides : Abides files s c) (enough : (s.names files).length < room) :
    Fares files s (unwalked bot c) (walkBot files visit root bot c) := by
  have listed := listed_of_botOf isBot
  have placed {edges : List ComponentEdge} (lists : ∀ edge ∈ edges, edge.Listed root.doc) :
      ∀ edge ∈ edges, edge.Placed files s := fun edge mem => (lists edge mem).placed met
  have start : (unwalked bot c).Fair files s := by
    refine ⟨settled, abides, ?_⟩
    unfold unwalked
    dsimp only
    split
    · exact nofun
    · exact placed listed.family
  have fits : (unwalked bot c).unmet files s < room :=
    Nat.lt_of_le_of_lt (List.length_filter_le _ _) enough
  have registered := start.register root.key (rootName root) bot.node .subsystem none none
  have fewer : ((unwalked bot c).register root.key (rootName root) bot.node .subsystem none
      none).2.unmet files s ≤ (unwalked bot c).unmet files s := by
    rw [register_eq]
    exact unmet_insert_le _ _ _
  unfold walkBot
  unfold unwalked at registered fewer fits ⊢
  dsimp only
  generalize Walk.register _ root.key (rootName root) bot.node .subsystem none none = out
    at registered fewer
  obtain ⟨owner, w₁⟩ := out
  dsimp only at registered fewer ⊢
  refine Fares.mono ?_ fewer
  -- its hardware, its subsystems, and what is left of the family's components with its own
  refine (hardwareLegs_fares clean visits met _ owner bot.node registered
    (Nat.lt_of_le_of_lt fewer fits)).bind fun w₂ fair₂ fewer₂ => ?_
  refine (edgeLegs_fares clean visits met .subsystem owner (placed listed.subsystems) fair₂
    (by omega)).bind fun w₃ fair₃ fewer₃ => ?_
  have left : Walk.Fair files s { w₃ with family := none } :=
    ⟨fair₃.settled, fair₃.abides, nofun⟩
  refine (edgeLegs_fares clean visits met .component owner ?_ left ?_).mono (Nat.le_refl _)
  · exact List.forall_mem_append.mpr ⟨fair₃.family, placed listed.node.childEdges⟩
  · show w₃.unmet files s < room
    omega

/-- **What the walk from a bot may fail on.** -/
theorem traverse_leaves (clean : s.Clean files) {root : Resolved} (met : Meetable files s root)
    (robotic : root.kind ≠ .chipSpec) (settled : Settled c) (abides : Abides files s c)
    (failed : traverse files c root = (.error e, c')) : s.Leaves files e := by
  unfold traverse at failed
  cases isBot : botOf root with
  | error other =>
    rw [isBot] at failed
    cases failed
    unfold botOf at isBot
    split at isBot
    · rename_i misread
      cases isBot
      exact met.leaves clean misread
    · cases isBot
    · cases isBot
    · rename_i chip read
      obtain ⟨kind, -⟩ | ⟨-, _, same, -⟩ | ⟨_, same, -⟩ := Record.ofDocument_eq_ok read
      · exact absurd kind robotic
      all_goals cases same
  | ok bot =>
    -- there are more steps than names
    have room : (s.names files).length < nameBound files c root + 1 :=
      Nat.lt_succ_of_le (length_names_le_nameBound abides.grown.index root)
    have fares := walkBot_fares clean (visit_fares clean _) met isBot settled abides room
    simp only [isBot] at failed
    generalize walkBot files (visit files (nameBound files c root + 1)) root bot c = out
      at failed fares
    cases fares with
    | done => cases failed
    | failed leaves =>
      cases failed
      exact leaves

end DispatchTables
