import DispatchTables.Proofs.Inheritance.Memory
import DispatchTables.Proofs.Traversal.Trail

/-!
# The graph below a bot

Which documents there are below a bot is found out by looking along edges, and looking changes the
context in which the next edge is looked along.  So contexts and documents arise together, in
whatever order the edges are taken.  When every key and every name belongs to a single document, the
order does not matter, and each edge leads to the same document whenever it is looked along.

## Main Definitions

* `Graph`: a bot, the context a walk from it begins in, and the node that has its family.
* `Graph.Edge`, `Graph.Found`, `Graph.Arises`: the edges, the documents that they lead to, and the
  contexts in between.
* `Graph.Single`: every key and every name belongs to a single document.

## Main Statements

* `Graph.look_again`: an edge leads to the same document whenever it is looked along.
-/

namespace DispatchTables

/-- The edges that a node has of itself: to its hardware and to its components. -/
def NodeRecord.edges (node : NodeRecord) : List ComponentEdge :=
  node.hardwareReference.toList.map .reference ++ node.childEdges

/-- The document that an edge leads to, if it leads to one. -/
def Target.doc? : Target → Option Resolved
  | .missing _ => none
  | .found r _ => some r

/-- **Where a walk begins**: the context, the resolved bot, and the node that the components which
it shares with its family are put below. -/
structure Graph where
  files : FileTree
  context : Context
  root : Resolved
  bot : BotRecord
  heir : Resolved
  settled : Settled context
  keyed : Keyed context
  isBot : botOf root = .ok bot

namespace Graph

variable {g : Graph} {c c' : Context} {p r r' : Resolved} {edge : ComponentEdge} {target : Target}
  {reference : Reference} {name : String} {node : NodeRecord}

/-- The edges of a node: its own, those of the bot to its subsystems, and those of the family. -/
inductive Edge (g : Graph) : Resolved → ComponentEdge → Prop where
  | own : ∀ {r node edge}, nodeOf? r = some node → edge ∈ node.edges → Edge g r edge
  | subsystem : ∀ {edge}, edge ∈ g.bot.subsystems → Edge g g.root edge
  | family : ∀ {edge}, edge ∈ g.bot.familyComponents → Edge g g.heir edge

mutual

/-- A context in which an edge may be looked along. -/
inductive Arises (g : Graph) : Context → Prop where
  | start : Arises g g.context
  | report : ∀ {c} d, Arises g c → Arises g (c.report d)
  | look : ∀ {c p edge target c'}, Arises g c → Found g p → g.Edge p edge →
      look g.files p edge c = .ok (target, c') → Arises g c'

/-- A document that an edge may lead to. -/
inductive Found (g : Graph) : Resolved → Prop where
  | root : Found g g.root
  | along : ∀ {c p edge r reference c'}, Arises g c → Found g p → g.Edge p edge →
      look g.files p edge c = .ok (.found r reference, c') → Found g r

end

/-- An edge of a document that may be found. -/
structure Has (g : Graph) (p : Resolved) (edge : ComponentEdge) : Prop where
  found : g.Found p
  edge : g.Edge p edge

/-- A document goes by the name it declares; the root also by what its key says. -/
def Called (g : Graph) (r : Resolved) (name : String) : Prop :=
  r.name = some name ∨ r = g.root ∧ name = rootName g.root

/-- **Every key and every name belongs to a single document.** -/
structure Single (g : Graph) : Prop where
  key : ∀ {r r'}, g.Found r → g.Found r' → r.key = r'.key → r = r'
  name : ∀ {r r' name}, g.Found r → g.Found r' → g.Called r name → g.Called r' name → r = r'

/-- The root is the node of its bot. -/
theorem nodeOf?_root (g : Graph) : nodeOf? g.root = some g.bot.node := by
  have isBot := g.isBot
  unfold botOf at isBot
  unfold nodeOf?
  cases read : Record.ofDocument g.root.key g.root.kind g.root.doc with
  | error e =>
    rw [read] at isBot
    cases isBot
  | ok record =>
    simp only [read] at isBot ⊢
    cases record with
    | bot bot =>
      rw [← Except.ok.inj isBot]
      rfl
    | node kind node =>
      rw [← Except.ok.inj isBot]
      rfl
    | chip chip => cases isBot

/-- What arises is settled and keyed, and has only read more. -/
theorem Arises.sound (h : g.Arises c) :
    Settled c ∧ Keyed c ∧ Store.Grows g.files g.context.store c.store := by
  induction h using Arises.rec (motive_2 := fun _ _ => True) with
  | start => exact ⟨g.settled, g.keyed, Store.Grows.refl _ _⟩
  | report d _ ih => exact ⟨⟨ih.1.store, ih.1.resolver⟩, ih.2⟩
  | look _ _ _ looked ih =>
    obtain ⟨settled, keyed, grown⟩ := ih
    have extended := look_extends settled looked
    exact ⟨extended.settled, look_keyed keyed looked, grown.trans extended.grown⟩
  | root => trivial
  | along => trivial

theorem Has.arises (has : g.Has p edge) (arises : g.Arises c)
    (looked : look g.files p edge c = .ok (target, c')) : g.Arises c' :=
  .look arises has.found has.edge looked

theorem Has.along (has : g.Has p edge) (arises : g.Arises c)
    (looked : look g.files p edge c = .ok (.found r reference, c')) : g.Found r :=
  .along arises has.found has.edge looked

/-- **An edge leads to the same document whenever it is looked along.** -/
theorem look_again (single : g.Single) (arises : g.Arises c) (has : g.Has p edge)
    (looked : look g.files p edge c = .ok (target, c')) {e : Context} (later : g.Arises e) :
    ∃ other e', look g.files p edge e = .ok (other, e') ∧ other.doc? = target.doc? := by
  obtain ⟨-, keyed, grown⟩ := arises.sound
  obtain ⟨-, keyed', grown'⟩ := later.sound
  -- the edge aims at the same key in both contexts, and a key has one document
  have key : targetKey g.files e.store p edge = target.key := by
    rw [targetKey_congr grown', ← targetKey_congr grown, look_key keyed looked]
  obtain ⟨other, e', again⟩ := exists_look key
  refine ⟨other, e', again, ?_⟩
  have same : other.key = target.key := by rw [← look_key keyed' again, key]
  cases target with
  | missing m =>
    cases other with
    | missing m' => rfl
    | found r reference => cases same
  | found r reference =>
    cases other with
    | missing m' => cases same
    | found r' reference' =>
      exact congrArg some
        (single.key (has.along later again) (has.along arises looked) (Except.ok.inj same))

end Graph

/-! ### Plain stores -/

/-- Whether an edge is given by a reference. -/
def ComponentEdge.isText : ComponentEdge → Bool
  | .reference _ | .positioned _ => true
  | .inline _ => false

theorem resolveAlone_eq_overlay {files : FileTree} {s : Store} {d : Descriptor}
    (none_ : allReferences d.doc = []) :
    resolveAlone files s d = overlay (fun _ => none) d := by
  rw [resolveAlone, resolveAlong_eq]
  apply overlay_congr
  intro reference mem
  rw [none_] at mem
  cases mem

theorem resolveAlone_key {files : FileTree} {s : Store} {d : Descriptor} :
    (resolveAlone files s d).key = d.key := resolveAlong_key

/-- What an edge given by a reference leads to is a descriptor of the store. -/
theorem holds_of_aim {files : FileTree} {s : Store} {c : Context} {parent : Resolved}
    {edge : ComponentEdge} {d : Descriptor} (sound : Sound files s 0 c) (text : edge.isText = true)
    (aimed : aim files c.store parent edge = .ok d) : s.Holds files d := by
  have loads : ∀ text, aim files c.store parent (.reference text) = .ok d → s.Holds files d := by
    intro text aimed
    unfold aim at aimed
    dsimp only at aimed
    split at aimed
    · cases aimed
    · rename_i reference
      rw [sound.grown.load_fst_eq, sound.faithful.load_eq] at aimed
      exact Store.holds_of_readReference aimed
  cases edge with
  | reference name => exact loads name aimed
  | positioned name => exact loads name aimed
  | inline doc => cases text

/-- **A bot of a plain store**: all edges are given by references, and each name is that of one
descriptor. -/
structure Graph.Plain (g : Graph) (s : Store) : Prop where
  plain : ∀ d, s.Holds g.files d → plainLists d.doc = true
  sound : Sound g.files s 0 g.context
  root : ∃ d, s.Holds g.files d ∧ g.root = resolveAlone g.files s d
  texts : ∀ d, s.Holds g.files d → ∀ node, nodeOf? (resolveAlone g.files s d) = some node →
    ∀ edge ∈ node.edges, edge.isText = true
  botTexts : ∀ edge ∈ g.bot.subsystems ++ g.bot.familyComponents, edge.isText = true
  names : ∀ d, s.Holds g.files d → ∀ e, s.Holds g.files e → ∀ name,
    g.Called (resolveAlone g.files s d) name → g.Called (resolveAlone g.files s e) name → d = e

/-- In a plain store what is found is what a descriptor resolves to, whatever has been looked at. -/
theorem Graph.Plain.found {g : Graph} {s : Store} (h : g.Plain s) {r : Resolved}
    (found : g.Found r) :
    ∃ d, s.Holds g.files d ∧ r = resolveAlone g.files s d := by
  have text : ∀ {p edge}, (∃ d, s.Holds g.files d ∧ p = resolveAlone g.files s d) →
      g.Edge p edge → edge.isText = true := by
    rintro p edge ⟨d, held, same⟩ has
    cases has with
    | own isNode mem => exact h.texts d held _ (same ▸ isNode) _ mem
    | subsystem mem => exact h.botTexts _ (List.mem_append_left _ mem)
    | family mem => exact h.botTexts _ (List.mem_append_right _ mem)
  have looks : ∀ {c c' p edge target}, Settled c → Sound g.files s 0 c → edge.isText = true →
      look g.files p edge c = .ok (target, c') → Sound g.files s 0 c' ∧
        ∀ r, target.doc? = some r → ∃ d, s.Holds g.files d ∧ r = resolveAlone g.files s d := by
    intro c c' p edge target settled sound text looked
    obtain ⟨c₁, extended, memory, ends⟩ := look_eq_ok looked
    have loaded := (sound.keeps (extended settled).grown memory.memo memory.cut).sound
    rcases ends with ⟨m, rfl, rfl, -⟩ | ⟨d, reference, rfl, rfl, aimed⟩
    · exact ⟨loaded, fun _ is => nomatch is⟩
    · have held := holds_of_aim sound text aimed
      obtain ⟨yields, later⟩ := resolve_sound h.plain held loaded
      refine ⟨later, fun r is => ⟨d, held, ?_⟩⟩
      rw [← yields]
      exact (Option.some.inj is).symm
  -- contexts and documents arise together: the former are sound, the latter resolved alone
  induction found using Found.rec (motive_1 := fun c _ => Sound g.files s 0 c) with
  | start => exact h.sound
  | @report c d _ ih =>
    have kept : Keeps g.files s 0 c (c.report d) := ih.keeps (Store.Grows.refl _ _) rfl rfl
    exact kept.sound
  | look arises _ has looked sound found =>
    exact (looks arises.sound.1 sound (text found has) looked).1
  | root => exact h.root
  | along arises _ has looked sound found =>
    exact (looks arises.sound.1 sound (text found has) looked).2 _ rfl

theorem Graph.Plain.single {g : Graph} {s : Store} (h : g.Plain s) : g.Single where
  key := by
    intro r r' found found' same
    obtain ⟨d, held, rfl⟩ := h.found found
    obtain ⟨e, held', rfl⟩ := h.found found'
    rw [resolveAlone_key, resolveAlone_key] at same
    rw [held.unique held' same]
  name := by
    intro r r' name found found' called called'
    obtain ⟨d, held, rfl⟩ := h.found found
    obtain ⟨e, held', rfl⟩ := h.found found'
    rw [h.names d held e held' name called called']

/-- The graph below a bot that has been resolved in a context in use. -/
def Graph.below {files : FileTree} {c : Context} {bot : BotRecord} (begun : InUse files c)
    (d : Descriptor) (isBot : botOf (c.resolve files d).1 = .ok bot) (heir : Resolved) : Graph where
  files
  context := (c.resolve files d).2
  root := (c.resolve files d).1
  bot
  heir
  settled := resolve_settled files c d
  keyed := resolve_keyed begun.keyed d
  isBot

/-- Whether a descriptor is of the simplest kind: it names no sources, its edges are given by
references, and it is named as its key is. -/
def isSimple (d : Descriptor) : Bool :=
  let r := overlay (fun _ => none) d
  plainLists d.doc && (allReferences d.doc).isEmpty && r.name == some d.key &&
    ((nodeOf? r).all fun node => node.edges.all ComponentEdge.isText) &&
    (botOf r).toOption.all fun bot =>
      (bot.subsystems ++ bot.familyComponents).all ComponentEdge.isText

/-- **In a store of such descriptors every key and every name belongs to a single document.** -/
theorem Graph.single_of_simple {files : FileTree} {s : Store} {c : Context} {d : Descriptor}
    {bot : BotRecord} (simple : ∀ e, s.Holds files e → isSimple e = true) (begun : InUse files c)
    (sound : Sound files s 0 c) (held : s.Holds files d)
    (isBot : botOf (c.resolve files d).1 = .ok bot) (heir : Resolved) :
    (Graph.below begun d isBot heir).Single := by
  have parts : ∀ e, s.Holds files e → plainLists e.doc = true ∧
      resolveAlone files s e = overlay (fun _ => none) e ∧
      (resolveAlone files s e).name = some e.key ∧
      (nodeOf? (resolveAlone files s e)).all (fun node => node.edges.all ComponentEdge.isText) =
        true ∧
      (botOf (resolveAlone files s e)).toOption.all (fun bot =>
        (bot.subsystems ++ bot.familyComponents).all ComponentEdge.isText) = true := by
    intro e held
    have simple := simple e held
    unfold isSimple at simple
    simp only [Bool.and_eq_true, List.isEmpty_iff, beq_iff_eq] at simple
    obtain ⟨⟨⟨⟨plain, none_⟩, named⟩, texts⟩, botTexts⟩ := simple
    rw [resolveAlone_eq_overlay none_]
    exact ⟨plain, rfl, named, texts, botTexts⟩
  have plain : ∀ e, s.Holds files e → plainLists e.doc = true := fun e held => (parts e held).1
  obtain ⟨yields, after⟩ := resolve_sound plain held sound
  -- the name that the root has from its key is the one that it declares
  have called : ∀ e, s.Holds files e → ∀ name,
      (Graph.below begun d isBot heir).Called (resolveAlone files s e) name → name = e.key := by
    rintro e held' name (named | ⟨is, rfl⟩)
    · rw [(parts e held').2.2.1] at named
      exact (Option.some.inj named).symm
    · have root : (Graph.below begun d isBot heir).root = resolveAlone files s d := yields
      rw [root] at is ⊢
      have same : d.key = e.key := by
        rw [← resolveAlone_key, ← is, resolveAlone_key]
      rw [rootName, (parts d held).2.2.1, ← same]
      rfl
  refine Graph.Plain.single (s := s) ⟨plain, after, ⟨d, held, yields⟩, ?_, ?_, ?_⟩
  · intro e held node isNode edge mem
    have texts := (parts e held).2.2.2.1
    rw [show nodeOf? (resolveAlone files s e) = some node from isNode, Option.all_some] at texts
    exact List.all_eq_true.mp texts edge mem
  · have texts := (parts d held).2.2.2.2
    rw [← yields, isBot] at texts
    exact List.all_eq_true.mp texts
  · intro e held e' held' name first second
    exact held.unique held' ((called e held name first).symm.trans (called e' held' name second))

end DispatchTables
