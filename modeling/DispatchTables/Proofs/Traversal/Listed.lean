import DispatchTables.Proofs.Inheritance.Placed
import DispatchTables.Proofs.Traversal.Edges

/-!
# Edges and the lists that they stand in

Every edge of a node or a bot has been read from an item of one of the lists of its document.  So
what is true of all items of these lists is true of the edges.

## Main Definitions

* `ComponentEdge.Listed`: an edge has been read from an item of a list of a document.

## Main Statements

* `listed_of_nodeOf`, `listed_of_botOf`: the edges of a node, and those of a bot, are listed in its
  document.
-/

namespace DispatchTables

variable {r : Resolved} {doc : Members} {edge : ComponentEdge} {node : NodeRecord} {bot : BotRecord}
  {m : String × Json}

/-- **An edge has been read from an item** of one of the lists of a document. -/
def ComponentEdge.Listed (doc : Members) (edge : ComponentEdge) : Prop :=
  ∃ key ∈ edgeKeys, ∃ items, (key, Json.array items) ∈ doc ∧
    ∃ item ∈ items, ComponentEdge.decode item = .ok edge

theorem exists_of_mapM_decode {items : List Json} {edges : List ComponentEdge}
    (h : items.mapM ComponentEdge.decode = .ok edges) :
    ∀ edge ∈ edges, ∃ item ∈ items, ComponentEdge.decode item = .ok edge := by
  induction items generalizing edges with
  | nil =>
    cases h
    exact nofun
  | cons item rest ih =>
    rw [List.mapM_cons] at h
    obtain ⟨first, read, h⟩ := bind_eq_ok h
    obtain ⟨others, later, h⟩ := bind_eq_ok h
    cases h
    refine List.forall_mem_cons.mpr ⟨⟨item, List.mem_cons_self, read⟩, fun edge mem => ?_⟩
    obtain ⟨other, inRest, same⟩ := ih later edge mem
    exact ⟨other, List.mem_cons_of_mem _ inRest, same⟩

/-- The edges under a member are listed. -/
theorem listed_of_decode_list {edges : List ComponentEdge} (mem : m ∈ doc) (lists : m.1 ∈ edgeKeys)
    (h : ComponentEdge.decode.list m.2 = .ok edges) : ∀ edge ∈ edges, edge.Listed doc := by
  obtain ⟨key, value⟩ := m
  cases value with
  | array items =>
    intro edge inEdges
    exact ⟨key, lists, items, mem, exists_of_mapM_decode h edge inEdges⟩
  | _ => cases h

/-- What an edge has in place is in place in the document. -/
theorem ComponentEdge.Listed.mem_componentsIn {x : Members}
    (h : (ComponentEdge.inline x).Listed doc) : x ∈ componentsIn doc := by
  obtain ⟨key, lists, items, inDoc, item, mem, read⟩ := h
  unfold decode at read
  split at read
  · cases read
  · split at read
    · cases read
    · rename_i inner _ _
      cases read
      have stands : x ∈ (Json.object x).placed := List.mem_cons_self
      exact mem_componentsIn_iff.mpr
        ⟨_, inDoc, lists, Json.mem_placedList_iff.mpr ⟨items, rfl, _, mem, stands⟩⟩
  · cases read

/-! ### Records -/

/-- The components of a node are listed in a document. -/
structure NodeRecord.Listed (doc : Members) (n : NodeRecord) : Prop where
  components : ∀ edge ∈ n.components, edge.Listed doc
  positioned : ∀ edge ∈ n.positionedComponents, edge.Listed doc

theorem NodeRecord.Listed.childEdges (h : node.Listed doc) :
    ∀ edge ∈ node.childEdges, edge.Listed doc := by
  intro edge mem
  exact (List.mem_append.mp mem).elim (h.components edge) (h.positioned edge)

theorem NodeRecord.listed_set {n n' : NodeRecord} (mem : m ∈ doc) (h : n.Listed doc)
    (put : n.set m.1 m.2 = .ok n') : n'.Listed doc := by
  have lists {edges : List ComponentEdge} (key : m.1 ∈ edgeKeys)
      (read : ComponentEdge.decode.list m.2 = .ok edges) : ∀ edge ∈ edges, edge.Listed doc :=
    listed_of_decode_list mem key read
  unfold NodeRecord.set at put
  split at put
  · rename_i named
    obtain ⟨edges, read, put⟩ := bind_eq_ok put
    cases put
    exact ⟨lists (named ▸ by decide) read, h.positioned⟩
  · rename_i named
    obtain ⟨edges, read, put⟩ := bind_eq_ok put
    cases put
    exact ⟨h.components, lists (named ▸ by decide) read⟩
  case h_10 =>
    cases put
    exact h
  all_goals
    obtain ⟨_, -, put⟩ := bind_eq_ok put
    cases put
    exact ⟨h.components, h.positioned⟩

theorem NodeRecord.listed_of_ofDocument (read : NodeRecord.ofDocument doc = .ok node) :
    node.Listed doc := by
  obtain ⟨n, fields, same⟩ := bind_eq_ok read
  cases same
  have start : NodeRecord.Listed doc {} := ⟨nofun, nofun⟩
  have h : n.Listed doc :=
    fields_keeps (fun m mem _ _ h put => NodeRecord.listed_set mem h put) start fields
  exact ⟨h.components, h.positioned⟩

/-- The subsystems and the family's components of a bot are listed in a document. -/
structure BotRecord.Fields.Listed (doc : Members) (f : BotRecord.Fields) : Prop where
  assemblies : ∀ edge ∈ f.assemblies, edge.Listed doc
  subsystems : ∀ edge ∈ f.subsystems, edge.Listed doc
  family : ∀ edge ∈ f.familyComponents, edge.Listed doc

theorem BotRecord.listed_set {f f' : BotRecord.Fields} (mem : m ∈ doc) (h : f.Listed doc)
    (put : f.set m.1 m.2 = .ok f') : f'.Listed doc := by
  have lists {edges : List ComponentEdge} (key : m.1 ∈ edgeKeys)
      (read : ComponentEdge.decode.list m.2 = .ok edges) : ∀ edge ∈ edges, edge.Listed doc :=
    listed_of_decode_list mem key read
  unfold BotRecord.Fields.set at put
  split at put
  · rename_i named
    obtain ⟨edges, read, put⟩ := bind_eq_ok put
    cases put
    exact ⟨lists (named ▸ by decide) read, h.subsystems, h.family⟩
  · rename_i named
    obtain ⟨edges, read, put⟩ := bind_eq_ok put
    cases put
    exact ⟨h.assemblies, lists (named ▸ by decide) read, h.family⟩
  · rename_i named
    obtain ⟨edges, read, put⟩ := bind_eq_ok put
    cases put
    exact ⟨h.assemblies, h.subsystems, lists (named ▸ by decide) read⟩
  · obtain ⟨_, -, put⟩ := bind_eq_ok put
    cases put
    exact ⟨h.assemblies, h.subsystems, h.family⟩
  · cases put
    exact h

/-- All edges of a bot are listed in a document. -/
structure BotRecord.Listed (doc : Members) (bot : BotRecord) : Prop where
  node : bot.node.Listed doc
  subsystems : ∀ edge ∈ bot.subsystems, edge.Listed doc
  family : ∀ edge ∈ bot.familyComponents, edge.Listed doc

theorem BotRecord.listed_of_ofDocument (read : BotRecord.ofDocument doc = .ok bot) :
    bot.Listed doc := by
  obtain ⟨node, isNode, read⟩ := bind_eq_ok read
  obtain ⟨own, fields, same⟩ := bind_eq_ok read
  cases same
  have start : BotRecord.Fields.Listed doc {} := ⟨nofun, nofun, nofun⟩
  have h : own.Listed doc :=
    fields_keeps (fun m mem _ _ h put => BotRecord.listed_set mem h put) start fields
  refine ⟨NodeRecord.listed_of_ofDocument isNode, ?_, h.family⟩
  intro edge mem
  exact (List.mem_append.mp mem).elim (h.assemblies edge) (h.subsystems edge)

/-- **The edges of a node are listed in its document.** -/
theorem listed_of_nodeOf (isNode : nodeOf? r = some node) : node.Listed r.doc :=
  NodeRecord.listed_of_ofDocument (ofDocument_of_nodeOf? isNode)

/-- **The edges of a bot are listed in its document.** -/
theorem listed_of_botOf (isBot : botOf r = .ok bot) : bot.Listed r.doc := by
  unfold botOf at isBot
  split at isBot
  · cases isBot
  · rename_i own read
    cases isBot
    obtain ⟨-, _, same, -⟩ | ⟨-, _, same, own⟩ | ⟨_, same, -⟩ := Record.ofDocument_eq_ok read
    all_goals cases same
    exact BotRecord.listed_of_ofDocument own
  · rename_i kind node read
    cases isBot
    have isNode : nodeOf? r = some node := by
      unfold nodeOf?
      rw [read]
      rfl
    exact ⟨listed_of_nodeOf isNode, nofun, nofun⟩
  · cases isBot

end DispatchTables
