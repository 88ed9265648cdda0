import DispatchTables.Inheritance.Resolver
import DispatchTables.Proofs.Store.Growth
import Mathlib.Data.List.Basic
import Mathlib.Logic.Relation

/-!
# Resolving without memory

A descriptor is resolved by laying it over its sources, and they over theirs.  Said without memory,
warnings or cuts, this is a recursion along the path of keys that are being resolved: a source that
is on the path already is passed over, so the path grows within the keys of the store and the
recursion ends.

## Main Definitions

* `overlay`: a descriptor over what each of its references yields.
* `resolveAlong`, `resolveAlone`: the recursion, along a path and from the start.
* `BuildsOn`: one descriptor names another as a source.
* `plainLists`: no object in a component list names sources of its own.

## Main Statements

* `resolveAlong_congr`: of the path, only what can be built on matters.
* `listsAll_resolveAlong`: what is resolved has lists of the items that the sources have in theirs.
-/

namespace DispatchTables

/-! ### One layer -/

/-- The sources that a document names under one key; none under a value of another shape. -/
def referencesUnder (doc : Members) (key : String) : List String :=
  ((doc.get? key).bind references?).getD []

/-- The sources that a document names, in the order they apply. -/
def allReferences (doc : Members) : List String := inheritanceKeys.flatMap (referencesUnder doc)

/-- Whether an inheritance key is used up: it names sources, and all of them can be had. -/
def usedUp (source : String → Option Resolved) (doc : Members) (key : String) : Bool :=
  match (doc.get? key).bind references? with
  | some references => references.all fun reference => (source reference).isSome
  | none => false

section

variable {source : String → Option Resolved} {doc : Members} {key : String}
  {references : List String}

theorem referencesUnder_of_none (h : (doc.get? key).bind references? = none) :
    referencesUnder doc key = [] := by
  rw [referencesUnder, h]
  rfl

theorem referencesUnder_of_some (h : (doc.get? key).bind references? = some references) :
    referencesUnder doc key = references := by
  rw [referencesUnder, h]
  rfl

theorem usedUp_of_none (h : (doc.get? key).bind references? = none) :
    usedUp source doc key = false := by
  rw [usedUp, h]

theorem usedUp_of_some (h : (doc.get? key).bind references? = some references) :
    usedUp source doc key = references.all fun reference => (source reference).isSome := by
  rw [usedUp, h]

end

/-- A document without some keys, as far as they are used up. -/
def withoutUsed (source : String → Option Resolved) (keys : List String) (doc own : Members) :
    Members :=
  own.filter fun m => !(keys.contains m.1 && usedUp source doc m.1)

/-- Sources laid over one another and over what is below them. -/
def layeredOn (below : Members) (applied : List Resolved) : Members :=
  applied.foldl (fun below r => merge below (inheritable r.doc)) below

/-- The log of some sources: for each, what went into it and then its key. -/
def logOf (applied : List Resolved) : List String := applied.flatMap fun r => r.log ++ [r.key]

/-- **A descriptor over its sources**, given what each reference yields. -/
def overlay (source : String → Option Resolved) (d : Descriptor) : Resolved :=
  let applied := (allReferences d.doc).filterMap source
  let own := withoutUsed source inheritanceKeys d.doc d.doc
  ⟨d.key, d.path, d.kind, withLog (merge (layeredOn [] applied) own) (logOf applied),
    logOf applied⟩

/-- Of the sources, only what the document's own references yield matters. -/
theorem overlay_congr {source other : String → Option Resolved} {d : Descriptor}
    (same : ∀ reference ∈ allReferences d.doc, source reference = other reference) :
    overlay source d = overlay other d := by
  have applied : (allReferences d.doc).filterMap source = (allReferences d.doc).filterMap other :=
    List.filterMap_congr same
  have used : ∀ key ∈ inheritanceKeys, usedUp source d.doc key = usedUp other d.doc key := by
    intro key mem
    unfold usedUp
    cases named : (d.doc.get? key).bind references? with
    | none => rfl
    | some references =>
      have within : ∀ reference ∈ references, reference ∈ allReferences d.doc := by
        intro reference hr
        refine List.mem_flatMap.mpr ⟨key, mem, ?_⟩
        rw [referencesUnder, named]
        exact hr
      rw [Bool.eq_iff_iff]
      simp only [List.all_eq_true]
      constructor
      · intro all reference hr
        rw [← same reference (within reference hr)]
        exact all reference hr
      · intro all reference hr
        rw [same reference (within reference hr)]
        exact all reference hr
  have own : withoutUsed source inheritanceKeys d.doc d.doc =
      withoutUsed other inheritanceKeys d.doc d.doc := by
    apply List.filter_congr
    intro m _
    by_cases mem : m.1 ∈ inheritanceKeys
    · rw [used m.1 mem]
    · simp [mem]
  simp only [overlay, applied, own]

/-! ### The recursion -/

/-- The number of keys of the store that are not on a path. -/
def keysLeft (s : Store) (path : List String) : Nat :=
  (s.keys.filter fun key => !path.contains key).length

/-- When the key of something joins a path, less is left off the path. -/
theorem length_filter_append_lt {α : Type} {items : List α} {key : α → String} {path : List String}
    {item : α} (mem : item ∈ items) (off : key item ∉ path) :
    (items.filter fun other => !(path ++ [key item]).contains (key other)).length <
      (items.filter fun other => !path.contains (key other)).length := by
  have fewer : (items.filter fun other => !(path ++ [key item]).contains (key other)) =
      (items.filter fun other => !path.contains (key other)).filter
        fun other => key other != key item := by
    rw [List.filter_filter]
    apply List.filter_congr
    intro other _
    simp [bne, Bool.beq_eq_decide_eq, Bool.and_comm]
  rw [fewer]
  refine List.length_filter_lt_length_iff_exists.mpr ⟨item, ?_, by simp⟩
  simpa using ⟨mem, off⟩

/-- A key of the store that joins the path leaves those that are not on it. -/
theorem keysLeft_lt {s : Store} {path : List String} {key : String} (mem : key ∈ s.keys)
    (offPath : key ∉ path) : keysLeft s (path ++ [key]) < keysLeft s path :=
  @length_filter_append_lt _ _ id _ _ mem offPath

/-- The source that a reference names, unless it is on the path. -/
def offPath? (files : FileTree) (s : Store) (path : List String) (reference : String) :
    Option { parent : Descriptor // s.Holds files parent ∧ parent.key ∉ path } :=
  match found : s.readReference files reference with
  | .error _ => none
  | .ok parent =>
    if onPath : parent.key ∈ path then none
    else some ⟨parent, Store.holds_of_readReference found, onPath⟩

/-- **A descriptor resolved without memory**, along the path of keys being resolved; its own key is
the last of them.  A source on the path is passed over. -/
def resolveAlong (files : FileTree) (s : Store) (path : List String) (d : Descriptor) : Resolved :=
  overlay (fun reference => (offPath? files s path reference).map fun ⟨parent, _⟩ =>
    resolveAlong files s (path ++ [parent.key]) parent) d
termination_by keysLeft s path
decreasing_by
  rename_i fresh
  exact keysLeft_lt fresh.1.mem_keys fresh.2

/-- A descriptor resolved without memory. -/
def resolveAlone (files : FileTree) (s : Store) (d : Descriptor) : Resolved :=
  resolveAlong files s [d.key] d

/-- What a reference yields along a path. -/
def sourceAlong (files : FileTree) (s : Store) (path : List String) (reference : String) :
    Option Resolved :=
  match s.readReference files reference with
  | .error _ => none
  | .ok parent =>
    if parent.key ∈ path then none else some (resolveAlong files s (path ++ [parent.key]) parent)

variable {files : FileTree} {s : Store} {path : List String} {d e : Descriptor}

theorem resolveAlong_eq : resolveAlong files s path d = overlay (sourceAlong files s path) d := by
  rw [resolveAlong]
  apply overlay_congr
  intro reference _
  unfold sourceAlong offPath?
  split <;> rename_i found
  · simp only [found, Option.map_none]
  · rename_i parent
    simp only [found]
    split <;> rfl

theorem resolveAlong_key : (resolveAlong files s path d).key = d.key := by
  rw [resolveAlong_eq]
  rfl

/-! ### Building on sources -/

/-- One descriptor names another as a source. -/
def BuildsOn (files : FileTree) (s : Store) (d e : Descriptor) : Prop :=
  ∃ reference ∈ allReferences d.doc, s.readReference files reference = .ok e

theorem BuildsOn.holds (h : BuildsOn files s d e) : s.Holds files e := by
  obtain ⟨_, -, read⟩ := h
  exact Store.holds_of_readReference read

theorem holds_of_transGen (h : Relation.TransGen (BuildsOn files s) d e) : s.Holds files e := by
  cases h with
  | single edge => exact edge.holds
  | tail _ edge => exact edge.holds

/-- **Of the path, only what can be built on matters.** -/
theorem resolveAlong_congr {path other : List String} {d : Descriptor}
    (same : ∀ e, Relation.TransGen (BuildsOn files s) d e → (e.key ∈ path ↔ e.key ∈ other)) :
    resolveAlong files s path d = resolveAlong files s other d := by
  induction left : keysLeft s path using Nat.strongRecOn generalizing path other d with
  | _ n ih =>
    rw [resolveAlong_eq, resolveAlong_eq]
    apply overlay_congr
    intro reference mem
    unfold sourceAlong
    cases read : s.readReference files reference with
    | error e => rfl
    | ok parent =>
      have edge : BuildsOn files s d parent := ⟨reference, mem, read⟩
      have placed := same parent (.single edge)
      by_cases onPath : parent.key ∈ path
      · simp only [onPath, placed.mp onPath, if_true]
      · have offPath : parent.key ∉ other := fun h => onPath (placed.mpr h)
        -- the parent's key joins both paths, so they agree on what it builds on
        have fewer := keysLeft_lt edge.holds.mem_keys onPath
        simp only [onPath, offPath, if_false]
        refine congrArg some (ih _ (by omega) ?_ rfl)
        intro e reached
        simp only [List.mem_append, List.mem_singleton, same e (.head edge reached)]

/-! ### Lists of a document -/

/-- Whether the items of a list, if a value is one, all fit. -/
def itemsAll (fits : Json → Bool) : Json → Bool
  | .array items => items.all fits
  | _ => true

/-- Whether the items of the lists under some keys of a document all fit. -/
def listsAll (keys : List String) (fits : Json → Bool) (doc : Members) : Bool :=
  doc.all fun m => !keys.contains m.1 || itemsAll fits m.2

section

variable {keys : List String} {fits : Json → Bool} {doc below above : Members}

theorem listsAll_iff :
    listsAll keys fits doc = true ↔ ∀ m ∈ doc, m.1 ∈ keys → itemsAll fits m.2 = true := by
  simp only [listsAll, List.all_eq_true, Bool.or_eq_true, Bool.not_eq_true',
    List.contains_eq_mem, decide_eq_false_iff_not, imp_iff_not_or]

theorem listsAll_insert {key : String} {value : Json} (all : listsAll keys fits doc = true)
    (h : key ∈ keys → itemsAll fits value = true) :
    listsAll keys fits (doc.insert key value) = true := by
  rw [listsAll_iff] at all ⊢
  intro m mem list
  rcases Members.mem_insert mem with rfl | old
  · exact h list
  · exact all m old list

theorem listsAll_filter (keep : String × Json → Bool) (all : listsAll keys fits doc = true) :
    listsAll keys fits (doc.filter keep) = true := by
  rw [listsAll_iff] at all ⊢
  exact fun m mem list => all m (List.mem_filter.mp mem).1 list

theorem all_distinctAfter {kept items : List Json} (hk : kept.all fits = true)
    (hi : items.all fits = true) : (distinctAfter kept items).all fits = true := by
  induction items generalizing kept with
  | nil => exact hk
  | cons item rest ih =>
    rw [List.all_cons, Bool.and_eq_true] at hi
    rw [distinctAfter]
    split
    · exact ih hk hi.2
    · refine ih ?_ hi.2
      rw [List.all_append, hk, List.all_cons, hi.1]
      rfl

theorem itemsAll_mergeValue {key : String} {low high : Json} (hl : itemsAll fits low = true)
    (hh : itemsAll fits high = true) : itemsAll fits (mergeValue key low high) = true := by
  unfold mergeValue
  split
  · rfl
  · split
    · refine all_distinctAfter rfl ?_
      rw [List.all_append]
      simp only [itemsAll] at hl hh
      rw [hl, hh]
      rfl
    · exact hh
  · exact hh

theorem listsAll_merge (hb : listsAll keys fits below = true)
    (ha : listsAll keys fits above = true) : listsAll keys fits (merge below above) = true := by
  induction above generalizing below with
  | nil => rw [merge]; exact hb
  | cons m rest ih =>
    obtain ⟨key, value⟩ := m
    rw [listsAll_iff] at ha
    have tail : listsAll keys fits rest = true :=
      listsAll_iff.mpr fun m mem => ha m (List.mem_cons_of_mem _ mem)
    rw [merge]
    refine ih (listsAll_insert hb ?_) tail
    intro list
    have new := ha _ List.mem_cons_self list
    split
    · rename_i old found
      exact itemsAll_mergeValue (listsAll_iff.mp hb _ (Members.mem_of_get? found) list) new
    · exact new

theorem listsAll_withLog (log : List String) (other : logKey ∉ keys)
    (h : listsAll keys fits doc = true) : listsAll keys fits (withLog doc log) = true := by
  unfold withLog
  split
  · exact h
  · exact listsAll_insert h fun list => absurd list other

theorem listsAll_layeredOn {applied : List Resolved} (hb : listsAll keys fits below = true)
    (ha : ∀ r ∈ applied, listsAll keys fits r.doc = true) :
    listsAll keys fits (layeredOn below applied) = true := by
  induction applied generalizing below with
  | nil => exact hb
  | cons r rest ih =>
    refine ih (listsAll_merge hb ?_) fun r mem => ha r (List.mem_cons_of_mem _ mem)
    exact listsAll_filter _ (ha r List.mem_cons_self)

/-- What is laid over sources has lists of the items that fit, if they have and it has itself. -/
theorem listsAll_laid {source : String → Option Resolved} (own : listsAll keys fits d.doc = true)
    (sources : ∀ reference r, source reference = some r → listsAll keys fits r.doc = true) :
    listsAll keys fits (merge (layeredOn [] ((allReferences d.doc).filterMap source))
      (withoutUsed source inheritanceKeys d.doc d.doc)) = true := by
  refine listsAll_merge (listsAll_layeredOn rfl ?_) (listsAll_filter _ own)
  intro r mem
  obtain ⟨reference, -, yields⟩ := List.mem_filterMap.mp mem
  exact sources reference r yields

/-- **What is resolved from documents with lists of items that fit** has such lists. -/
theorem listsAll_resolveAlong (other : logKey ∉ keys)
    (held : ∀ e, s.Holds files e → listsAll keys fits e.doc = true)
    (own : listsAll keys fits d.doc = true) :
    listsAll keys fits (resolveAlong files s path d).doc = true := by
  induction left : keysLeft s path using Nat.strongRecOn generalizing path d with
  | _ n ih =>
    rw [resolveAlong_eq]
    refine listsAll_withLog _ other (listsAll_laid own ?_)
    intro reference r yields
    unfold sourceAlong at yields
    cases read : s.readReference files reference with
    | error e => rw [read] at yields; cases yields
    | ok parent =>
      have there := Store.holds_of_readReference read
      simp only [read] at yields
      split at yields
      · cases yields
      · rename_i offPath
        have fewer := keysLeft_lt there.mem_keys offPath
        cases yields
        exact ih _ (by omega) (held parent there) rfl

end

/-! ### Plain documents -/

/-- Whether an item of a component list is no object that names sources of its own. -/
def plainItem : Json → Bool
  | .object inner => !inherits inner
  | _ => true

/-- Whether the items of a list, if a value is one, name no sources. -/
def plainValue : Json → Bool
  | .array items => items.all plainItem
  | _ => true

/-- **Whether no object in a component list of a document names sources of its own.** -/
def plainLists (doc : Members) : Bool :=
  doc.all fun m => !componentListKeys.contains m.1 || plainValue m.2

theorem plainLists_eq_listsAll (doc : Members) :
    plainLists doc = listsAll componentListKeys plainItem doc := by
  have same : plainValue = itemsAll plainItem := by
    funext value
    cases value <;> rfl
  rw [plainLists, same, listsAll]

theorem plainLists_iff {doc : Members} :
    plainLists doc = true ↔
      ∀ m ∈ doc, m.1 ∈ componentListKeys → plainValue m.2 = true := by
  simp only [plainLists, List.all_eq_true, Bool.or_eq_true, Bool.not_eq_true',
    List.contains_eq_mem, decide_eq_false_iff_not, imp_iff_not_or]

/-- What is laid over plain sources is plain. -/
theorem plainLists_laid {source : String → Option Resolved} {d : Descriptor}
    (own : plainLists d.doc = true)
    (sources : ∀ reference r, source reference = some r → plainLists r.doc = true) :
    plainLists (merge (layeredOn [] ((allReferences d.doc).filterMap source))
      (withoutUsed source inheritanceKeys d.doc d.doc)) = true := by
  simp only [plainLists_eq_listsAll] at own sources ⊢
  exact listsAll_laid own sources

/-- **What is resolved from plain documents is plain.** -/
theorem plainLists_sourceAlong (plain : ∀ e, s.Holds files e → plainLists e.doc = true)
    (path : List String) (reference : String) (r : Resolved)
    (yields : sourceAlong files s path reference = some r) : plainLists r.doc = true := by
  simp only [plainLists_eq_listsAll] at plain ⊢
  unfold sourceAlong at yields
  cases read : s.readReference files reference with
  | error e => rw [read] at yields; cases yields
  | ok parent =>
    simp only [read] at yields
    split at yields
    · cases yields
    · cases yields
      exact listsAll_resolveAlong (by decide) plain
        (plain parent (Store.holds_of_readReference read))

end DispatchTables
