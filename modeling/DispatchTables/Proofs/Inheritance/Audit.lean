import DispatchTables.Proofs.Inheritance.Layers

/-!
# What the log explains

The log of a resolved document lists the keys of what has been applied to it, each after what went
into it itself.  Read as a list of documents, with the document itself at the end, it explains what
has come out: a key is there if one of these documents has it, and the last that has it says what
stands there.

A source goes into others as it has been resolved, with all its sources merged already, and may do
so by several ways; a cycle is cut at different places along different ways.  So the list may hold
an ancestor many times, and not always with all that is below it.  This does no harm, because the
last document of a list alone decides, and the lists are put one after the other in the order in
which what they explain is laid.

## Main Definitions

* `passedOn`: the keys that a document passes on.
* `Store.documents`: the documents of the store under some keys.
* `lastUnder`: what the last of some documents that has a key says there.
* `Explains`: some documents tell, key by key, what another one says.
* `LaidOver`: how a resolved document lies over what some documents explain.

## Main Statements

* `Explains.merge`: what is laid over an explained document adds to the explanation.
* `Built.laidOver`: what is built lies over what its log explains.
* `resolve_explained`: every resolved document is explained by its log.
-/

namespace DispatchTables

variable {files : FileTree} {s : Store} {d : Descriptor} {r : Resolved} {c : Context}
  {key : String} {value : Json} {doc doc' below above : Members} {layers more : List Members}

theorem eq_some_string {found : Option Json} {text : String}
    (h : found.bind Json.asString? = some text) : found = some (.string text) := by
  obtain ⟨value, rfl, said⟩ := Option.bind_eq_some_iff.mp h
  cases value with
  | string other => rw [Json.asString?, Option.some.injEq] at said; rw [said]
  | _ => cases said

/-! ### Layers -/

/-- Whether a document passes on what it says under a key. -/
def passedOn (key : String) : Bool :=
  !identityKeys.contains key && !inheritanceKeys.contains key && key != logKey

/-- The documents of the store under some keys. -/
def Store.documents (files : FileTree) (s : Store) (keys : List String) : List Members :=
  keys.filterMap fun key => (s.readKey files key).toOption.map (·.doc)

/-- What the last of some documents that has a key says there. -/
def lastUnder (layers : List Members) (key : String) : Option Json :=
  (layers.filterMap (·.get? key)).getLast?

/-- **Some documents explain another one**: under each key that is passed on, it says what the last
of them that has the key says, and nothing if none has. -/
def Explains (layers : List Members) (doc : Members) : Prop :=
  ∀ key, passedOn key = true → Option.Rel (StandsAs key) (lastUnder layers key) (doc.get? key)

theorem get?_inheritable (doc : Members) (key : String) :
    (inheritable doc).get? key = if passedOn key then doc.get? key else none :=
  Members.get?_filter doc passedOn key

theorem not_mem_inheritanceKeys_of_passedOn (h : passedOn key = true) : key ∉ inheritanceKeys := by
  intro mem
  simp [passedOn, mem] at h

theorem ne_logKey_of_passedOn (h : passedOn key = true) : logKey ≠ key := by
  rintro rfl
  simp [passedOn] at h

theorem lastUnder_append (layers more : List Members) (key : String) :
    lastUnder (layers ++ more) key = (lastUnder more key).or (lastUnder layers key) := by
  rw [lastUnder, List.filterMap_append, List.getLast?_append]
  rfl

theorem lastUnder_singleton (doc : Members) (key : String) :
    lastUnder [doc] key = doc.get? key := by
  unfold lastUnder
  cases said : doc.get? key <;> simp [said]

/-- Something is said last if it is said at all. -/
theorem isSome_lastUnder (layers : List Members) (key : String) :
    (lastUnder layers key).isSome = true ↔ ∃ layer ∈ layers, layer.has key = true := by
  rw [lastUnder, List.getLast?_isSome, ne_eq, List.filterMap_eq_nil_iff]
  simp [Members.has, Option.isSome_iff_ne_none]

theorem Store.documents_append (files : FileTree) (s : Store) (keys others : List String) :
    s.documents files (keys ++ others) = s.documents files keys ++ s.documents files others :=
  List.filterMap_append

theorem Store.Holds.documents (h : s.Holds files d) : s.documents files [d.key] = [d.doc] := by
  simp [Store.documents, Store.readKey_eq_ok_iff.mpr ⟨rfl, h⟩, Except.toOption]

/-! ### Explanations -/

theorem explains_nil : Explains [] [] := fun _ _ => .none

theorem explains_singleton (doc : Members) : Explains [doc] doc := by
  intro key _
  rw [lastUnder_singleton]
  cases doc.get? key with
  | none => exact .none
  | some value => exact .some (.same value)

theorem Explains.congr (h : Explains layers doc)
    (same : ∀ key, passedOn key = true → doc'.get? key = doc.get? key) : Explains layers doc' := by
  intro key passed
  rw [same key passed]
  exact h key passed

/-- **What is laid over an explained document adds to the explanation.** -/
theorem Explains.merge (h : Explains layers below) (h' : Explains more above)
    (distinct : above.keys.Nodup) : Explains (layers ++ more) (merge below above) := by
  intro key passed
  have lower := h key passed
  have upper := h' key passed
  rw [lastUnder_append, get?_merge distinct]
  generalize lastUnder more key = last at upper
  generalize above.get? key = said at upper
  cases upper with
  | none => exact lower
  | some stands => exact .some (stands.trans (standsAs_valueOver key _ _))

theorem Explains.inPlace (h : Explains layers doc) (changed : InPlace doc doc') :
    Explains layers doc' := by
  intro key passed
  have before := h key passed
  have after := changed.get? key
  generalize lastUnder layers key = last at before
  generalize doc.get? key = said at before after
  generalize doc'.get? key = said' at after
  cases before with
  | none =>
    cases after
    exact .none
  | some stands =>
    cases after with
    | some inPlace => exact .some (stands.trans inPlace.standsAs)

theorem get?_withLog_of_ne (other : logKey ≠ key) (doc : Members) (log : List String) :
    (withLog doc log).get? key = doc.get? key := by
  unfold withLog
  split
  · rfl
  · rw [Members.get?_insert, if_neg other]

theorem Explains.withLog (h : Explains layers doc) (log : List String) :
    Explains layers (withLog doc log) :=
  h.congr fun _ passed => get?_withLog_of_ne (ne_logKey_of_passedOn passed) doc log

/-- What an explained document says where nothing is taken up from below. -/
theorem Explains.get?_eq (h : Explains layers doc) (passed : passedOn key = true)
    (last : lastUnder layers key = some value) (plain : mixes key value = false) :
    doc.get? key = some value := by
  have said := h key passed
  rw [last] at said
  generalize doc.get? key = there at said ⊢
  cases said with
  | some stands => rw [stands.eq plain]

/-- An explained document has just the keys that are passed on to it. -/
theorem Explains.has_iff (h : Explains layers doc) (passed : passedOn key = true) :
    doc.has key = true ↔ ∃ layer ∈ layers, layer.has key = true := by
  have said := h key passed
  rw [← isSome_lastUnder, Members.has]
  generalize lastUnder layers key = last at said ⊢
  generalize doc.get? key = there at said ⊢
  cases said <;> simp

/-! ### How documents were built -/

theorem nodup_keys_layeredOn (applied : List Resolved) (distinct : below.keys.Nodup) :
    (layeredOn below applied).keys.Nodup := by
  induction applied generalizing below with
  | nil => exact distinct
  | cons r rest ih => exact ih (nodup_keys_merge distinct)

/-- A resolved document has each key once. -/
theorem Built.nodup (h : Built files s d r) : r.doc.keys.Nodup := by
  cases h with
  | @laid d own doc log sources held built strips inPlace logged =>
    have laid : doc.keys.Nodup := by
      rw [inPlace.keys]
      exact nodup_keys_merge (nodup_keys_layeredOn _ List.nodup_nil)
    unfold withLog
    dsimp only
    split
    · exact laid
    · exact Members.nodup_keys_insert laid _ _

/-- Every key in the log is that of a descriptor of the store. -/
theorem Built.held_of_mem_log (h : Built files s d r) :
    ∀ key ∈ r.log, ∃ e, s.Holds files e ∧ e.key = key := by
  induction h with
  | laid sources held built strips inPlace log ih =>
    subst log
    intro key mem
    obtain ⟨applied, map, mem⟩ := List.mem_flatMap.mp mem
    obtain ⟨source, among, rfl⟩ := List.mem_map.mp map
    rcases List.mem_append.mp mem with deeper | here
    · exact ih source among key deeper
    · rw [List.mem_singleton.mp here, (built source among).key]
      exact ⟨source.1, held source among, rfl⟩

/-- Sources that are explained one by one are explained together, by what their log lists. -/
theorem explains_layeredOn {sources : List (Descriptor × Resolved)}
    (distinct : ∀ source ∈ sources, source.2.doc.keys.Nodup)
    (each : ∀ source ∈ sources,
      Explains (s.documents files (source.2.log ++ [source.2.key])) source.2.doc)
    (h : Explains layers below) :
    Explains (layers ++ s.documents files (logOf (sources.map (·.2))))
      (layeredOn below (sources.map (·.2))) := by
  induction sources generalizing layers below with
  | nil => simpa [logOf, layeredOn, Store.documents] using h
  | cons source rest ih =>
    have passed : Explains (s.documents files (source.2.log ++ [source.2.key]))
        (inheritable source.2.doc) :=
      (each source List.mem_cons_self).congr fun key passed => by
        rw [get?_inheritable, if_pos passed]
    have distinct' : (inheritable source.2.doc).keys.Nodup :=
      (distinct source List.mem_cons_self).sublist (List.filter_sublist.map _)
    have later := ih (fun other mem => distinct other (List.mem_cons_of_mem _ mem))
      (fun other mem => each other (List.mem_cons_of_mem _ mem)) (h.merge passed distinct')
    rw [List.append_assoc, ← Store.documents_append] at later
    exact later

/-- Sources say nothing under the keys that are not passed on. -/
theorem get?_layeredOn_eq_none {applied : List Resolved}
    (distinct : ∀ r ∈ applied, r.doc.keys.Nodup) (withheld : passedOn key = false)
    (nothing : below.get? key = none) : (layeredOn below applied).get? key = none := by
  induction applied generalizing below with
  | nil => exact nothing
  | cons r rest ih =>
    refine ih (fun other mem => distinct other (List.mem_cons_of_mem _ mem)) ?_
    have distinct' : (inheritable r.doc).keys.Nodup :=
      (distinct r List.mem_cons_self).sublist (List.filter_sublist.map _)
    have missing : (inheritable r.doc).get? key = none := by
      rw [get?_inheritable, withheld]
      rfl
    rw [get?_merge_of_none distinct' missing, nothing]

/-- **How a resolved document lies over what some documents explain**: what is below says nothing
under the keys that are not passed on. -/
inductive LaidOver (layers : List Members) (d : Descriptor) : Resolved → Prop where
  | laid {below own doc : Members} {log : List String} : Explains layers below →
      (∀ key, passedOn key = false → below.get? key = none) → Strips d.doc own →
      InPlace (merge below own) doc →
      LaidOver layers d ⟨d.key, d.path, d.kind, withLog doc log, log⟩

theorem LaidOver.explains (h : LaidOver layers d r) (distinct : d.doc.keys.Nodup) :
    Explains (layers ++ [d.doc]) r.doc := by
  cases h with
  | laid explained _ strips inPlace =>
    have own : Explains [d.doc] _ := (explains_singleton d.doc).congr fun key passed =>
      strips.get? key (not_mem_inheritanceKeys_of_passedOn passed)
    exact ((explained.merge own (strips.nodup distinct)).inPlace inPlace).withLog _

/-- A document has its identity from itself. -/
theorem LaidOver.get?_identity (h : LaidOver layers d r) (distinct : d.doc.keys.Nodup)
    (identity : key ∈ identityKeys) : r.doc.get? key = d.doc.get? key := by
  have withheld : passedOn key = false := by simp [passedOn, identity]
  obtain ⟨unnamed, unlogged, unlisted⟩ :
      key ∉ inheritanceKeys ∧ logKey ≠ key ∧ key ∉ componentListKeys := by
    revert key
    decide
  cases h with
  | @laid below own doc log _ nothing strips inPlace =>
    have laid : (merge below own).get? key = d.doc.get? key := by
      rw [get?_merge (strips.nodup distinct), nothing key withheld, strips.get? key unnamed]
      cases d.doc.get? key <;> rfl
    rw [get?_withLog_of_ne unlogged, inPlace.get?_eq unlisted, laid]

/-- What a document does not inherit, and takes up nothing for from below, is as it says. -/
theorem LaidOver.get?_eq_own (h : LaidOver layers d r) (distinct : d.doc.keys.Nodup)
    (passed : passedOn key = true) (own : r.doc.has key = true → d.doc.has key = true)
    (plain : ∀ value, r.doc.get? key = some value → mixes key value = false) :
    r.doc.get? key = d.doc.get? key := by
  have said := h.explains distinct key passed
  rw [lastUnder_append, lastUnder_singleton] at said
  unfold Members.has at own
  generalize r.doc.get? key = after at said own plain
  cases before : d.doc.get? key with
  | none =>
    cases after with
    | none => rfl
    | some value => simp [before] at own
  | some value =>
    rw [before] at said
    cases said with
    | some stands => rw [stands.eq_of_after (plain _ rfl)]

/-- **What is built lies over what its log explains.** -/
theorem Built.laidOver (h : Built files s d r) : LaidOver (s.documents files r.log) d r := by
  induction h with
  | @laid d own doc log sources held built strips inPlace logged ih =>
    subst logged
    have distinct : ∀ source ∈ sources, source.2.doc.keys.Nodup :=
      fun source mem => (built source mem).nodup
    have each : ∀ source ∈ sources,
        Explains (s.documents files (source.2.log ++ [source.2.key])) source.2.doc := by
      intro source mem
      rw [Store.documents_append, (built source mem).key, (held source mem).documents]
      exact (ih source mem).explains (held source mem).distinct
    refine .laid (explains_layeredOn distinct each explains_nil) ?_ strips inPlace
    intro key withheld
    refine get?_layeredOn_eq_none (fun r mem => ?_) withheld rfl
    obtain ⟨source, among, rfl⟩ := List.mem_map.mp mem
    exact distinct source among

/-- **The log explains every resolved document.**  Take the documents that a log lists and the
document itself after them: it says something under just the keys that one of them has, and where
the last that has a key says something that takes up nothing from below, that is what it says.  So
it is whatever references mean nothing, whatever cycles are cut, and whatever has been resolved
before. -/
theorem resolve_explained (h : FromStore files s c)
    (known : s.Holds files d ∨ c.resolver.memo.get? d.key = none ∧ d.doc.keys.Nodup) :
    let r := (c.resolve files d).1
    let layers := s.documents files r.log ++ [d.doc]
    (∀ key ∈ r.log, ∃ e, s.Holds files e ∧ e.key = key) ∧
      ∀ key, passedOn key = true →
        (r.doc.has key = true ↔ ∃ layer ∈ layers, layer.has key = true) ∧
        ∀ value, lastUnder layers key = some value → mixes key value = false →
          r.doc.get? key = some value := by
  intro r layers
  have built : Built files s d r := resolve_built h (known.imp id And.left)
  have explained := built.laidOver.explains (known.elim Store.Holds.distinct And.right)
  refine ⟨built.held_of_mem_log, fun key passed => ⟨explained.has_iff passed, ?_⟩⟩
  intro value last plain
  exact explained.get?_eq passed last plain

/-- Templates with a cycle and a reference that means nothing: `top` comes to `base` by way of `mid`
and directly, and sees another part of the cycle each time. -/
def tangledTemplates : FileTree where
  workingDirectory := []
  directories := [["lib"]]
  files := [
    (["lib", "base.json"], ("\x7b\"name\": \"base\", \"inherits_from\": [\"mid\", \"gone\"], " ++
      "\"x\": \"base\"\x7d").toUTF8),
    (["lib", "mid.json"], ("\x7b\"name\": \"mid\", \"inherits_from\": \"base\", " ++
      "\"x\": \"mid\"\x7d").toUTF8),
    (["lib", "top.json"], ("\x7b\"name\": \"top\", \"base_template\": \"mid\", " ++
      "\"inherits_from\": \"base\"\x7d").toUTF8)]

/-- The store of these templates. -/
def tangledStore : Store :=
  [["base.json"], ["mid.json"], ["top.json"]].foldl Store.addFile (.empty "/lib")

theorem ofDirectory_tangledTemplates :
    Store.ofDirectory tangledTemplates "/lib" = .ok tangledStore :=
  Store.ofDirectory_of_ordered ["lib"] _ (by decide +kernel) (by decide +kernel)
    (by decide +kernel) (by decide +kernel) (by decide +kernel)

/-- The last of them. -/
def tangledTop : Descriptor := tangledStore.descriptorAt tangledTemplates "top"

theorem resolve_explained_tangledTop :
    let c := Context.ofStore tangledStore
    let r := (c.resolve tangledTemplates tangledTop).1
    FromStore tangledTemplates tangledStore c ∧ tangledStore.Holds tangledTemplates tangledTop ∧
      r.log = ["base", "mid", "mid", "base"] ∧ r.doc.get? "x" = some (.string "base") := by
  have opened := fromStore_ofStore ofDirectory_tangledTemplates
  have held : tangledStore.Holds tangledTemplates tangledTop :=
    Store.holds_descriptorAt (by decide +kernel)
  refine ⟨opened, held, by decide +kernel, ?_⟩
  refine ((resolve_explained opened (.inl held)).2 "x" (by decide)).2 _ ?_ rfl
  exact eq_some_string (by decide +kernel)

end DispatchTables
