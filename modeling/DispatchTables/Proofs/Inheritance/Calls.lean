import DispatchTables.Proofs.Inheritance.Keeping

/-!
# Every call of the resolver

A run resolves descriptors one after the other, and each of them asks for its sources, and for those
of its components in place, along a path that grows and in a context that the calls before it have
left.  Here all these calls are told, each from the one that makes it.  Whatever is asked for in
them, and whether the answer comes from memory or not, a descriptor of the store keeps who it is,
and of the keys that name its sources those that cannot be used up along the path.

That no file has a key that is made up for a component in place is needed: what is remembered under
such a key is handed out for the file (`resolve_marked`).

## Main Definitions

* `Running`: the contexts of a run.
* `Call`, `Made`: what the resolver is called for, and that it is in a run.
* `KeepsOwn`: what a resolved document owes to the one it comes from.

## Main Statements

* `Keeping.stands_of_made`: what holds of the path and the context of every call.
* `keeps_own`: what a descriptor of the store keeps, in every call.
* `inPlace_keeps_own`: so does a component in place.
-/

namespace DispatchTables

open Keeping

/-! ### Runs -/

/-- What a run resolves: a descriptor of the store, or a component in place under a key that is made
up for it. -/
inductive Resolvable (files : FileTree) (s : Store) (d : Descriptor) : Prop where
  | held : s.Holds files d → Resolvable files s d
  | inPlace : MadeUp s d.key → (Json.object d.doc).wellKeyed = true → Resolvable files s d

/-- **The contexts of a run**: a store is opened, and then, in any order, descriptors are loaded and
reports are made and taken, or something is resolved. -/
inductive Running (files : FileTree) (s : Store) : Context → Prop where
  | opened {root : String} : Store.ofDirectory files root = .ok s → Running files s (.ofStore s)
  | loaded {c c' : Context} : Running files s c → Store.Grows files c.store c'.store →
      c'.resolver.memo = c.resolver.memo → c'.resolver.cut = c.resolver.cut → Running files s c'
  | resolved {c : Context} {d : Descriptor} : Running files s c → Resolvable files s d →
      Running files s (c.resolve files d).2

/-- What the resolver is called for: a descriptor is asked for, or a document is resolved that is
not remembered, at the end of a path and in some context.  The bounds say how many more files may
join the path, and how deep components in place may nest, here and in what is asked for. -/
inductive Call where
  | ask (depth budget : Nat) (path : List String) (d : Descriptor) (c : Context)
  | document (depth budget n : Nat) (path : List String) (d : Descriptor) (c : Context)

/-- **The calls that are made** in the runs of a store. -/
inductive Made (files : FileTree) (s : Store) : Call → Prop where
  /-- Something is asked for from outside. -/
  | top {c : Context} {d : Descriptor} : Running files s c → Resolvable files s d →
      Made files s (.ask c.nestingBound (c.store.size + 1) [] d c)
  /-- What is not remembered is resolved anew. -/
  | anew {depth budget : Nat} {path : List String} {d : Descriptor} {c : Context} :
      Made files s (.ask depth (budget + 1) path d c) → c.resolver.memo.get? d.key = none →
      Made files s (.document depth budget depth path d c)
  /-- While keys are applied, and after some of the references of one of them, the next is asked
  for. -/
  | source {depth budget n : Nat} {path : List String} {d parent : Descriptor} {c c' : Context}
      {before after earlier later : List String} {key reference : String} {value : Json}
      {own : Members} {layers : Layers} :
      Made files s (.document depth budget n path d c) →
      inheritanceKeys = before ++ key :: after →
      applyKeys files (resolveAt files depth budget) (path ++ [d.key]) d.key before d.doc
        { context := c } = (own, layers) →
      own.get? key = some value → references? value = some (earlier ++ reference :: later) →
      (applySources files (resolveAt files depth budget) (path ++ [d.key]) d.key earlier
        layers).2.context.loadForResolver files reference = (.ok parent, c') →
      parent.key ∉ path ++ [d.key] →
      Made files s (.ask depth budget (path ++ [d.key]) parent c')
  /-- While the lists of components are gone through, and after some of the items of one of them,
  the next is resolved in place. -/
  | inPlace {depth budget n : Nat} {path : List String} {d : Descriptor} {c c₁ c₂ : Context}
      {before after : List String} {earlier later done : List Json} {key : String}
      {own doc inner : Members} {layers : Layers} :
      Made files s (.document depth budget (n + 1) path d c) →
      applyKeys files (resolveAt files depth budget) (path ++ [d.key]) d.key inheritanceKeys d.doc
        { context := c } = (own, layers) →
      componentListKeys = before ++ key :: after →
      resolveLists (inPlaceIn files (resolveAt files depth budget) n (path ++ [d.key]) d) d.key
        before (merge layers.merged own) layers.context = (doc, c₁) →
      doc.get? key = some (.array (earlier ++ .object inner :: later)) → inherits inner = true →
      resolveItems (inPlaceIn files (resolveAt files depth budget) n (path ++ [d.key]) d) d.key 0
        earlier c₁ = (done, c₂) →
      Made files s (.document depth budget n (path ++ [d.key])
        ⟨d.key ++ "#" ++ (declaredName inner).getD (Nat.repr earlier.length), d.path,
          Kind.detect "" inner, inner⟩ c₂)

variable {files : FileTree} {s : Store} {depth budget n : Nat} {path : List String}
  {d : Descriptor} {c c' : Context} {key : String} {call : Call}

namespace Keeping

/-! ### Contexts of a run -/

/-- How deep components in place may nest in a run. -/
def nestingIn (s : Store) : Nat := 64 * (s.size + 1) * (s.size + 1)

theorem size_of_grown (grown : Store.Grows files s c.store) : c.store.size = s.size := by
  unfold Store.size
  rw [grown.index]

theorem nestingBound_of_grown (grown : Store.Grows files s c.store) :
    c.nestingBound = nestingIn s := by
  unfold Context.nestingBound nestingIn
  rw [size_of_grown grown]

theorem room_nil (enough : s.size ≤ budget) : Room s [] budget :=
  ⟨List.nodup_nil, Nat.le_trans enough (Nat.le_add_left _ _)⟩

/-- What is entered under a made-up key at the beginning of a path invokes nothing. -/
theorem enters_madeUp (apart : KeysApart s) (made : MadeUp s d.key)
    (keyed : (Json.object d.doc).wellKeyed = true) : Enters files s depth depth [] d where
  deep := Nat.le_refl depth
  rooted := .inr made
  fits := by
    refine ⟨keyed, fun reference _ x held mem => ?_⟩
    exact absurd (List.mem_singleton.mp mem ▸ held.mem_keys) (made.fileless apart)

/-- What is true of a descriptor that is asked for: the path leads to it and has room for it, or it
is a component in place at the beginning of a path. -/
inductive Asked (files : FileTree) (s : Store) (depth budget : Nat) (path : List String)
    (d : Descriptor) : Prop where
  | file : Leads files s depth path d → Room s path budget → Asked files s depth budget path d
  | inPlace : path = [] → MadeUp s d.key → (Json.object d.doc).wellKeyed = true → s.size < budget →
      Asked files s depth budget path d

/-- Whatever a run resolves may be asked for. -/
theorem asked_of_resolvable (asked : Resolvable files s d) :
    Asked files s depth (s.size + 1) [] d := by
  cases asked with
  | held held => exact .file (.nil held) (room_nil (Nat.le_succ _))
  | inPlace made keyed => exact .inPlace rfl made keyed (Nat.lt_succ_self _)

/-- What is asked for may be entered, and leaves room for what it asks for. -/
theorem Asked.enters (apart : KeysApart s) (h : Asked files s depth (budget + 1) path d) :
    Room s (path ++ [d.key]) budget ∧ Enters files s depth depth path d := by
  cases h with
  | file leads room => exact ⟨room.file leads.held.mem_keys leads.offPath, leads.enters⟩
  | inPlace start made keyed enough =>
    subst start
    exact ⟨(room_nil (Nat.le_of_lt_succ enough)).fileless (made.fileless apart),
      enters_madeUp apart made keyed⟩

/-- A context stays sound when something is asked for at the beginning of a path. -/
theorem Asked.sound (apart : KeysApart s) (h : Asked files s depth (budget + 1) [] d)
    (sound : Sound files s depth [] c) :
    Sound files s depth [] (resolveAt files depth (budget + 1) [] d c).2 := by
  obtain ⟨below, enters⟩ := h.enters apart
  cases h with
  | file leads room => exact (resolveAt_resolves apart _ [] d c room leads sound).sound
  | inPlace _ made _ _ =>
    unfold resolveAt
    cases known : c.resolver.memo.get? d.key with
    | some r => exact sound
    | none =>
      have resolved := resolveDocument_enters apart (resolveAt_resolves apart budget) depth [] d c
        below enters sound
      exact remember_fileless (made.fileless apart) (resolveDocument_key ..) resolved.passes.sound

/-- **Every context of a run is sound.** -/
theorem sound_of_running (apart : KeysApart s) (running : Running files s c) :
    Sound files s (nestingIn s) [] c := by
  induction running with
  | @opened root opened =>
    exact {
      faithful := Store.ofDirectory_faithful opened
      grown := Store.takeWarnings_grows files s
      memo := fun _ _ _ found => nomatch found
      cut := fun _ found => nomatch found }
  | loaded _ grown memo cut ih => exact (ih.keeps grown memo cut).sound
  | resolved _ asked ih =>
    unfold Context.resolve
    rw [nestingBound_of_grown ih.grown, size_of_grown ih.grown]
    exact ((asked_of_resolvable asked).sound apart ih).absorb.sound

/-! ### Calls -/

/-- **What is true of a call.** -/
inductive Stands (files : FileTree) (s : Store) : Call → Prop where
  | ask {depth budget : Nat} {path : List String} {d : Descriptor} {c : Context} :
      Sound files s depth path c → Asked files s depth budget path d →
      Stands files s (.ask depth budget path d c)
  | document {depth budget n : Nat} {path : List String} {d : Descriptor} {c : Context} :
      Sound files s depth path c → Room s (path ++ [d.key]) budget →
      Enters files s depth n path d → Stands files s (.document depth budget n path d c)

theorem stands_top (apart : KeysApart s) (running : Running files s c)
    (asked : Resolvable files s d) :
    Stands files s (.ask c.nestingBound (c.store.size + 1) [] d c) := by
  have sound := sound_of_running apart running
  rw [nestingBound_of_grown sound.grown, size_of_grown sound.grown]
  exact .ask sound (asked_of_resolvable asked)

theorem Stands.anew (apart : KeysApart s)
    (h : Stands files s (.ask depth (budget + 1) path d c)) :
    Stands files s (.document depth budget depth path d c) := by
  cases h with
  | ask sound asked =>
    obtain ⟨below, enters⟩ := asked.enters apart
    exact .document sound below enters

/-- Of keys without repetition, those that come before one of them. -/
theorem before_of_split {keys before after : List String} (distinct : keys.Nodup)
    (split : keys = before ++ key :: after) :
    key ∈ keys ∧ key ∉ before ∧ before.Nodup ∧ ∀ other ∈ before, other ∈ keys := by
  subst split
  obtain ⟨once, -, apart⟩ := List.nodup_append.mp distinct
  exact ⟨List.mem_append_right _ List.mem_cons_self,
    fun mem => apart key mem key List.mem_cons_self rfl, once,
    fun other mem => List.mem_append_left _ mem⟩

/-- The next source is asked for. -/
theorem Stands.source {before after earlier later : List String} {reference : String}
    {parent : Descriptor} {value : Json} {own : Members} {layers : Layers} (apart : KeysApart s)
    (h : Stands files s (.document depth budget n path d c))
    (split : inheritanceKeys = before ++ key :: after)
    (applied : applyKeys files (resolveAt files depth budget) (path ++ [d.key]) d.key before d.doc
      { context := c } = (own, layers))
    (written : own.get? key = some value)
    (lists : references? value = some (earlier ++ reference :: later))
    (loaded : (applySources files (resolveAt files depth budget) (path ++ [d.key]) d.key earlier
      layers).2.context.loadForResolver files reference = (.ok parent, c'))
    (offPath : parent.key ∉ path ++ [d.key]) :
    Stands files s (.ask depth budget (path ++ [d.key]) parent c') := by
  cases h with
  | document sound room enters =>
    have serves := @resolveAt_resolves files s depth apart budget
    obtain ⟨named, fresh, once, names⟩ := before_of_split (by decide) split
    have applies := enters.applies serves room sound names once
    rw [applied] at applies
    have said : d.doc.get? key = some value := (applies.leaves.other key fresh).symm.trans written
    have invoked : ∀ other ∈ earlier ++ reference :: later,
        Invoked files s depth (path ++ [d.key]) other := fun other mem =>
      enters.fits.cites other
        (.own (mem_allReferences.mpr ⟨key, named, value, _, said, lists, mem⟩))
    obtain ⟨-, -, passes⟩ := applySources_passes serves room
      (fun other mem => invoked other (List.mem_append_left _ mem)) layers applies.laid
      applies.passes.sound d.key
    obtain ⟨read, keeps⟩ := loadForResolver_keeps passes.sound reference
    rw [loaded] at read keeps
    have here := invoked reference (List.mem_append_right _ List.mem_cons_self)
    exact .ask keeps.sound (.file (.of_invoked here read.symm offPath) room)

/-- The next component in place is resolved. -/
theorem Stands.inPlace {before after : List String} {earlier later done : List Json}
    {own doc inner : Members} {layers : Layers} {c₁ c₂ : Context} (apart : KeysApart s)
    (h : Stands files s (.document depth budget (n + 1) path d c))
    (applied : applyKeys files (resolveAt files depth budget) (path ++ [d.key]) d.key
      inheritanceKeys d.doc { context := c } = (own, layers))
    (split : componentListKeys = before ++ key :: after)
    (resolved : resolveLists (inPlaceIn files (resolveAt files depth budget) n (path ++ [d.key]) d)
      d.key before (merge layers.merged own) layers.context = (doc, c₁))
    (written : doc.get? key = some (.array (earlier ++ .object inner :: later)))
    (names : inherits inner = true)
    (reached : resolveItems (inPlaceIn files (resolveAt files depth budget) n (path ++ [d.key]) d)
      d.key 0 earlier c₁ = (done, c₂)) (label : String) :
    Stands files s (.document depth budget n (path ++ [d.key])
      ⟨d.key ++ "#" ++ label, d.path, Kind.detect "" inner, inner⟩ c₂) := by
  cases h with
  | document sound room enters =>
    have serves := @resolveAt_resolves files s depth apart budget
    obtain ⟨listed, -, once, lists⟩ := before_of_split (by decide) split
    have applies := enters.applies serves room sound (fun key mem => mem) (by decide)
    rw [applied] at applies
    have one := (resolveDocument_enters apart serves n).inPlace apart room enters
    obtain ⟨fits, passes⟩ :=
      resolveLists_fits one lists once (applies.fits enters) applies.passes.sound
    rw [resolved] at fits passes
    have fit := fits.listed listed written
    obtain ⟨-, passes'⟩ := resolveItems_fits one
      (fun item mem => fit item (List.mem_append_left _ mem)) 0 passes.sound
    rw [reached] at passes'
    have here := fit (.object inner) (List.mem_append_right _ List.mem_cons_self)
    have fileless := (enters.rooted.madeUp label).fileless apart
    exact .document passes'.sound (room.fileless fileless)
      (enters.inPlace apart (here.fits names) label)

/-- **What is true of every call** in the runs of a store. -/
theorem stands_of_made (apart : KeysApart s) (made : Made files s call) : Stands files s call := by
  induction made with
  | top running asked => exact stands_top apart running asked
  | anew _ _ ih => exact ih.anew apart
  | source _ split applied written lists loaded offPath ih =>
    exact ih.source apart split applied written lists loaded offPath
  | inPlace _ applied split resolved written names reached ih =>
    exact ih.inPlace apart applied split resolved written names reached _

/-- A file that is asked for is told as it should be. -/
theorem tells_of_made (apart : KeysApart s) (made : Made files s (.ask depth budget path d c))
    (held : s.Holds files d) :
    Tells files s depth depth (path ++ [d.key]) d (resolveAt files depth budget path d c).1 := by
  cases stands_of_made apart made with
  | ask sound asked =>
    cases asked with
    | file leads room => exact (resolveAt_resolves apart budget path d c room leads sound).tells
    | inPlace _ made => exact absurd held.mem_keys (made.fileless apart)

/-- So is whatever is resolved anew. -/
theorem tells_of_made_document (apart : KeysApart s)
    (made : Made files s (.document depth budget n path d c)) :
    Tells files s depth n (path ++ [d.key]) d
      (resolveDocument files (resolveAt files depth budget) n path d c).1 := by
  cases stands_of_made apart made with
  | document sound room enters =>
    exact (resolveDocument_enters apart (resolveAt_resolves apart budget) n path d c room enters
      sound).tells

end Keeping

/-! ### What is kept -/

/-- **What a resolved document owes to the document it comes from**: who it is, and of the keys that
name its sources just those that cannot be used up, with what they say. -/
structure KeepsOwn (files : FileTree) (s : Store) (path : List String) (doc resolved : Members) :
    Prop where
  identity : ∀ key ∈ identityKeys, resolved.get? key = doc.get? key
  stays : ∀ key ∈ inheritanceKeys, resolved.has key = true ↔ Stays files s path doc key
  said : ∀ key ∈ inheritanceKeys, ∀ value, resolved.get? key = some value →
    doc.get? key = some value

theorem Keeping.Tells.keepsOwn {r : Resolved} (h : Keeping.Tells files s depth n path d r) :
    KeepsOwn files s path d.doc r.doc where
  identity := h.identity
  stays := by
    intro key named
    unfold Members.has
    by_cases stays : Stays files s path d.doc key
    · obtain ⟨value, said, -⟩ := id stays
      rw [h.stays key named stays, said]
      exact iff_of_true rfl stays
    · rw [h.used key named stays]
      exact iff_of_false Bool.false_ne_true stays
  said := by
    intro key named value said
    by_cases stays : Stays files s path d.doc key
    · rwa [h.stays key named stays] at said
    · rw [h.used key named stays] at said
      cases said

/-- No file has a key that is made up if none has a `#` in it. -/
theorem Keeping.keysApart_of_unmarked (unmarked : ∀ key ∈ s.keys, '#' ∉ key.toList) :
    Keeping.KeysApart s := by
  rintro key mem ⟨root, -, label, rfl⟩
  exact unmarked _ mem (by simp)

/-- **A document that is resolved anew keeps what is its own**; components in place always are,
within the document that they are in. -/
theorem inPlace_keeps_own (apart : Keeping.KeysApart s)
    (made : Made files s (.document depth budget n path d c)) :
    KeepsOwn files s (path ++ [d.key]) d.doc
      (resolveDocument files (resolveAt files depth budget) n path d c).1.doc :=
  (Keeping.tells_of_made_document apart made).keepsOwn

/-- **A descriptor keeps what is its own**, whoever asks for it and whatever has been resolved
before: from outside, or as a source anywhere below, in a cycle or not, remembered or not. -/
theorem keeps_own (apart : Keeping.KeysApart s) (made : Made files s (.ask depth budget path d c))
    (held : s.Holds files d) :
    KeepsOwn files s (path ++ [d.key]) d.doc (resolveAt files depth budget path d c).1.doc :=
  (Keeping.tells_of_made apart made held).keepsOwn

/-- The descriptor under a key of a store. -/
def fileAt (files : FileTree) (s : Store) (key : String) : Descriptor :=
  (s.readKey files key).toOption.getD default

/-- While the first of the templates in a cycle is resolved, the second is asked for. -/
theorem made_cyclicTemplates : Made cyclicTemplates cyclicStore
    (.ask 1024 3 ["a"] (fileAt cyclicTemplates cyclicStore "b")
      ((Context.ofStore cyclicStore).loadForResolver cyclicTemplates "b").2) := by
  have top : Made cyclicTemplates cyclicStore
      (.ask 1024 4 [] (fileAt cyclicTemplates cyclicStore "a") (.ofStore cyclicStore)) :=
    .top (.opened ofDirectory_cyclicTemplates) (.held ⟨_, rfl, rfl⟩)
  have split : inheritanceKeys = ["base_template", "family_template"] ++ ["inherits_from"] := rfl
  have lists : references? (.string "b") = some ([] ++ ["b"]) := rfl
  exact .source (.anew top rfl) split rfl rfl lists rfl (by decide +kernel)

/-- It still names the first as its source. -/
theorem keeps_own_cyclicTemplates :
    let d := fileAt cyclicTemplates cyclicStore "b"
    let c := ((Context.ofStore cyclicStore).loadForResolver cyclicTemplates "b").2
    let r := (resolveAt cyclicTemplates 1024 3 ["a"] d c).1
    Keeping.KeysApart cyclicStore ∧ Made cyclicTemplates cyclicStore (.ask 1024 3 ["a"] d c) ∧
      cyclicStore.Holds cyclicTemplates d ∧
      KeepsOwn cyclicTemplates cyclicStore ["a", "b"] d.doc r.doc ∧
      (r.doc.get? "name").bind Json.asString? = some "b" ∧
      (r.doc.get? "inherits_from").bind references? = some ["a"] := by
  have apart : Keeping.KeysApart cyclicStore := Keeping.keysApart_of_unmarked (by decide +kernel)
  have held : cyclicStore.Holds cyclicTemplates (fileAt cyclicTemplates cyclicStore "b") :=
    ⟨_, rfl, rfl⟩
  exact ⟨apart, made_cyclicTemplates, held, keeps_own apart made_cyclicTemplates held,
    by decide +kernel, by decide +kernel⟩

/-- A tree with a component in place whose made-up key is that of a file. -/
def markedFiles : FileTree where
  workingDirectory := []
  directories := [["lib"]]
  files := [
    (["lib", "a#b.json"], "\x7b\"name\": \"x\", \"kind\": \"component\"\x7d".toUTF8),
    (["lib", "a.json"],
      "\x7b\"name\": \"a\", \"components\": [\x7b\"name\": \"b\"\x7d]\x7d".toUTF8)]

/-- The store of this tree. -/
def markedStore : Store := [["a#b.json"], ["a.json"]].foldl Store.addFile (.empty "/lib")

theorem ofDirectory_markedFiles : Store.ofDirectory markedFiles "/lib" = .ok markedStore :=
  Store.ofDirectory_of_ordered ["lib"] _ (by decide +kernel) (by decide +kernel)
    (by decide +kernel) (by decide +kernel) (by decide +kernel)

/-- The component in place, under the key that is made up for it. -/
def markedInPlace : Descriptor :=
  .ofDocument "a#b" (fileAt markedFiles markedStore "a").path [("name", .string "b")]

/-- **What is remembered under a made-up key is handed out for the file of that key**, which is then
called what the component in place is called, and has not the kind that it declares. -/
theorem resolve_marked :
    let d := fileAt markedFiles markedStore "a#b"
    let parent := fileAt markedFiles markedStore "a"
    let c := ((Context.ofStore markedStore).resolve markedFiles parent).2
    let c := (c.resolve markedFiles markedInPlace).2
    let r := (resolveAt markedFiles c.nestingBound (c.store.size + 1) [] d c).1
    Made markedFiles markedStore (.ask c.nestingBound (c.store.size + 1) [] d c) ∧
      markedStore.Holds markedFiles d ∧
      (d.doc.get? "name").bind Json.asString? = some "x" ∧ d.doc.has "kind" = true ∧
      (r.doc.get? "name").bind Json.asString? = some "b" ∧ r.doc.has "kind" = false ∧
      ¬ KeepsOwn markedFiles markedStore ["a#b"] d.doc r.doc := by
  have parent : Resolvable markedFiles markedStore (fileAt markedFiles markedStore "a") :=
    .held ⟨_, rfl, rfl⟩
  have inPlace : Resolvable markedFiles markedStore markedInPlace :=
    .inPlace ⟨"a", by decide +kernel, "b", by decide +kernel⟩ (by decide +kernel)
  have running := (Running.opened ofDirectory_markedFiles).resolved parent |>.resolved inPlace
  refine ⟨.top running (.held ⟨_, rfl, rfl⟩), ⟨_, rfl, rfl⟩, by decide +kernel, by decide +kernel,
    by decide +kernel, by decide +kernel, fun keeps => ?_⟩
  have same := congrArg Option.isSome (keeps.identity "kind" (by decide))
  revert same
  decide +kernel

end DispatchTables
