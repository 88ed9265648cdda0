import DispatchTables.Proofs.Store.Agreement
import DispatchTables.Proofs.Store.Catalog
import Mathlib.Data.List.Induction
import Mathlib.Data.List.Nodup

/-!
# Stores in use

A store is asked many things one after the other, and the files may change between any two of them.
What it has read it keeps: the first successful load of a file decides what is under its key from
then on, whatever becomes of the file.

## Main Definitions

* `Store.Load`: the ways to ask for a descriptor; `Load.resolve`, the key that one comes to.
* `Store.Request`, `Store.History`: requests, and requests with the files at the time of each.
* `Store.passed`, `Store.told`: the store after a history, and all warnings up to then.
* `Store.Advances`, `Store.Mentions`: what one request may do to a store and what it may report.
* `Store.Consistent`: what holds after any history.

## Main Statements

* `Load.run_eq`: a load comes to a key, and is the look-up of that key.
* `Request.advances`, `Request.mentions`: the step lemmas.
* `firstRead`: what is cached was read when its key first came into the cache.
* `consistent_of_opened`: a store in use stays consistent.
-/

namespace DispatchTables.Store

variable {files : FileTree} {s t u : Store} {d : Descriptor} {key path : String}

/-! ### Loads -/

/-- A way to ask for a descriptor: by a reference, by the path of its file, or as a bot. -/
inductive Load where
  | reference (reference : String)
  | path (path : String)
  | bot (name : String)

/-- The key of the file that a path leads to, which is put into the index. -/
def enterFile (files : FileTree) (s : Store) (path : String) : Except Failure String × Store :=
  match files.resolve path with
  | .error fault => (.error (.access path (.plain fault)), s)
  | .ok place =>
    let key := s.keyOfLocation files place
    (.ok key, { s with index := s.index.insertNew key (Path.absolute place) })

namespace Load

/-- What a load gives, and the store after it. -/
def run (files : FileTree) (s : Store) : Load → Except Failure Descriptor × Store
  | .reference r => s.load files r
  | .path p => s.loadFile files p
  | .bot name => s.locateBot files name

/-- The key that a load comes to, and the store in which it is then looked up. -/
def resolve (files : FileTree) (s : Store) : Load → Except Failure String × Store
  | .reference r => s.resolveKey r
  | .path p => s.enterFile files p
  | .bot name =>
    if files.isFile name then s.enterFile files name
    else match s.botKey? name with
      | some key => (.ok key, s)
      | none => s.resolveKey name

/-- The place of the file that a load names by its path. -/
def place? (files : FileTree) : Load → Option Location
  | .reference _ => none
  | .path p => (files.resolve p).toOption
  | .bot name => if files.isFile name then (files.resolve name).toOption else none

end Load

/-! ### Requests -/

/-- What a store may be asked. -/
inductive Request where
  | load (load : Load)
  | resolveKey (reference : String)
  | findInDirectory (dir name : String)
  | scanAll
  | chipCatalog
  | takeWarnings

namespace Request

/-- The store after a request. -/
def after (files : FileTree) (s : Store) : Request → Store
  | load l => (l.run files s).2
  | resolveKey r => (s.resolveKey r).2
  | findInDirectory _ _ => s
  | scanAll => (s.scanAll files).2
  | chipCatalog => (s.chipCatalog files).2
  | takeWarnings => s.takeWarnings.2

/-- The warnings that a request hands out. -/
def handed (s : Store) : Request → List Diagnostic
  | takeWarnings => s.takeWarnings.1
  | _ => []

end Request

/-- Requests, each with the files as they are at its time. -/
abbrev History := List (FileTree × Request)

/-- The store after a history. -/
def passed (s : Store) (history : History) : Store :=
  history.foldl (fun s now => now.2.after now.1 s) s

/-- All warnings up to the end of a history: those handed out, then those that wait. -/
def told (s : Store) : History → List Diagnostic
  | [] => s.warnings
  | now :: later => now.2.handed s ++ told (now.2.after now.1 s) later

theorem passed_append (s : Store) (earlier later : History) :
    s.passed (earlier ++ later) = (s.passed earlier).passed later :=
  List.foldl_append

/-! ### Looking a key up -/

/-- **What looking a key up can come to**: it has been read, it cannot be read, or it is read
now. -/
theorem loadKey_cases (files : FileTree) (s : Store) (key : String) :
    (∃ d, s.cache.get? key = some d ∧ s.loadKey files key = (.ok d, s)) ∨
    (∃ e, s.cache.get? key = none ∧ s.loadKey files key = (.error e, s)) ∨
    (∃ d path, s.cache.get? key = none ∧ s.index.get? key = some path ∧
      readDescriptor files key path = .ok d ∧
      s.loadKey files key = (.ok d, { s with cache := s.cache.insert key d })) := by
  unfold loadKey
  cases cached : s.cache.get? key with
  | some d => exact .inl ⟨d, rfl, rfl⟩
  | none =>
    cases indexed : s.index.get? key with
    | none => exact .inr (.inl ⟨_, rfl, rfl⟩)
    | some path =>
      cases read : readDescriptor files key path with
      | error e => exact .inr (.inl ⟨e, rfl, by simp only [read]⟩)
      | ok d => exact .inr (.inr ⟨d, path, rfl, rfl, read, by simp only [read]⟩)

theorem loadKey_of_cached (files : FileTree) (cached : s.cache.get? key = some d) :
    s.loadKey files key = (.ok d, s) := by
  simp only [loadKey, cached]

theorem loadKey_of_failed {e : Failure} (failed : (s.loadKey files key).1 = .error e) :
    (s.loadKey files key).2 = s := by
  rcases loadKey_cases files s key with ⟨d, -, eq⟩ | ⟨e, -, eq⟩ | ⟨d, path, -, -, -, eq⟩
  · rw [eq]
  · rw [eq]
  · rw [eq] at failed
    cases failed

theorem cached_of_loadKey (loaded : (s.loadKey files key).1 = .ok d) :
    (s.loadKey files key).2.cache.get? key = some d := by
  rcases loadKey_cases files s key with ⟨e, cached, eq⟩ | ⟨e, -, eq⟩ | ⟨e, path, -, -, -, eq⟩
  · rw [eq] at loaded ⊢
    cases loaded
    exact cached
  · rw [eq] at loaded
    cases loaded
  · rw [eq] at loaded ⊢
    cases loaded
    rw [KeyMap.get?_insert, if_pos rfl]

theorem key_of_loadKey (filed : ∀ key d, s.cache.get? key = some d → d.key = key)
    (loaded : (s.loadKey files key).1 = .ok d) : d.key = key := by
  rcases loadKey_cases files s key with ⟨e, cached, eq⟩ | ⟨e, -, eq⟩ | ⟨e, path, -, -, read, eq⟩
  · rw [eq] at loaded
    cases loaded
    exact filed key d cached
  · rw [eq] at loaded
    cases loaded
  · rw [eq] at loaded
    cases loaded
    exact readDescriptor_key read

/-! ### A load comes to a key -/

/-- **A load comes to a key, and is the look-up of that key.** -/
theorem Load.run_eq (files : FileTree) (s : Store) (l : Load) :
    l.run files s = match l.resolve files s with
      | (.error e, t) => (.error e, t)
      | (.ok key, t) => t.loadKey files key := by
  have entered : ∀ path, s.loadFile files path = match s.enterFile files path with
      | (.error e, t) => (.error e, t)
      | (.ok key, t) => t.loadKey files key := by
    intro path
    unfold loadFile enterFile
    cases files.resolve path <;> rfl
  have referred : ∀ r, s.load files r = match s.resolveKey r with
      | (.error e, t) => (.error e, t)
      | (.ok key, t) => t.loadKey files key := by
    intro r
    unfold load
    generalize s.resolveKey r = out
    obtain ⟨found, t⟩ := out
    cases found <;> rfl
  unfold run resolve
  cases l with
  | reference r =>
    dsimp only
    exact referred r
  | path p => exact entered p
  | bot name =>
    unfold locateBot
    dsimp only
    split
    · exact entered name
    · cases s.botKey? name with
      | some key => rfl
      | none =>
        dsimp only
        exact referred name

/-- **How a load comes to its key**: it resolves a reference, it enters a file, or it is a bot's. -/
theorem Load.resolve_cases (files : FileTree) (s : Store) (l : Load) :
    (∃ r, l.place? files = none ∧ l.resolve files s = s.resolveKey r) ∨
    (∃ path, l.place? files = (files.resolve path).toOption ∧
      l.resolve files s = s.enterFile files path) ∨
    (∃ key, l.place? files = none ∧ l.resolve files s = (.ok key, s)) := by
  unfold resolve place?
  cases l with
  | reference r => exact .inl ⟨r, rfl, rfl⟩
  | path p => exact .inr (.inl ⟨p, rfl, rfl⟩)
  | bot name =>
    dsimp only
    split
    · exact .inr (.inl ⟨name, rfl, rfl⟩)
    · cases s.botKey? name with
      | some key => exact .inr (.inr ⟨key, rfl, rfl⟩)
      | none => exact .inl ⟨name, rfl, rfl⟩

theorem resolveKey_cache (s : Store) (reference : String) :
    (s.resolveKey reference).2.cache = s.cache := by
  unfold resolveKey reportAmbiguity
  split
  · dsimp only
    split <;> rfl
  · rfl

theorem Load.resolve_cache (files : FileTree) (s : Store) (l : Load) :
    (l.resolve files s).2.cache = s.cache := by
  rcases l.resolve_cases files s with ⟨r, -, eq⟩ | ⟨path, -, eq⟩ | ⟨key, -, eq⟩
  · rw [eq, resolveKey_cache]
  · rw [eq, enterFile]
    cases files.resolve path <;> rfl
  · rw [eq]

/-- **A load puts nothing into the index** but the file that it names by its path. -/
theorem Load.resolve_index (files : FileTree) (s : Store) (l : Load) :
    (l.resolve files s).2.index = match l.place? files with
      | some place => s.index.insertNew (s.keyOfLocation files place) (Path.absolute place)
      | none => s.index := by
  rcases l.resolve_cases files s with ⟨r, place, eq⟩ | ⟨path, place, eq⟩ | ⟨key, place, eq⟩
  · rw [eq, place, (resolveKey_grows files s r).index]
  · rw [eq, place, enterFile]
    cases files.resolve path <;> rfl
  · rw [eq, place]

/-- A load that comes to a key in the cache gives what is there. -/
theorem Load.run_of_cached (l : Load) (cached : s.cache.get? key = some d)
    (comes : (l.resolve files s).1 = .ok key) : (l.run files s).1 = .ok d := by
  have cache := l.resolve_cache files s
  rw [l.run_eq]
  generalize l.resolve files s = out at comes cache
  obtain ⟨found, t⟩ := out
  cases comes
  exact congrArg Prod.fst (loadKey_of_cached files (cache ▸ cached))

/-- **A load that succeeds** leaves what it gives in the cache. -/
theorem Load.cached_of_run (l : Load) (filed : ∀ key d, s.cache.get? key = some d → d.key = key)
    (loaded : (l.run files s).1 = .ok d) :
    (l.resolve files s).1 = .ok d.key ∧ (l.run files s).2.cache.get? d.key = some d := by
  have cache := l.resolve_cache files s
  rw [l.run_eq] at loaded ⊢
  generalize l.resolve files s = out at loaded cache ⊢
  obtain ⟨found, t⟩ := out
  cases found with
  | error e => cases loaded
  | ok key =>
    have named : d.key = key :=
      key_of_loadKey (fun key d cached => filed key d (cache ▸ cached)) loaded
    rw [named]
    exact ⟨rfl, cached_of_loadKey loaded⟩

/-- **A load that fails** leaves what looking for its key has left. -/
theorem Load.run_of_failed (l : Load) {e : Failure} (failed : (l.run files s).1 = .error e) :
    (l.run files s).2 = (l.resolve files s).2 := by
  rw [l.run_eq] at failed ⊢
  generalize l.resolve files s = out at failed ⊢
  obtain ⟨found, t⟩ := out
  cases found with
  | error e => rfl
  | ok key => exact loadKey_of_failed failed

/-- A scan leaves nothing in the cache of what it could not read. -/
theorem scanAll_of_failed {e : Failure} (failed : (s.loadKey files key).1 = .error e) :
    (s.scanAll files).2.cache.get? key = none := by
  have grown := scan_grows files s.keys s {}
  refine Option.eq_none_iff_forall_ne_some.mpr fun d cached => ?_
  have loaded := congrArg Prod.fst (loadKey_of_cached files cached)
  rw [scanAll, grown.loadKey_fst_eq, failed] at loaded
  cases loaded

/-! ### What a request does -/

/-- **What a request may do to a store**: what is cached and what is indexed stays, and what comes
into the cache is what its file reads as. -/
structure Advances (files : FileTree) (s t : Store) : Prop where
  kept : ∀ {key d}, s.cache.get? key = some d → t.cache.get? key = some d
  indexed : ∀ {key path}, s.index.get? key = some path → t.index.get? key = some path
  gained : ∀ {key d}, t.cache.get? key = some d →
    s.cache.get? key = some d ∨
      ∃ path, t.index.get? key = some path ∧ readDescriptor files key path = .ok d

theorem Grows.advances (h : Grows files s t) : Advances files s t where
  kept := h.kept
  indexed := fun found => by rw [h.index]; exact found
  gained := by
    intro key d cached
    rcases h.gained cached with old | read
    · exact .inl old
    · rw [← readKey_congr h.index] at read
      obtain ⟨rfl, path, found, read⟩ := readKey_eq_ok_iff.mp read
      exact .inr ⟨path, found, read⟩

/-- Growing goes on from a step that reads nothing. -/
theorem Advances.of_grows (cache : t.cache = s.cache)
    (indexed : ∀ {key path}, s.index.get? key = some path → t.index.get? key = some path)
    (h : Grows files t u) : Advances files s u where
  kept := fun cached => h.kept (cache ▸ cached)
  indexed := fun found => h.advances.indexed (indexed found)
  gained := fun cached => by
    rcases h.advances.gained cached with old | read
    · exact .inl (cache ▸ old)
    · exact .inr read

theorem get?_insertNew {m : KeyMap String} {other value : String}
    (found : m.get? key = some path) : (m.insertNew other value).get? key = some path := by
  unfold KeyMap.insertNew
  split
  · exact found
  · rename_i free
    rw [KeyMap.get?_insert, if_neg, found]
    rintro rfl
    exact free (by rw [KeyMap.has, found]; rfl)

theorem Load.advances (files : FileTree) (s : Store) (l : Load) :
    Advances files s (l.run files s).2 := by
  have cache := l.resolve_cache files s
  have indexed : ∀ {key path}, s.index.get? key = some path →
      (l.resolve files s).2.index.get? key = some path := by
    intro key path found
    rw [l.resolve_index]
    split
    · exact get?_insertNew found
    · exact found
  rw [l.run_eq]
  generalize l.resolve files s = out at cache indexed
  obtain ⟨found, t⟩ := out
  cases found with
  | error e => exact .of_grows cache indexed (Grows.refl files t)
  | ok key => exact .of_grows cache indexed (loadKey_grows files t key)

/-- **The step**: every request advances the store. -/
theorem Request.advances (files : FileTree) (s : Store) (request : Request) :
    Advances files s (request.after files s) := by
  cases request with
  | load l => exact l.advances files s
  | resolveKey r => exact (resolveKey_grows files s r).advances
  | findInDirectory dir name => exact (Grows.refl files s).advances
  | scanAll => exact (scan_grows files _ s _).advances
  | chipCatalog => exact (scan_grows files _ s _).advances
  | takeWarnings => exact (takeWarnings_grows files s).advances

/-- What is cached stays, however long the store is in use. -/
theorem passed_kept (later : History) (cached : s.cache.get? key = some d) :
    (s.passed later).cache.get? key = some d := by
  induction later generalizing s with
  | nil => exact cached
  | cons now later ih => exact ih ((now.2.advances now.1 s).kept cached)

/-- **What is cached was read when its key first came into the cache**, from the file that the
index has for it. -/
theorem firstRead (unread : s.cache = .empty) (earlier : History)
    (cached : (s.passed earlier).cache.get? key = some d) :
    ∃ before files request rest path, earlier = before ++ (files, request) :: rest ∧
      (s.passed before).cache.get? key = none ∧
      (request.after files (s.passed before)).cache.get? key = some d ∧
      (s.passed earlier).index.get? key = some path ∧
      readDescriptor files key path = .ok d := by
  induction earlier using List.reverseRecOn with
  | nil =>
    rw [passed, List.foldl_nil, unread] at cached
    cases cached
  | append_singleton earlier now ih =>
    obtain ⟨files, request⟩ := now
    have step := request.advances files (s.passed earlier)
    have last : s.passed (earlier ++ [(files, request)]) =
        request.after files (s.passed earlier) := passed_append s earlier _
    rw [last] at cached ⊢
    cases already : (s.passed earlier).cache.get? key with
    | none =>
      rcases step.gained cached with old | ⟨path, indexed, read⟩
      · rw [already] at old
        cases old
      · exact ⟨earlier, files, request, [], path, rfl, already, cached, indexed, read⟩
    | some old =>
      have same : old = d := Option.some.inj ((step.kept already).symm.trans cached)
      subst same
      obtain ⟨before, then', asked, rest, path, rfl, free, came, indexed, read⟩ := ih already
      exact ⟨before, then', asked, rest ++ [(files, request)], path, by simp, free, came,
        step.indexed indexed, read⟩

/-! ### What is reported -/

/-- A reference that could have meant several keys. -/
structure Mention where
  reference : String
  chosen : String
  others : List String

/-- The warning about it. -/
def Mention.diagnostic (m : Mention) : Diagnostic := ambiguity m.reference m.chosen m.others

/-- What the reference is remembered by. -/
def Mention.normal (m : Mention) : String := normalize m.reference

/-- One store comes from another by warnings about references that have had none. -/
structure Mentions (s t : Store) (news : List Mention) : Prop where
  warnings : t.warnings = s.warnings ++ news.map Mention.diagnostic
  reported : t.reported = (news.map Mention.normal).reverse ++ s.reported
  once : s.reported.Nodup → t.reported.Nodup

theorem mentions_of_eq (warnings : t.warnings = s.warnings) (reported : t.reported = s.reported) :
    Mentions s t [] where
  warnings := by simp [warnings]
  reported := by simp [reported]
  once := fun h => reported ▸ h

theorem Mentions.trans {news more : List Mention} (h : Mentions s t news)
    (h' : Mentions t u more) : Mentions s u (news ++ more) where
  warnings := by simp [h'.warnings, h.warnings]
  reported := by simp [h'.reported, h.reported]
  once := fun distinct => h'.once (h.once distinct)

theorem resolveKey_mentions (s : Store) (reference : String) :
    ∃ news, Mentions s (s.resolveKey reference).2 news := by
  unfold resolveKey
  split
  · rename_i chosen others _
    unfold reportAmbiguity
    dsimp only
    split
    · exact ⟨[], mentions_of_eq rfl rfl⟩
    · rename_i news
      refine ⟨[⟨reference, chosen, others⟩], rfl, rfl, fun distinct => ?_⟩
      have fresh : normalize reference ∉ s.reported := by
        intro old
        exact news (by simp [old])
      exact List.nodup_cons.mpr ⟨fresh, distinct⟩
  · exact ⟨[], mentions_of_eq rfl rfl⟩

theorem loadKey_mentions (files : FileTree) (s : Store) (key : String) :
    Mentions s (s.loadKey files key).2 [] := by
  rcases loadKey_cases files s key with ⟨d, -, eq⟩ | ⟨e, -, eq⟩ | ⟨d, path, -, -, -, eq⟩ <;>
    rw [eq] <;> exact mentions_of_eq rfl rfl

theorem scan_mentions (files : FileTree) (keys : List String) (s : Store) (found : Scan) :
    Mentions s (scan files keys s found).2 [] := by
  induction keys generalizing s found with
  | nil => exact mentions_of_eq rfl rfl
  | cons key rest ih =>
    have first := loadKey_mentions files s key
    unfold scan
    split
    all_goals
      rename_i loaded
      rw [loaded] at first
      exact first.trans (ih _ _)

theorem Load.resolve_mentions (files : FileTree) (s : Store) (l : Load) :
    ∃ news, Mentions s (l.resolve files s).2 news := by
  rcases l.resolve_cases files s with ⟨r, -, eq⟩ | ⟨path, -, eq⟩ | ⟨key, -, eq⟩
  · rw [eq]
    exact resolveKey_mentions s r
  · rw [eq, enterFile]
    cases files.resolve path <;> exact ⟨[], mentions_of_eq rfl rfl⟩
  · rw [eq]
    exact ⟨[], mentions_of_eq rfl rfl⟩

theorem Load.mentions (files : FileTree) (s : Store) (l : Load) :
    ∃ news, Mentions s (l.run files s).2 news := by
  obtain ⟨news, resolved⟩ := l.resolve_mentions files s
  rw [l.run_eq]
  generalize l.resolve files s = out at resolved
  obtain ⟨found, t⟩ := out
  cases found with
  | error e => exact ⟨news, resolved⟩
  | ok key => exact ⟨_, resolved.trans (loadKey_mentions files t key)⟩

/-- **The step**: what a request hands out and leaves waiting is what has waited, and new
mentions. -/
theorem Request.mentions (files : FileTree) (s : Store) (request : Request) :
    ∃ news : List Mention, request.handed s ++ (request.after files s).warnings =
        s.warnings ++ news.map Mention.diagnostic ∧
      (request.after files s).reported = (news.map Mention.normal).reverse ++ s.reported ∧
      (s.reported.Nodup → (request.after files s).reported.Nodup) := by
  have waiting : ∀ {t : Store} {news : List Mention}, Mentions s t news →
      ∃ news : List Mention, [] ++ t.warnings = s.warnings ++ news.map Mention.diagnostic ∧
        t.reported = (news.map Mention.normal).reverse ++ s.reported ∧
        (s.reported.Nodup → t.reported.Nodup) :=
    fun h => ⟨_, h.warnings, h.reported, h.once⟩
  unfold Request.handed Request.after
  cases request with
  | load l =>
    obtain ⟨news, h⟩ := l.mentions files s
    exact waiting h
  | resolveKey r =>
    obtain ⟨news, h⟩ := resolveKey_mentions s r
    exact waiting h
  | findInDirectory dir name => exact waiting (mentions_of_eq rfl rfl)
  | scanAll => exact waiting (scan_mentions files s.keys s {})
  | chipCatalog => exact waiting (scan_mentions files s.keys s {})
  | takeWarnings =>
    refine ⟨[], ?_, rfl, id⟩
    simp [Store.takeWarnings]

/-- All that has been told beyond what waited at the start are mentions, and each reference has
had one. -/
theorem told_mentions (s : Store) (history : History) :
    ∃ news : List Mention, s.told history = s.warnings ++ news.map Mention.diagnostic ∧
      (s.passed history).reported = (news.map Mention.normal).reverse ++ s.reported ∧
      (s.reported.Nodup → (s.passed history).reported.Nodup) := by
  induction history generalizing s with
  | nil => exact ⟨[], by simp [told], rfl, id⟩
  | cons now later ih =>
    obtain ⟨first, handed, reported, once⟩ := now.2.mentions now.1 s
    obtain ⟨rest, told', reported', once'⟩ := ih (now.2.after now.1 s)
    refine ⟨first ++ rest, ?_, ?_, fun distinct => once' (once distinct)⟩
    · rw [told, told', ← List.append_assoc, handed]
      simp
    · rw [passed, List.foldl_cons, ← passed, reported', reported]
      simp

/-! ### Any history -/

/-- **What holds of a store that has been in use**, whatever became of the files meanwhile. -/
structure Consistent (s : Store) (earlier : History) : Prop where
  /-- What is under a key in the cache stays there, and every later load that comes to the key
  gives it. -/
  stays : ∀ key d, (s.passed earlier).cache.get? key = some d → ∀ later : History,
    (s.passed (earlier ++ later)).cache.get? key = some d ∧
      ∀ (files : FileTree) (l : Load),
        (l.resolve files (s.passed (earlier ++ later))).1 = .ok key →
        (l.run files (s.passed (earlier ++ later))).1 = .ok d
  /-- A load that succeeds leaves what it gives in the cache, under the key that it came to. -/
  caches : ∀ (files : FileTree) (l : Load) (d : Descriptor),
    (l.run files (s.passed earlier)).1 = .ok d →
      (l.resolve files (s.passed earlier)).1 = .ok d.key ∧
        (l.run files (s.passed earlier)).2.cache.get? d.key = some d
  /-- A load that fails leaves the cache as it was, and the index but for the file that it names by
  its path. -/
  spares : ∀ (files : FileTree) (l : Load) (e : Failure),
    (l.run files (s.passed earlier)).1 = .error e →
      (l.run files (s.passed earlier)).2.cache = (s.passed earlier).cache ∧
        (l.run files (s.passed earlier)).2.index = match l.place? files with
          | some place => (s.passed earlier).index.insertNew
              ((s.passed earlier).keyOfLocation files place) (Path.absolute place)
          | none => (s.passed earlier).index
  /-- A scan leaves the index as it was, and nothing in the cache of what it could not read. -/
  scans : ∀ files : FileTree,
    ((s.passed earlier).scanAll files).2.index = (s.passed earlier).index ∧
      ∀ key e, ((s.passed earlier).loadKey files key).1 = .error e →
        ((s.passed earlier).scanAll files).2.cache.get? key = none
  /-- What has been read is listed in strictly ascending order of keys. -/
  ascends : (s.passed earlier).loaded.Pairwise fun d e => d.key < e.key
  /-- What has been read is what its file read as when it first came into the cache. -/
  read : ∀ d ∈ (s.passed earlier).loaded, (s.passed earlier).cache.get? d.key = some d ∧
    ∃ before files request rest path, earlier = before ++ (files, request) :: rest ∧
      (s.passed before).cache.get? d.key = none ∧
      (request.after files (s.passed before)).cache.get? d.key = some d ∧
      (s.passed earlier).index.get? d.key = some path ∧
      readDescriptor files d.key path = .ok d
  /-- A reference is reported as ambiguous once at most, whichever way it is written. -/
  mentioned : ∃ news : List Mention, s.told earlier = s.warnings ++ news.map Mention.diagnostic ∧
    (news.map Mention.normal).Nodup

theorem mem_loaded_iff (filed : ∀ key d, s.cache.get? key = some d → d.key = key) :
    d ∈ s.loaded ↔ s.cache.get? d.key = some d := by
  unfold loaded KeyMap.values
  rw [List.mem_map]
  constructor
  · rintro ⟨⟨key, e⟩, entry, rfl⟩
    have cached := KeyMap.get?_eq_some_iff.mpr entry
    rwa [← filed key e cached] at cached
  · intro cached
    exact ⟨_, KeyMap.get?_eq_some_iff.mp cached, rfl⟩

theorem loaded_ascends (filed : ∀ key d, s.cache.get? key = some d → d.key = key) :
    s.loaded.Pairwise fun d e => d.key < e.key := by
  unfold loaded KeyMap.values
  refine List.pairwise_map.mpr (s.cache.ascending.imp_of_mem ?_)
  rintro ⟨key, d⟩ ⟨other, e⟩ first second lower
  rw [filed key d (KeyMap.get?_eq_some_iff.mpr first),
    filed other e (KeyMap.get?_eq_some_iff.mpr second)]
  exact lower

/-- **A store in use stays consistent**, whatever it is asked and whatever becomes of the files. -/
theorem consistent_of_opened {root : String} (opened : ofDirectory files root = .ok s)
    (earlier : History) : Consistent s earlier := by
  have read := fun key d => @firstRead s d key (ofDirectory_cache opened) earlier
  have filed : ∀ key d, (s.passed earlier).cache.get? key = some d → d.key = key := by
    intro key d cached
    obtain ⟨_, _, _, _, _, -, -, -, -, read⟩ := read key d cached
    exact readDescriptor_key read
  constructor
  case stays =>
    intro key d cached later
    rw [passed_append]
    have kept := passed_kept later cached
    exact ⟨kept, fun files l comes => l.run_of_cached kept comes⟩
  case caches => exact fun files l d loaded => l.cached_of_run filed loaded
  case spares =>
    intro files l e failed
    rw [l.run_of_failed failed]
    exact ⟨l.resolve_cache files _, l.resolve_index files _⟩
  case scans =>
    exact fun files =>
      ⟨(scan_grows files _ _ {}).index, fun key e failed => scanAll_of_failed failed⟩
  case ascends => exact loaded_ascends filed
  case read =>
    intro d mem
    have cached := (mem_loaded_iff filed).mp mem
    exact ⟨cached, read d.key d cached⟩
  case mentioned =>
    obtain ⟨news, told, reported, once⟩ := told_mentions s earlier
    rw [reported, ofDirectory_reported opened, List.append_nil, List.nodup_reverse] at once
    exact ⟨news, told, once List.nodup_nil⟩

/-- A chip is read, then all files are gone, and it is asked for again. -/
theorem consistent_of_opened_chips :
    ofDirectory chipFiles "/lib" = .ok chipStore ∧
      Consistent chipStore [(chipFiles, .load (.reference "own"))] ∧
      ∃ d, (chipStore.passed [(chipFiles, .load (.reference "own"))]).cache.get? "chips/own" =
          some d ∧
        ((Load.reference "own").run { chipFiles with files := [] }
          (chipStore.passed [(chipFiles, .load (.reference "own")),
            ({ chipFiles with files := [] }, .scanAll)])).1 = .ok d := by
  have consistent := consistent_of_opened ofDirectory_chipFiles
    [(chipFiles, .load (.reference "own"))]
  have cached : ((chipStore.passed [(chipFiles, .load (.reference "own"))]).cache.get?
      "chips/own").isSome = true := by
    decide +kernel
  obtain ⟨d, cached⟩ := Option.isSome_iff_exists.mp cached
  have stays := consistent.stays "chips/own" d cached [({ chipFiles with files := [] }, .scanAll)]
  refine ⟨ofDirectory_chipFiles, consistent, d, cached, stays.2 _ (.reference "own") ?_⟩
  exact eq_ok_of_toOption (by decide +kernel)

end DispatchTables.Store
