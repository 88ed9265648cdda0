import DispatchTables.Context
import DispatchTables.Inheritance.Merge

/-!
# Inheritance

A document names others that it builds on.  They are resolved first, laid over one another in the
order they are named, and the document itself is laid over all of them.

## Main Definitions

* `inheritanceKeys`: the members that name others, in the order they apply.
* `inheritable`: what a document passes on.
* `resolveDocument`: one document over what it builds on.
* `resolveAt`: the same for a loaded descriptor, remembered by its key.
* `Context.resolve`, `Context.loadResolved`: what the rest of the compiler uses.

## Design Notes

A document that is being resolved further up the path is not resolved again: the cycle is cut there
with a warning.  What is resolved between the cut and the document it goes back to has seen only
part of that document, so it is not remembered.

Documents nest by two bounded counts.  Each descriptor on the path is a different file of the store,
so the number of files bounds the path of `resolveAt`.  Component objects written in place may build
on others too; they are resolved inside `resolveDocument`, and nest as deep as documents do.
-/

namespace DispatchTables

/-- The members that name what a document builds on, in the order they apply. -/
def inheritanceKeys : List String := ["base_template", "family_template", "inherits_from"]

/-- The members that say who a document is; they are never inherited. -/
def identityKeys : List String := ["name", "component_name", "kind"]

/-- The member that lists what has been applied to a document. -/
def logKey : String := "resolution_log"

/-- What a document passes on: all but its identity, what it builds on, and its log. -/
def inheritable (doc : Members) : Members :=
  doc.filter fun m =>
    !identityKeys.contains m.1 && !inheritanceKeys.contains m.1 && m.1 != logKey

/-- The references in the value of an inheritance key: one text, or a list of texts. -/
def references? : Json → Option (List String)
  | .string reference => some [reference]
  | .array items => items.mapM Json.asString?
  | _ => none

/-- Whether a document names others that it builds on. -/
def inherits (doc : Members) : Bool := inheritanceKeys.any doc.has

namespace Context

/-- Adds a warning to those of the resolver. -/
def warnResolver (c : Context) (d : Diagnostic) : Context :=
  { c with resolver := { c.resolver with warnings := c.resolver.warnings ++ [d] } }

/-- Loads a descriptor on behalf of the resolver, which takes over the store's warnings. -/
def loadForResolver (files : FileTree) (c : Context) (reference : String) :
    Except Failure Descriptor × Context :=
  let (found, s) := c.store.load files reference
  let (warnings, s) := s.takeWarnings
  (found, { c with
    store := s
    resolver := { c.resolver with warnings := c.resolver.warnings ++ warnings } })

/-- Notes that a cycle has been cut back to a place on the path. -/
def noteCut (c : Context) (place : Nat) : Context :=
  let cut := match c.resolver.cut with
    | some shallowest => min shallowest place
    | none => place
  { c with resolver := { c.resolver with cut := some cut } }

/-- Remembers a resolved document, unless a cut cycle is open at this depth or above.  A cut back
to this very depth is left here. -/
def remember (c : Context) (depth : Nat) (r : Resolved) : Context :=
  match c.resolver.cut with
  | some cut =>
    if cut < depth then c
    else if cut = depth then { c with resolver := { c.resolver with cut := none } }
    else { c with resolver := { c.resolver with memo := c.resolver.memo.insert r.key r } }
  | none => { c with resolver := { c.resolver with memo := c.resolver.memo.insert r.key r } }

end Context

/-! ### One document -/

/-- How a descriptor that is not on the path is resolved: given the path, from the outermost key
inward. -/
abbrev ParentResolver := List String → Descriptor → Context → Resolved × Context

/-- What is known while a document's sources are applied: what they amount to, their log, and the
context. -/
structure Layers where
  merged : Members := []
  log : List String := []
  context : Context

/-- The source that a reference names, unless it is missing or on the path; the path ends with the
document that names it. -/
def resolveParent (files : FileTree) (resolve : ParentResolver) (path : List String)
    (child reference : String) (c : Context) : Option Resolved × Context :=
  match c.loadForResolver files reference with
  | (.ok parent, c) =>
    match path.idxOf? parent.key with
    | some place =>
      (none, (c.noteCut place).warnResolver
        ((Diagnostic.warn .inheritanceCycle child
          ("inheritance cycle through '" ++ parent.key ++ "' skipped")).because
          (" -> ".intercalate path)))
    | none =>
      let (r, c) := resolve path parent c
      (some r, c)
  | (.error e, c) =>
    (none, c.warnResolver (.warn .unresolvedTemplate child
      ("template '" ++ reference ++ "' left unresolved: " ++ e.message)))

/-- Lays the named sources over one another, and says whether all of them could be had. -/
def applySources (files : FileTree) (resolve : ParentResolver) (path : List String)
    (child : String) : List String → Layers → Bool × Layers
  | [], layers => (true, layers)
  | reference :: rest, layers =>
    match resolveParent files resolve path child reference layers.context with
    | (some parent, c) =>
      applySources files resolve path child rest {
        merged := merge layers.merged (inheritable parent.doc)
        log := layers.log ++ parent.log ++ [parent.key]
        context := c }
    | (none, c) =>
      let (_, layers) := applySources files resolve path child rest { layers with context := c }
      (false, layers)

/-- Applies inheritance keys in turn.  A key all of whose sources could be had is dropped from the
document; a key with a value of another shape is left with a warning. -/
def applyKeys (files : FileTree) (resolve : ParentResolver) (path : List String) (child : String) :
    List String → Members → Layers → Members × Layers
  | [], own, layers => (own, layers)
  | key :: rest, own, layers =>
    match own.get? key with
    | none => applyKeys files resolve path child rest own layers
    | some value =>
      match references? value with
      | none =>
        applyKeys files resolve path child rest own { layers with
          context := layers.context.warnResolver (.warn .malformedInheritance child
            ("'" ++ key ++ "' must be a string or a list of strings")) }
      | some references =>
        let (complete, layers) := applySources files resolve path child references layers
        applyKeys files resolve path child rest (if complete then own.erase key else own) layers

/-! ### Components in place -/

/-- Resolves those items of a component list that build on others; `one` resolves an object under
the key it gets, which is made of its parent's key and its name or index. -/
def resolveItems (one : String → Members → Context → Members × Context) (parent : String) :
    Nat → List Json → Context → List Json × Context
  | _, [], c => ([], c)
  | index, .object doc :: rest, c =>
    if inherits doc then
      let label := (declaredName doc).getD (Nat.repr index)
      let (doc, c) := one (parent ++ "#" ++ label) doc c
      let (rest, c) := resolveItems one parent (index + 1) rest c
      (.object doc :: rest, c)
    else
      let (rest, c) := resolveItems one parent (index + 1) rest c
      (.object doc :: rest, c)
  | index, item :: rest, c =>
    let (rest, c) := resolveItems one parent (index + 1) rest c
    (item :: rest, c)

/-- Resolves the items of the component lists under some keys. -/
def resolveLists (one : String → Members → Context → Members × Context) (parent : String) :
    List String → Members → Context → Members × Context
  | [], doc, c => (doc, c)
  | key :: rest, doc, c =>
    match doc.get? key with
    | some (.array items) =>
      let (items, c) := resolveItems one parent 0 items c
      resolveLists one parent rest (doc.insert key (.array items)) c
    | _ => resolveLists one parent rest doc c

/-! ### Resolution -/

/-- Adds the log to a document that builds on others. -/
def withLog (doc : Members) (log : List String) : Members :=
  if log.isEmpty then doc else doc.insert logKey (.array (log.map .string))

/-- A document over what it builds on; component objects in place are resolved as deep as `nesting`
says. -/
def resolveDocument (files : FileTree) (resolve : ParentResolver) :
    Nat → List String → Descriptor → Context → Resolved × Context
  | nesting, path, d, c =>
    let path := path ++ [d.key]
    let (own, layers) := applyKeys files resolve path d.key inheritanceKeys d.doc { context := c }
    let doc := merge layers.merged own
    let (doc, c) := match nesting with
      | 0 => (doc, layers.context)
      | nesting + 1 =>
        let one := fun key doc c =>
          let (r, c) := resolveDocument files resolve nesting path
            ⟨key, d.path, Kind.detect "" doc, doc⟩ c
          (r.doc, c)
        resolveLists one d.key componentListKeys doc layers.context
    (⟨d.key, d.path, d.kind, withLog doc layers.log, layers.log⟩, c)

/-- A descriptor over what it builds on, from memory or with `nesting` and the number of descriptors
that may still be put on the path. -/
def resolveAt (files : FileTree) (nesting : Nat) : Nat → ParentResolver
  | 0, _, d, c => (⟨d.key, d.path, d.kind, d.doc, []⟩, c)
  | budget + 1, path, d, c =>
    match c.resolver.memo.get? d.key with
    | some r => (r, c)
    | none =>
      let (r, c) := resolveDocument files (resolveAt files nesting budget) nesting path d c
      (r, c.remember path.length r)

namespace Context

/-- How deep component objects in place may nest.  With a fixed set of descriptors on the path each
further level either uses up one of the 127 levels of a document or a descriptor not yet used. -/
def nestingBound (c : Context) : Nat := 64 * (c.store.size + 1) * (c.store.size + 1)

/-- A descriptor over what it builds on. -/
def resolve (files : FileTree) (c : Context) (d : Descriptor) : Resolved × Context :=
  let (r, c) := resolveAt files c.nestingBound (c.store.size + 1) [] d c
  (r, c.absorb)

/-- The descriptor that a reference means, over what it builds on. -/
def loadResolved (files : FileTree) (c : Context) (reference : String) :
    Except Failure Resolved × Context :=
  let (found, s) := c.store.load files reference
  let c := absorb { c with store := s }
  match found with
  | .error e => (.error e, c)
  | .ok d =>
    let (r, c) := c.resolve files d
    (.ok r, c)

end Context

end DispatchTables
