import DispatchTables.Proofs.Inheritance.Warnings
import Mathlib.Computability.StateTransition

/-!
# The resolver, step by step

The resolver calls itself for the sources of a document, and for the components in place in it.
Here it is taken apart into steps: the keys of the documents that are being resolved are a stack
that is pushed to and popped from, what is left to do for each of these documents is a frame, and no
bound says how often anything may be done.  So it can be said what is true between any two steps, and
that the steps come to an end.

## Main Definitions

* `Resolver.Frame`: what is left to do for a document.
* `Resolver.Configuration`: the stack, the frames, the context, and what comes next.
* `Resolver.Configuration.step`: one step.
* `Resolver.Reaches`: any number of steps.

## Design Notes

A document is left in one step, since nothing is read or asked for on the way: its key is taken off
the stack, the cut that goes back to it is dropped, and it is remembered if no cut is open.  All
other steps do one thing each.
-/

namespace DispatchTables.Resolver

/-! ### Frames -/

/-- What a document has come to while its sources are applied: what is left of its own members, what
its sources amount to, and their log. -/
structure Draft where
  own : Members
  merged : Members := []
  log : List String := []

/-- A draft with one more source laid over those so far. -/
def Draft.lay (draft : Draft) (r : Resolved) : Draft where
  own := draft.own
  merged := merge draft.merged (inheritable r.doc)
  log := draft.log ++ r.log ++ [r.key]

/-- A draft without an inheritance key, if the key is used up. -/
def Draft.drop (draft : Draft) (key : String) (complete : Bool) : Draft :=
  { draft with own := if complete then draft.own.erase key else draft.own }

/-- What is left to do for a document: inheritance keys, references under one of them, component
lists, items of one of these. -/
inductive Stage where
  | keys (left : List String) (draft : Draft)
  | sources (references : List String) (complete : Bool) (key : String) (left : List String)
      (draft : Draft)
  | lists (left : List String) (doc : Members) (log : List String)
  | items (done rest : List Json) (key : String) (left : List String) (doc : Members)
      (log : List String)

/-- What becomes of a stage when what was asked for is there: a source is laid over those so far, a
component in place is put where it stood. -/
def Stage.receive (r : Resolved) : Stage → Stage
  | sources references complete key left draft =>
    sources references complete key left (draft.lay r)
  | items done rest key left doc log => items (done ++ [.object r.doc]) rest key left doc log
  | stage => stage

/-- A document that is being resolved.  One in place is not remembered. -/
structure Frame where
  document : Descriptor
  inPlace : Bool
  stage : Stage

/-! ### Configurations -/

/-- What comes next: a descriptor is asked for, what was asked for is there, or the innermost
document is gone on with. -/
inductive Control where
  | ask (d : Descriptor)
  | answer (r : Resolved)
  | proceed

/-- **The resolver between two steps.**  The stack has the outermost key first, the frames have the
innermost document first. -/
structure Configuration where
  stack : List String
  context : Context
  frames : List Frame
  control : Control

namespace Configuration

/-- A call from outside. -/
def call (c : Context) (d : Descriptor) : Configuration := ⟨[], c, [], .ask d⟩

/-- Begins with a document: its key is put on the stack. -/
def enter (m : Configuration) (d : Descriptor) (inPlace : Bool) : Configuration :=
  ⟨m.stack ++ [d.key], m.context,
    ⟨d, inPlace, .keys inheritanceKeys { own := d.doc }⟩ :: m.frames, .proceed⟩

/-- Goes on with the innermost document at another stage. -/
def turn (m : Configuration) (frame : Frame) (rest : List Frame) (stage : Stage) (c : Context) :
    Configuration :=
  ⟨m.stack, c, { frame with stage } :: rest, .proceed⟩

/-- Is done with the innermost document: its key is taken off the stack, and what it has come to is
remembered as far as the cut allows. -/
def leave (m : Configuration) (frame : Frame) (rest : List Frame) (doc : Members)
    (log : List String) : Configuration :=
  let stack := m.stack.dropLast
  let d := frame.document
  let r : Resolved := ⟨d.key, d.path, d.kind, withLog doc log, log⟩
  ⟨stack, if frame.inPlace then m.context else m.context.remember stack.length r, rest, .answer r⟩

/-- Looks up a source of the innermost document.  `stage` is what is left to do after that, given
whether all sources could be had. -/
def seek (files : FileTree) (m : Configuration) (frame : Frame) (rest : List Frame)
    (reference : String) (complete : Bool) (stage : Bool → Stage) : Configuration :=
  match m.context.loadForResolver files reference with
  | (.error e, c) =>
    m.turn frame rest (stage false)
      (c.warnResolver (leftUnresolved frame.document.key reference e))
  | (.ok parent, c) =>
    match m.stack.idxOf? parent.key with
    | some place =>
      m.turn frame rest (stage false)
        ((c.noteCut place).warnResolver (cycleSkipped m.stack frame.document.key parent.key))
    | none => ⟨m.stack, c, { frame with stage := stage complete } :: rest, .ask parent⟩

/-- Goes on with the innermost document. -/
def proceed (files : FileTree) (m : Configuration) (frame : Frame) (rest : List Frame) :
    Configuration :=
  match frame.stage with
  | .keys [] draft =>
    m.turn frame rest (.lists componentListKeys (merge draft.merged draft.own) draft.log) m.context
  | .keys (key :: left) draft =>
    match draft.own.get? key with
    | none => m.turn frame rest (.keys left draft) m.context
    | some value =>
      match references? value with
      | none =>
        m.turn frame rest (.keys left draft)
          (m.context.warnResolver (sourcesMalformed frame.document.key key))
      | some references => m.turn frame rest (.sources references true key left draft) m.context
  | .sources [] complete key left draft =>
    m.turn frame rest (.keys left (draft.drop key complete)) m.context
  | .sources (reference :: references) complete key left draft =>
    m.seek files frame rest reference complete fun complete =>
      .sources references complete key left draft
  | .lists [] doc log => m.leave frame rest doc log
  | .lists (key :: left) doc log =>
    match doc.get? key with
    | some (.array items) => m.turn frame rest (.items [] items key left doc log) m.context
    | _ => m.turn frame rest (.lists left doc log) m.context
  | .items done [] key left doc log =>
    m.turn frame rest (.lists left (doc.insert key (.array done)) log) m.context
  | .items done (item :: items) key left doc log =>
    let passed := m.turn frame rest (.items (done ++ [item]) items key left doc log) m.context
    match item with
    | .object inner =>
      if inherits inner then
        let label := (declaredName inner).getD (Nat.repr done.length)
        let d := frame.document
        enter (m.turn frame rest (.items done items key left doc log) m.context)
          ⟨d.key ++ "#" ++ label, d.path, Kind.detect "" inner, inner⟩ true
      else passed
    | _ => passed

/-- **One step**, unless a call from outside has been answered. -/
def step (files : FileTree) (m : Configuration) : Option Configuration :=
  match m.control, m.frames with
  | .ask d, _ =>
    match m.context.resolver.memo.get? d.key with
    | some r => some { m with control := .answer r }
    | none => some (m.enter d false)
  | .answer r, frame :: rest => some (m.turn frame rest (frame.stage.receive r) m.context)
  | .proceed, frame :: rest => some (m.proceed files frame rest)
  | _, [] => none

end Configuration

/-- One configuration comes after another. -/
def Next (files : FileTree) (m m' : Configuration) : Prop := m' ∈ m.step files

/-- **Some steps lead from one configuration to another.** -/
abbrev Reaches (files : FileTree) : Configuration → Configuration → Prop :=
  StateTransition.Reaches (Configuration.step files)

end DispatchTables.Resolver
