import DispatchTables.Descriptor.Kind

/-!
# Descriptors

A descriptor is a document with the key it is known by and the path it was read from.

## Main Definitions

* `declaredName`: the name that a document gives itself.
* `Descriptor`: a document as it was read.
* `Resolved`: a document after inheritance, with the keys that went into it.
-/

namespace DispatchTables

/-- The name that a document gives itself: its `name`, or its `component_name` if there is no
`name` at all, when that is a text with more than blanks in it. -/
def declaredName (doc : Members) : Option String := do
  let value ← (doc.get? "name").or (doc.get? "component_name")
  let name := Text.trimBlank (← value.asString?)
  if name.isEmpty then none else some name

/-- A document as it was read. -/
structure Descriptor where
  key : String
  path : String
  kind : Kind
  doc : Members
  deriving Inhabited

namespace Descriptor

/-- A document under a key, of the kind that it shows. -/
def ofDocument (key path : String) (doc : Members) : Descriptor :=
  ⟨key, path, Kind.detect key doc, doc⟩

/-- The name that the document gives itself. -/
def name (d : Descriptor) : Option String := declaredName d.doc

end Descriptor

/-- A document after inheritance.  The log lists the sources that were applied, the furthest
ancestors first. -/
structure Resolved where
  key : String
  path : String
  kind : Kind
  doc : Members
  log : List String
  deriving Inhabited

/-- The name that the document gives itself. -/
def Resolved.name (r : Resolved) : Option String := declaredName r.doc

end DispatchTables
