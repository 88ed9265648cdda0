/-!
# Passes

A compilation is done in six passes.  Each needs what the one before it yields, so to run one is to
run all up to it.

## Main Definitions

* `Pass`: the passes; `Artifact`: what they yield.
* `Pass.inputs`, `Pass.outputs`, `Pass.invariant`: what is known of a pass.
* `Pass.required`: the passes to run for one of them, in order.
-/

namespace DispatchTables

/-- The passes of a compilation. -/
inductive Pass where
  | load
  | resolve
  | traverse
  | filter
  | allocate
  | emit
  deriving DecidableEq, Inhabited

/-- What passes yield. -/
inductive Artifact where
  | root
  | resolved
  | traversal
  | pins
  | generated
  deriving DecidableEq, Inhabited

namespace Pass

/-- The name of a pass. -/
def name : Pass → String
  | load => "load"
  | resolve => "resolve"
  | traverse => "traverse"
  | filter => "filter"
  | allocate => "allocate"
  | emit => "emit"

/-- The passes whose results a pass uses. -/
def inputs : Pass → List Pass
  | load => []
  | resolve => [load]
  | traverse => [resolve]
  | filter => [traverse]
  | allocate => [filter]
  | emit => [allocate]

/-- What a pass yields or changes. -/
def outputs : Pass → List Artifact
  | load => [.root]
  | resolve => [.resolved]
  | traverse => [.traversal]
  | filter => [.traversal]
  | allocate => [.pins]
  | emit => [.generated]

/-- What holds after a pass. -/
def invariant : Pass → String
  | load => "root bot located and parsed"
  | resolve => "inheritance keys applied or reported"
  | traverse => "one entry per component name, bus uses in walk order"
  | filter => "only allow-listed entries remain"
  | allocate => "pin cursor within the chip's exposed pins"
  | emit => "tables parallel and sized to the entry count"

/-- The passes in the order they are run. -/
def all : List Pass := [load, resolve, traverse, filter, allocate, emit]

/-- The passes up to one of them, in order. -/
def required (last : Pass) : List Pass := all.take (all.idxOf last + 1)

/-- The pass asked for is run last. -/
theorem getLast?_required (last : Pass) : last.required.getLast? = some last := by
  cases last <;> rfl

/-- A pass whose results are used is run earlier. -/
theorem inputs_before (last : Pass) :
    ∀ p ∈ last.required, ∀ q ∈ p.inputs, last.required.idxOf q < last.required.idxOf p := by
  cases last <;> decide

end Pass

/-- The name of an artifact. -/
def Artifact.name : Artifact → String
  | root => "root"
  | resolved => "resolved"
  | traversal => "traversal"
  | pins => "pins"
  | generated => "generated"

end DispatchTables
