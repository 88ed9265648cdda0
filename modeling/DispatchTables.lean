import DispatchTables.CommandLine.Execution
import DispatchTables.CommandLine.Invocation
import DispatchTables.Context
import DispatchTables.Descriptor.Basic
import DispatchTables.Descriptor.Kind
import DispatchTables.Descriptor.Parts
import DispatchTables.Descriptor.Record
import DispatchTables.Descriptor.Shape
import DispatchTables.Diagnostic
import DispatchTables.Environment
import DispatchTables.Failure
import DispatchTables.Files.Fault
import DispatchTables.Files.Path
import DispatchTables.Files.Tree
import DispatchTables.Inheritance.Merge
import DispatchTables.Inheritance.Resolver
import DispatchTables.Json.Basic
import DispatchTables.Json.Parser
import DispatchTables.Json.Printer
import DispatchTables.Json.SyntaxError
import DispatchTables.KeyMap
import DispatchTables.Main
import DispatchTables.Number.Decimal
import DispatchTables.Number.Double
import DispatchTables.Number.Format
import DispatchTables.Pins.Allocation
import DispatchTables.Pins.BusUse
import DispatchTables.Pins.Suggestion
import DispatchTables.Pipeline.Check
import DispatchTables.Pipeline.Compilation
import DispatchTables.Pipeline.Pass
import DispatchTables.Pipeline.Run
import DispatchTables.Proofs.CommandLine.Outputs
import DispatchTables.Proofs.Descriptor.Fields
import DispatchTables.Proofs.Files.Places
import DispatchTables.Proofs.Files.Writing
import DispatchTables.Proofs.Inheritance.Alone
import DispatchTables.Proofs.Inheritance.Audit
import DispatchTables.Proofs.Inheritance.Calls
import DispatchTables.Proofs.Inheritance.Citing
import DispatchTables.Proofs.Inheritance.Ending
import DispatchTables.Proofs.Inheritance.Frame
import DispatchTables.Proofs.Inheritance.Joining
import DispatchTables.Proofs.Inheritance.Keeping
import DispatchTables.Proofs.Inheritance.Layers
import DispatchTables.Proofs.Inheritance.Leaning
import DispatchTables.Proofs.Inheritance.Machine
import DispatchTables.Proofs.Inheritance.Memory
import DispatchTables.Proofs.Inheritance.Merging
import DispatchTables.Proofs.Inheritance.Nesting
import DispatchTables.Proofs.Inheritance.Paths
import DispatchTables.Proofs.Inheritance.Placed
import DispatchTables.Proofs.Inheritance.Recall
import DispatchTables.Proofs.Inheritance.Reordering
import DispatchTables.Proofs.Inheritance.Standing
import DispatchTables.Proofs.Inheritance.Twins
import DispatchTables.Proofs.Inheritance.Warnings
import DispatchTables.Proofs.Json.Compact
import DispatchTables.Proofs.Json.Counting
import DispatchTables.Proofs.Json.Equality
import DispatchTables.Proofs.Json.Members
import DispatchTables.Proofs.Json.Reading
import DispatchTables.Proofs.Lists.Places
import DispatchTables.Proofs.Number.Order
import DispatchTables.Proofs.Number.Rounding
import DispatchTables.Proofs.Number.Written
import DispatchTables.Proofs.Pins.Alternatives
import DispatchTables.Proofs.Pins.Charging
import DispatchTables.Proofs.Pins.Filtering
import DispatchTables.Proofs.Pipeline.Checking
import DispatchTables.Proofs.Pipeline.Passes
import DispatchTables.Proofs.Pipeline.Reading
import DispatchTables.Proofs.Pipeline.Reports
import DispatchTables.Proofs.Reference.Spelling
import DispatchTables.Proofs.Store.Agreement
import DispatchTables.Proofs.Store.AllowLists
import DispatchTables.Proofs.Store.Catalog
import DispatchTables.Proofs.Store.Growth
import DispatchTables.Proofs.Store.History
import DispatchTables.Proofs.Store.LiteralPaths
import DispatchTables.Proofs.Store.NormalForm
import DispatchTables.Proofs.Store.OwnKeys
import DispatchTables.Proofs.Store.Resolving
import DispatchTables.Proofs.Store.Stamps
import DispatchTables.Proofs.Tables.Collisions
import DispatchTables.Proofs.Tables.Columns
import DispatchTables.Proofs.Tables.Introduction
import DispatchTables.Proofs.Tables.Literals
import DispatchTables.Proofs.Tables.Macros
import DispatchTables.Proofs.Tables.Pieces
import DispatchTables.Proofs.Tables.Symbols
import DispatchTables.Proofs.Tables.Tokens
import DispatchTables.Proofs.Tables.UseFields
import DispatchTables.Proofs.Template.Claiming
import DispatchTables.Proofs.Template.FieldNames
import DispatchTables.Proofs.Template.Names
import DispatchTables.Proofs.Text.Runs
import DispatchTables.Proofs.Text.SmallLetters
import DispatchTables.Proofs.Traversal.Accounting
import DispatchTables.Proofs.Traversal.Ending
import DispatchTables.Proofs.Traversal.Faults
import DispatchTables.Proofs.Traversal.Graph
import DispatchTables.Proofs.Traversal.InPlace
import DispatchTables.Proofs.Traversal.Listed
import DispatchTables.Proofs.Traversal.Machine
import DispatchTables.Proofs.Traversal.Meetable
import DispatchTables.Proofs.Traversal.Origins
import DispatchTables.Proofs.Traversal.Ownership
import DispatchTables.Proofs.Traversal.Quiet
import DispatchTables.Proofs.Traversal.Refinement
import DispatchTables.Proofs.Traversal.Rows
import DispatchTables.Proofs.Traversal.Sharing
import DispatchTables.Proofs.Traversal.Standing
import DispatchTables.Proofs.Traversal.Stock
import DispatchTables.Proofs.Traversal.Tale
import DispatchTables.Proofs.Traversal.Traces
import DispatchTables.Proofs.Traversal.Trail
import DispatchTables.Proofs.Traversal.Twins
import DispatchTables.Proofs.Traversal.Warnings
import DispatchTables.Reference
import DispatchTables.Sha256
import DispatchTables.Store.Basic
import DispatchTables.Store.Key
import DispatchTables.Store.Load
import DispatchTables.Store.Lookup
import DispatchTables.Store.Provenance
import DispatchTables.Symbol
import DispatchTables.Tables.Basic
import DispatchTables.Tables.Generation
import DispatchTables.Tables.Header
import DispatchTables.Tables.Literal
import DispatchTables.Tables.PinMacros
import DispatchTables.Tables.Source
import DispatchTables.Tables.UseFields
import DispatchTables.Template.Expansion
import DispatchTables.Template.NativeType
import DispatchTables.Text.Blank
import DispatchTables.Text.CaseTables
import DispatchTables.Text.CharSet
import DispatchTables.Text.Identifier
import DispatchTables.Text.Letters
import DispatchTables.Text.Lowercase
import DispatchTables.Text.Printable
import DispatchTables.Text.Quoted
import DispatchTables.Traversal.Basic
import DispatchTables.Traversal.Walk
