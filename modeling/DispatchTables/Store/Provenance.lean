import DispatchTables.Json.Printer
import DispatchTables.Sha256
import DispatchTables.Store.Load

/-!
# Provenance

Generated tables say what they were made from: a hash over every descriptor that was read, and the
version of the compiler.

## Main Definitions

* `fingerprintText`: what is hashed.
* `Provenance`: the hash, the number of descriptors, and the version.
* `Provenance.toText`: the provenance as a document.
-/

namespace DispatchTables

/-- What one descriptor adds to the hash: its key and its document, each closed by a zero byte. -/
def fingerprintPart (d : Descriptor) : String :=
  d.key ++ "\x00" ++ (Json.object d.doc).compact ++ "\x00"

/-- The text that is hashed for some descriptors. -/
def fingerprintText (ds : List Descriptor) : String := String.join (ds.map fingerprintPart)

/-- The hash of some descriptors. -/
def fingerprint (ds : List Descriptor) : List UInt8 := sha256 (fingerprintText ds).toUTF8.toList

/-- The version of the compiler. -/
def compilerVersion : String := "0.3.0"

/-- What generated tables were made from. -/
structure Provenance where
  fingerprint : List UInt8
  count : Nat
  version : String
  deriving DecidableEq, Inhabited

namespace Provenance

/-- The provenance of everything that a store has read. -/
def ofStore (s : Store) : Provenance :=
  ⟨DispatchTables.fingerprint s.loaded, s.loaded.length, compilerVersion⟩

/-- The hash in digits of base sixteen. -/
def hex (p : Provenance) : String :=
  String.ofList (p.fingerprint.flatMap fun b => Text.hexDigits 2 b.toNat)

/-- The provenance as a document of three members, with a line end. -/
def toText (p : Provenance) : String :=
  (Json.object [("descriptor_fingerprint", .string p.hex), ("descriptor_count", Json.nat p.count),
    ("compiler_version", .string p.version)]).pretty ++ "\n"

end Provenance

end DispatchTables
