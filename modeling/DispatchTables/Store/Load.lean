import DispatchTables.Descriptor.Record
import DispatchTables.Json.Parser
import DispatchTables.Store.Lookup

/-!
# Loading descriptors

A descriptor is read from its file the first time it is asked for, and kept.

## Main Definitions

* `readDescriptor`: reads a file.
* `Store.loadKey`, `Store.load`: the descriptor under a key, and for a reference.
* `Store.loadFile`: the descriptor in a file that need not be below the root.
* `Store.locateBot`: the descriptor of a bot by a name or a path.
* `Store.scanAll`, `Store.chipCatalog`: all descriptors, and all chips among them.

## Design Notes

Every operation gives its result with the store after it.  A failure keeps what was done up to it:
a file that was put into the index stays there.
-/

namespace DispatchTables

/-- The text without the byte order mark that may open it. -/
def dropByteOrderMark (text : String) : String :=
  match text.toList with
  | '\ufeff' :: rest => String.ofList rest
  | _ => text

/-- The members of the document that a text holds. -/
def readDocument (text : String) : Except DocumentFault Members :=
  match Json.parse (dropByteOrderMark text) with
  | .ok (.object members) => .ok members
  | .ok _ => .error .notObject
  | .error e => .error (.syntaxError e)

/-- Reads a file as the descriptor under a key. -/
def readDescriptor (files : FileTree) (key path : String) : Except Failure Descriptor :=
  match files.readText path with
  | .error fault => .error (.access path (.plain fault))
  | .ok text =>
    match readDocument text with
    | .ok doc => .ok (.ofDocument key path doc)
    | .error fault => .error (.malformed path fault)

namespace Store

/-- The descriptor under a key. -/
def loadKey (files : FileTree) (s : Store) (key : String) : Except Failure Descriptor × Store :=
  match s.cache.get? key with
  | some d => (.ok d, s)
  | none =>
    match s.index.get? key with
    | none => (.error (.notFound key), s)
    | some path =>
      match readDescriptor files key path with
      | .error e => (.error e, s)
      | .ok d => (.ok d, { s with cache := s.cache.insert key d })

/-- The descriptor that a reference means. -/
def load (files : FileTree) (s : Store) (reference : String) : Except Failure Descriptor × Store :=
  match s.resolveKey reference with
  | (.error e, s) => (.error e, s)
  | (.ok key, s) => s.loadKey files key

/-- The key of the file at a location: its path below the root, or from the root of the file system
when it lies elsewhere. -/
def keyOfLocation (files : FileTree) (s : Store) (place : Location) : String :=
  let below := match files.resolve s.root with
    | .ok root => FileTree.below? root place
    | .error _ => none
  normalize (match below with
    | some names => joinSegments names
    | none => Path.absolute place)

/-- The descriptor in the file that a path leads to.  The file is put into the index, unless its
key is taken. -/
def loadFile (files : FileTree) (s : Store) (path : String) : Except Failure Descriptor × Store :=
  match files.resolve path with
  | .error fault => (.error (.access path (.plain fault)), s)
  | .ok place =>
    let key := s.keyOfLocation files place
    { s with index := s.index.insertNew key (Path.absolute place) }.loadKey files key

/-- The directories a bot may stand in directly. -/
def botDirectories : List String := ["bots", "subsystems"]

/-- The key of a bot: directly in one of its directories, or deeper below the first. -/
def botKey? (s : Store) (name : String) : Option String :=
  let normal := normalize name
  ((botDirectories.map fun dir => dir ++ "/" ++ normal).find? s.index.has).or
    (s.keys.find? fun key => "bots/".toList.isPrefixOf key.toList && endsIn key normal)

/-- The descriptor of a bot: the file that a path leads to, a bot of that name, or whatever the
name means as a reference. -/
def locateBot (files : FileTree) (s : Store) (name : String) : Except Failure Descriptor × Store :=
  if files.isFile name then s.loadFile files name
  else match s.botKey? name with
    | some key => s.loadKey files key
    | none => s.load files name

/-! ### All descriptors -/

/-- What a scan of several keys yields. -/
structure Scan where
  loaded : List Descriptor := []
  failures : List Failure := []

/-- Loads keys in order; failures are collected. -/
def scan (files : FileTree) : List String → Store → Scan → Scan × Store
  | [], s, found => (found, s)
  | key :: rest, s, found =>
    match s.loadKey files key with
    | (.ok d, s) => scan files rest s { found with loaded := found.loaded ++ [d] }
    | (.error e, s) => scan files rest s { found with failures := found.failures ++ [e] }

/-- Loads every file. -/
def scanAll (files : FileTree) (s : Store) : Scan × Store := scan files s.keys s {}

/-- The chips among descriptors, and why some of them are none. -/
def chipsAmong : List Descriptor → List ChipSpec × List Failure
  | [] => ([], [])
  | d :: rest =>
    let (chips, failures) := chipsAmong rest
    if d.kind = .chipSpec then
      match ChipSpec.ofDocument d.key d.doc with
      | .ok chip => (chip :: chips, failures)
      | .error e => (chips, .invalidShape d.key (.mismatch e) :: failures)
    else (chips, failures)

/-- Every chip of the store, in the order of keys, and the chip files that are none. -/
def chipCatalog (files : FileTree) (s : Store) : (List ChipSpec × List Failure) × Store :=
  let (found, s) := s.scanAll files
  (chipsAmong found.loaded, s)

/-- Every descriptor read so far, in the order of keys. -/
def loaded (s : Store) : List Descriptor := s.cache.values

end Store

end DispatchTables
