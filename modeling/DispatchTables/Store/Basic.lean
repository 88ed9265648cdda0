import DispatchTables.Descriptor.Basic
import DispatchTables.Failure
import DispatchTables.Files.Tree
import DispatchTables.KeyMap
import DispatchTables.Store.Key

/-!
# Descriptor stores

A store knows the descriptor files below a root directory by key, and keeps what it has read of
them.

## Main Definitions

* `Store`: the index of files, the descriptors read so far, and warnings not yet collected.
* `Store.index`: adds a file to a store.
* `Store.ofDirectory`: the store of all descriptor files below a directory.
* `Store.takeWarnings`: the warnings since the last time.

## Design Notes

Two files may have the same key.  The one that comes first on a walk in the order of file names
keeps it, and a warning names the other.
-/

namespace DispatchTables

/-- The descriptor files below a directory. -/
structure Store where
  root : String
  index : KeyMap String
  cache : KeyMap Descriptor
  reported : List String
  warnings : List Diagnostic
  deriving Inhabited

namespace Store

/-- A store without files. -/
def empty (root : String) : Store := ⟨root, .empty, .empty, [], []⟩

/-- The keys of all files, ascending. -/
def keys (s : Store) : List String := s.index.keys

/-- The number of files. -/
def size (s : Store) : Nat := s.index.size

/-- Adds a warning. -/
def warn (s : Store) (d : Diagnostic) : Store := { s with warnings := s.warnings ++ [d] }

/-- The warnings since the last time, and the store without them. -/
def takeWarnings (s : Store) : List Diagnostic × Store := (s.warnings, { s with warnings := [] })

/-! ### Opening -/

/-- Whether a file name has the extension of descriptors, in whatever case. -/
def isDescriptorFile (name : String) : Bool :=
  match Path.extension? name with
  | some extension => extension.toList.map Char.toLower == "json".toList
  | none => false

/-- The path of what stands below a directory, by the names that lead there. -/
def pathBelow (root : String) (names : Location) : String := names.foldl Path.join root

/-- Adds a file by the names that lead to it from the root, unless its key is taken. -/
def addFile (s : Store) (names : Location) : Store :=
  let path := pathBelow s.root names
  let key := normalize (joinSegments names)
  match s.index.get? key with
  | some first =>
    s.warn (.warn .ambiguousReference key
      ("'" ++ first ++ "' and '" ++ path ++ "' normalize to the same key; using the first"))
  | none => { s with index := s.index.insert key path }

/-- The first directory of a walk, by its path, that the system refuses to list.  A walk lists the
directories below its root by paths that begin with the root as it was given. -/
def unlistable? (files : FileTree) (root : String) (place : Location) : Option String :=
  ((files.directoriesBelow place).map (pathBelow root)).find? Path.isTooLong

/-- The store of the descriptor files below a directory.  Hidden directories and build output are
passed over. -/
def ofDirectory (files : FileTree) (root : String) : Except Failure Store :=
  match files.locate root with
  | .error fault => .error (.access root (.walking root fault))
  | .ok place =>
    match unlistable? files root place with
    | some path => .error (.access path (.walking path .nameTooLong))
    | none =>
      let found := (files.filesBelow place).filter fun names =>
        isDescriptorFile (names.getLastD (Path.fileName root))
      .ok (found.foldl addFile (empty root))

end Store

end DispatchTables
