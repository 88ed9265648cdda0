import DispatchTables.Files.Fault
import DispatchTables.Files.Path

/-!
# File trees

The state of a file system as a value: which directories there are, and what each file holds.
Operations look paths up name by name, as the system does, and give the tree after them.

## Main Definitions

* `FileTree`: directories and files by location, and a working directory.
* `FileTree.locate`, `FileTree.resolve`: where a path leads, looked up as a whole or by its names.
* `FileTree.read`, `FileTree.readText`, `FileTree.write`, `FileTree.remove`.
* `FileTree.makeDirectory`, `FileTree.makeDirectories`.
* `FileTree.filesBelow`, `FileTree.directoriesBelow`: all that a walk over a directory meets, in
  walking order.

## Design Notes

A location is the list of names from the root of the file system, so it has no `.` or `..` in it.
Walking order takes the names of a directory in ascending order and goes into a directory at its
own place; on lists of names that is the lexicographic order.
-/

namespace DispatchTables

/-- The names that lead from the root of the file system to a place. -/
abbrev Location := List String

/-- Directories and files. -/
structure FileTree where
  workingDirectory : Location
  directories : List Location
  files : List (Location × ByteArray)

namespace FileTree

/-- Whether there is a directory at a location. -/
def hasDirectory (t : FileTree) (place : Location) : Bool :=
  place.isEmpty || t.directories.contains place

/-- What the file at a location holds. -/
def content? (t : FileTree) (place : Location) : Option ByteArray := t.files.lookup place

/-- Whether there is a file at a location. -/
def hasFile (t : FileTree) (place : Location) : Bool := (t.content? place).isSome

/-- One name further on. -/
def enter (t : FileTree) (here : Location) (name : String) : Except FileFault Location :=
  if !t.hasDirectory here then .error .notDirectory
  else if name = "" ∨ name = "." then .ok here
  else if name = ".." then .ok here.dropLast
  else if name.utf8ByteSize > 255 then .error .nameTooLong
  else if t.hasDirectory (here ++ [name]) || t.hasFile (here ++ [name]) then .ok (here ++ [name])
  else .error .noSuchFile

/-- Where the look-up of a path begins. -/
def start (t : FileTree) (path : String) : Location :=
  if Path.isAbsolute path then [] else t.workingDirectory

/-- Refuses the texts that are no paths. -/
def checkText (path : String) : Except FileFault Unit :=
  if path.toList.contains '\x00' then .error .nulInName
  else if path.isEmpty then .error .noSuchFile
  else .ok ()

/-- Refuses the texts that are no paths, and the paths that are too long. -/
def checkPath (path : String) : Except FileFault Unit := do
  checkText path
  if Path.isTooLong path then .error .nameTooLong else .ok ()

/-- Where a path leads, name by name; so its length does not matter. -/
def resolve (t : FileTree) (path : String) : Except FileFault Location := do
  checkText path
  (Path.parts path).foldlM t.enter (t.start path)

/-- Where a path leads when the system is given the whole of it. -/
def locate (t : FileTree) (path : String) : Except FileFault Location := do
  checkPath path
  t.resolve path

/-- Whether a path leads to a file. -/
def isFile (t : FileTree) (path : String) : Bool :=
  match t.locate path with
  | .ok place => t.hasFile place
  | .error _ => false

/-- Whether a path leads to a directory. -/
def isDirectory (t : FileTree) (path : String) : Bool :=
  match t.locate path with
  | .ok place => t.hasDirectory place
  | .error _ => false

/-! ### Reading -/

/-- What a file holds. -/
def read (t : FileTree) (path : String) : Except FileFault ByteArray := do
  match t.content? (← t.locate path) with
  | some content => .ok content
  | none => .error .isDirectory

/-- What a file holds, as text. -/
def readText (t : FileTree) (path : String) : Except FileFault String := do
  match String.fromUTF8? (← t.read path) with
  | some text => .ok text
  | none => .error .notUtf8

/-! ### Changing -/

/-- The tree with a file at a location. -/
def put (t : FileTree) (place : Location) (content : ByteArray) : FileTree :=
  { t with files := (place, content) :: t.files.filter fun f => f.1 != place }

/-- The directory that a path's last name stands in, that name, and whether a slash follows it.
There is no last name in a path of slashes. -/
def locateParent (t : FileTree) (path : String) :
    Except FileFault (Location × Option String × Bool) := do
  checkPath path
  match (Path.parts path).reverse.dropWhile (· == "") with
  | [] => .ok ([], none, true)
  | name :: before =>
    let here ← before.reverse.foldlM t.enter (t.start path)
    if t.hasDirectory here then
      .ok (here, some name, (Path.parts path).getLast? == some "")
    else .error .notDirectory

/-- Writes a file, new or not.  A path that names a directory, or could only name one, is
refused. -/
def write (t : FileTree) (path : String) (content : ByteArray) : Except FileFault FileTree := do
  match ← t.locateParent path with
  | (here, some name, false) =>
    if name = "." ∨ name = ".." then .error .isDirectory
    else if name.utf8ByteSize > 255 then .error .nameTooLong
    else if t.hasDirectory (here ++ [name]) then .error .isDirectory
    else .ok (t.put (here ++ [name]) content)
  | _ => .error .isDirectory

/-- Removes a file, if there is one. -/
def remove (t : FileTree) (path : String) : FileTree :=
  match t.locate path with
  | .ok place => { t with files := t.files.filter fun f => f.1 != place }
  | .error _ => t

/-- Makes one directory. -/
def makeDirectory (t : FileTree) (path : String) : Except FileFault FileTree := do
  match ← t.locateParent path with
  | (here, some name, _) =>
    if name = "." ∨ name = ".." then .error .alreadyExists
    else if name.utf8ByteSize > 255 then .error .nameTooLong
    else if t.hasDirectory (here ++ [name]) || t.hasFile (here ++ [name]) then
      .error .alreadyExists
    else .ok { t with directories := (here ++ [name]) :: t.directories }
  | (_, none, _) => .error .alreadyExists

/-- Makes a directory; one that is there already will do. -/
def ensureDirectory (t : FileTree) (path : String) : Except FileFault FileTree :=
  match t.makeDirectory path with
  | .ok t => .ok t
  | .error fault => if t.isDirectory path then .ok t else .error fault

/-- Makes the first of several nested directories, the longest path first, after the others if it
has no place yet. -/
def makeNested (t : FileTree) : List String → Except FileFault FileTree
  | [] => .ok t
  | path :: shorter =>
    match t.ensureDirectory path with
    | .ok t => .ok t
    | .error .noSuchFile => do (← t.makeNested shorter).ensureDirectory path
    | .error fault => .error fault

/-- Makes a directory and those above it. -/
def makeDirectories (t : FileTree) (path : String) : Except FileFault FileTree :=
  t.makeNested (Path.ancestors path)

/-! ### Walking -/

/-- The names from one location down to another. -/
def below? : Location → Location → Option Location
  | [], place => some place
  | _ :: _, [] => none
  | name :: root, other :: place => if name = other then below? root place else none

/-- Directories that a walk does not enter: hidden ones and build output. -/
def isSkipped (name : String) : Bool := name.toList.head? == some '.' || name == "target"

/-- Whether one location comes before another on a walk, or is it. -/
def comesFirst : Location → Location → Bool
  | [], _ => true
  | _ :: _, [] => false
  | a :: as, b :: bs => decide (a < b) || (a == b && comesFirst as bs)

/-- The files below a location by the names that lead to them, in walking order, without those in a
directory that is not entered. -/
def filesBelow (t : FileTree) (root : Location) : List Location :=
  let found := (t.files.filterMap fun f => below? root f.1).filter fun names =>
    !names.dropLast.any isSkipped
  found.mergeSort comesFirst

/-- The directories that a walk enters below a location, by the names that lead to them, in walking
order. -/
def directoriesBelow (t : FileTree) (root : Location) : List Location :=
  let found := (t.directories.filterMap (below? root)).filter fun names => !names.any isSkipped
  found.mergeSort comesFirst

end FileTree

end DispatchTables
