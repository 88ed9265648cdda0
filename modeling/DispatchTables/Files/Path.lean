/-!
# Paths

A path is text: names with slashes between them, from the root of the file system when it begins
with a slash, else from the working directory.

## Main Definitions

* `Path.parts`: what stands between the slashes, empty parts included.
* `Path.isTooLong`: whether the system refuses a path for its length.
* `Path.join`: a path continued by another.
* `Path.ancestors`: a path and the directories above it, the longest first.
* `Path.extension?`: what follows the last dot of a file name.
-/

namespace DispatchTables.Path

/-- The text between the slashes. -/
def parts (path : String) : List String := (path.toList.splitOn '/').map String.ofList

/-- Whether a path is written from the root. -/
def isAbsolute (path : String) : Bool := path.toList.head? == some '/'

/-- The greatest number of bytes of a path that the system takes. -/
def byteLimit : Nat := 4095

/-- Whether the system refuses a path for its length. -/
def isTooLong (path : String) : Bool := decide (byteLimit < path.utf8ByteSize)

/-- A path continued by another one; an absolute one replaces it. -/
def join (base path : String) : String :=
  if isAbsolute path || base.isEmpty then path
  else if base.toList.getLast? == some '/' then base ++ path
  else base ++ "/" ++ path

/-- A path from the root. -/
def absolute (names : List String) : String := "/" ++ "/".intercalate names

/-- The names of a path, without those that stay where they are. -/
def names (path : String) : List String := (parts path).filter fun n => n != "" && n != "."

/-- The first `count` names of a path, as a path. -/
def first (path : String) (count : Nat) : String :=
  let kept := (names path).take count
  if isAbsolute path then absolute kept else "/".intercalate kept

/-- A path as written, then the directories above it, the nearest first; the root of the file
system is among them, the working directory is not. -/
def ancestors (path : String) : List String :=
  if path.isEmpty then []
  else
    let lowest := if isAbsolute path then 0 else 1
    path :: ((List.range' lowest ((names path).length - lowest)).reverse.map (first path))

/-- The directory part of a path: all but its last name. -/
def parent (path : String) : String := first path ((names path).length - 1)

/-- What follows the last dot of a file name; a dot at its very start does not count. -/
def extension? (name : String) : Option String :=
  if name = ".." then none
  else
    let reversed := name.toList.reverse
    match reversed.dropWhile (· != '.') with
    | [] => none
    | _ :: stem => if stem.isEmpty then none
      else some (String.ofList (reversed.takeWhile (· != '.')).reverse)

/-- The last name of a path. -/
def fileName (path : String) : String := (names path).getLastD ""

end DispatchTables.Path
