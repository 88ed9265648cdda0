import DispatchTables.CommandLine.Execution

/-!
# The command

Runs the command on the real file system.  What an invocation may look at is read first; then it is
executed on that tree, and what has changed in the tree is written back.

## Main Definitions

* `observe`: the part of the file system that an invocation may look at.
* `writeBack`: the changes of a tree.
-/

namespace DispatchTables

/-- The location that a path leads to, when no name on it is a link. -/
def locationFrom (here : Location) (path : String) : Location :=
  (Path.parts path).foldl (fun place name =>
    if name = "" ∨ name = "." then place
    else if name = ".." then place.dropLast
    else place ++ [name]) (if Path.isAbsolute path then [] else here)

/-- The tree with an entry of a directory and all that is below it; only descriptors are read. -/
partial def observeEntry (here : Location) (entry : IO.FS.DirEntry) (t : FileTree) :
    IO FileTree := do
  let place := here ++ [entry.fileName]
  match (← entry.path.symlinkMetadata).type with
  | .dir =>
    if FileTree.isSkipped entry.fileName then return t
    let mut t := { t with directories := place :: t.directories }
    for inner in ← entry.path.readDir do
      t ← observeEntry place inner t
    return t
  | .file =>
    if Store.isDescriptorFile entry.fileName then
      return t.put place (← IO.FS.readBinFile entry.path)
    else return t
  | _ => return t

/-- The tree with what stands at the end of a path. -/
def observePath (path : String) (t : FileTree) : IO FileTree := do
  let target := (← IO.currentDir) / path
  let place := locationFrom t.workingDirectory path
  if ← target.isDir then return { t with directories := place :: t.directories }
  else if ← target.pathExists then return t.put place (← IO.FS.readBinFile target)
  else return t

/-- The tree with what stands at the ends of paths and of the directories above them. -/
def observePaths (paths : List String) (t : FileTree) : IO FileTree :=
  (paths.flatMap Path.ancestors).foldlM (fun t path => observePath path t) t

/-- The tree with everything below a directory. -/
def observeBelow (dir : String) (t : FileTree) : IO FileTree := do
  let target := (← IO.currentDir) / dir
  if ← target.isDir then
    (← target.readDir).foldlM
      (fun t entry => observeEntry (locationFrom t.workingDirectory dir) entry t) t
  else return t

/-- The paths that an invocation may look at. -/
def Invocation.paths (i : Invocation) : List String :=
  [i.root, i.bot] ++ match i.outputDirectory with
    | some dir => [dir, Path.join dir i.names.header, Path.join dir i.names.source]
    | none => []

/-- The part of the file system that an invocation may look at. -/
def observe (i : Invocation) : IO FileTree := do
  let here := locationFrom [] (← IO.currentDir).toString
  let above := (List.range here.length).map fun n => here.take (n + 1)
  observeBelow i.root (← observePaths i.paths ⟨here, above, []⟩)

/-- Writes what has changed from one tree to the next. -/
def writeBack (before after : FileTree) : IO Unit := do
  for place in after.directories.reverse do
    if !before.hasDirectory place then IO.FS.createDirAll (Path.absolute place)
  for (place, content) in after.files.reverse do
    if !((before.content? place).map ByteArray.data == some content.data) then
      IO.FS.writeBinFile (Path.absolute place) content

/-- Does what an invocation says on the real file system. -/
def Invocation.perform (i : Invocation) : IO Outcome := do
  let before ← observe i
  let outcome := i.execute before
  writeBack before outcome.files
  return outcome

/-- Prints what has been said, and gives the exit code. -/
def Outcome.print (outcome : Outcome) : IO UInt32 := do
  IO.eprint outcome.stderr
  IO.print outcome.stdout
  return outcome.exit

end DispatchTables

open DispatchTables in
/-- The command. -/
def main (arguments : List String) : IO UInt32 := do
  match Invocation.ofArguments arguments (← IO.getEnv "TABLEGEN_ROOT") with
  | .error reply => (reply.give ⟨[], [], []⟩).print
  | .ok i =>
    try
      (← i.perform).print
    catch e =>
      IO.eprint (sayError e.toString)
      return 2
