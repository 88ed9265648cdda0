import DispatchTables.CommandLine.Invocation
import DispatchTables.Pipeline.Check
import DispatchTables.Pipeline.Run

/-!
# Execution

What the command does on a file system: what it prints, what it writes, and its exit code.

## Main Definitions

* `Outcome`: what the command has done.
* `Invocation.execute`: does what an invocation says.
* `Reply.give`: says what there is to say when nothing is to be done.
* `executeArguments`: the same from the arguments.
-/

namespace DispatchTables

/-- What the command has done; `files` is the file system afterwards. -/
structure Outcome where
  exit : UInt32
  stdout : String := ""
  stderr : String := ""
  files : FileTree

/-- A line that the command says. -/
def sayLine (text : String) : String := "generate_tables: " ++ text ++ "\n"

/-- Diagnostics as they are shown. -/
def showDiagnostics (ds : List Diagnostic) : String :=
  String.join (ds.map fun d => sayLine d.display)

/-- An error of the command itself. -/
def sayError (text : String) : String := sayLine ("error: " ++ text)

/-! ### Writing files -/

/-- Why generated files could not be written. -/
inductive OutputFault where
  | makingDirectory (path : String) (fault : FileFault)
  | writing (path : String) (fault : FileFault)
  deriving DecidableEq

/-- The words for a fault. -/
def OutputFault.text : OutputFault → String
  | makingDirectory path fault => "creating output directory " ++ path ++ ": " ++ fault.text
  | writing path fault => "writing " ++ path ++ ": " ++ fault.text

/-- Writes files into a directory, up to the first that cannot be written. -/
def writeFiles (dir : String) : List (String × String) → FileTree → Option OutputFault × FileTree
  | [], files => (none, files)
  | (name, text) :: rest, files =>
    match files.write (Path.join dir name) text.toUTF8 with
    | .ok files => writeFiles dir rest files
    | .error fault => (some (.writing (Path.join dir name) fault), files)

/-- Writes generated files, first the header, into a directory that is made if need be. -/
def writeTables (dir : String) (t : TableFiles) (files : FileTree) :
    Option OutputFault × FileTree :=
  match files.makeDirectories dir with
  | .error fault => (some (.makingDirectory dir fault), files)
  | .ok files => writeFiles dir [(t.names.header, t.header), (t.names.source, t.source)] files

/-! ### Doing what is asked -/

namespace Product

/-- The pass that yields a product. -/
def pass : Product → Pass
  | tables => .emit
  | dispatch => .filter
  | pins => .allocate
  | resolved => .resolve
  | check => .traverse
  | buildInfo => .emit

end Product

/-- A value on lines of its own. -/
def showJson (v : Json) : String := v.pretty ++ "\n"

/-- What is printed of a finished compilation. -/
def Product.printed (product : Product) (c : Compilation) : String :=
  match product with
  | .dispatch => ((c.artifacts.traversal).map fun t => showJson t.toJson).getD ""
  | .pins => showJson ((c.artifacts.pins.map PinReport.toJson).getD .null)
  | .resolved => (c.artifacts.resolved.map fun r => showJson (.object r.doc)).getD ""
  | .buildInfo => (c.provenance.map Provenance.toText).getD ""
  | .tables | .check => ""

namespace Invocation

/-- What is said ahead of everything else. -/
def preface (i : Invocation) : String :=
  if i.verbose then
    sayLine ("root   = " ++ i.root) ++ sayLine ("bot    = " ++ i.bot) ++
      sayLine ("emit   = " ++ i.product.title)
  else ""

/-- The options for the compilation. -/
def options (i : Invocation) : CompileOptions := ⟨i.bot, i.environment, i.chip, i.names⟩

/-- Checks all descriptors of a store. -/
def check (files : FileTree) (s : Store) : Outcome :=
  let (ds, _) := (Context.ofStore s).checkAll files
  { exit := if ds.any Diagnostic.isError then 1 else 0, stderr := showDiagnostics ds, files }

/-- Hands over the product of a finished compilation: files are written, all else is printed. -/
def deliver (i : Invocation) (files : FileTree) (c : Compilation) : Outcome :=
  match i.product, i.outputDirectory, c.artifacts.generated with
  | .tables, some dir, some generated =>
    match writeTables dir generated files with
    | (none, files) => { exit := 0, files }
    | (some fault, files) => { exit := 2, stderr := sayError fault.text, files }
  | product, _, _ => { exit := 0, stdout := product.printed c, files }

/-- Compiles the bot and hands over the product. -/
def compile (i : Invocation) (files : FileTree) (s : Store) : Outcome :=
  let (report, c) := (Compilation.ofStore s).run files i.options i.product.pass
  let said := showDiagnostics (report.passes.flatMap (·.2))
  match report.failure with
  | some _ => { exit := 1, stderr := said, files }
  | none =>
    let delivered := i.deliver files c
    { delivered with stderr := said ++ delivered.stderr }

/-- What is done on the store of an invocation. -/
def executeOn (i : Invocation) (files : FileTree) (s : Store) : Outcome :=
  match i.product, i.outputDirectory with
  | .check, _ => check files s
  | .tables, none =>
    { exit := 2, stderr := sayError "<output_dir> is required for --emit tables", files }
  | _, _ => i.compile files s

/-- Does what an invocation says. -/
def execute (i : Invocation) (files : FileTree) : Outcome :=
  let done := match Store.ofDirectory files i.root with
    | .ok s => i.executeOn files s
    | .error e => { exit := 1, stderr := showDiagnostics [e.toDiagnostic], files }
  { done with stderr := i.preface ++ done.stderr }

end Invocation

/-! ### Words about the command -/

/-- How the command is used. -/
def helpText : String :=
  "Compiles JSON component descriptors into firmware dispatch tables\n" ++
  "\nUsage: generate_tables [OPTIONS] <BOT_NAME> [OUTPUT_DIR] [ENVIRONMENT]\n" ++
  "\nArguments:\n" ++
  "  <BOT_NAME>     Bot name (searched under bots/, subsystems/, family folders) or a file path\n" ++
  "  [OUTPUT_DIR]   Directory the generated header and source are written to\n" ++
  "  [ENVIRONMENT]  Environment allow-list: a file under environments/ or a comma-separated list\n" ++
  "\nOptions:\n" ++
  "      --root <ROOT>                Descriptor root directory\n" ++
  "      --chip <CHIP>                Controller chip spec, overriding the bot's controller\n" ++
  "      --emit <EMIT>                Output stage\n" ++
  "      --header-name <HEADER_NAME>  Generated header file name\n" ++
  "      --source-name <SOURCE_NAME>  Generated source file name\n" ++
  "      --log-level <LOG_LEVEL>      Logging verbosity level\n" ++
  "      --verbose                    Print compiler passes and timing\n" ++
  "  -h, --help                       Print help\n" ++
  "  -V, --version                    Print version\n"

/-- Says what there is to say when nothing is to be done. -/
def Reply.give (reply : Reply) (files : FileTree) : Outcome :=
  match reply with
  | .help => { exit := 0, stdout := helpText, files }
  | .version => { exit := 0, stdout := "generate_tables " ++ compilerVersion ++ "\n", files }
  | .misuse e => { exit := 2, stderr := sayError e.text, files }

/-- Does what arguments say. -/
def executeArguments (arguments : List String) (defaultRoot : Option String) (files : FileTree) :
    Outcome :=
  match Invocation.ofArguments arguments defaultRoot with
  | .ok i => i.execute files
  | .error reply => reply.give files

end DispatchTables
