import DispatchTables.Store.Load
import DispatchTables.Traversal.Basic

/-!
# Environments

A build for one environment carries only some of a bot's components.  Which ones is said by an
allow-list: a file of its own, or names written out with commas between them.

## Main Definitions

* `AllowList`: the names, and where they are from.
* `AllowList.load`: the allow-list that an argument means.
* `AllowList.filter`: a traversal without the rows that are not allowed.
* `AllowList.warnings`: what there is to say about it.
-/

namespace DispatchTables

/-- The names allowed in an environment, and where they are from: the key of a file, or the names as
they were written. -/
structure AllowList where
  source : String
  names : List String
  deriving DecidableEq, Inhabited

namespace AllowList

/-- Whether a name is allowed. -/
def contains (allow : AllowList) (name : String) : Bool := allow.names.contains name

/-! ### Loading -/

/-- Names with commas between them; blanks around a name do not count, nor do empty names. -/
def namesIn (text : String) : List String :=
  ((text.toList.splitOn ',').map fun name => String.ofList (Text.trimBlankChars name)).filter
    (· != "")

/-- The directory that allow-lists stand in. -/
def directory : String := "environments"

/-- The names in the document of an environment. -/
def namesOf? (doc : Members) : Option (List String) := do
  (← (← doc.get? "allowed_components").asArray?).mapM Json.asString?

/-- The allow-list that an argument means: the environment of that name, or else the names in the
argument itself. -/
def load (files : FileTree) (s : Store) (argument : String) : Except Failure AllowList × Store :=
  match s.findInDirectory directory argument with
  | none => (.ok ⟨argument, namesIn argument⟩, s)
  | some key =>
    match s.load files key with
    | (.error e, s) => (.error e, s)
    | (.ok d, s) =>
      match namesOf? d.doc with
      | some names => (.ok ⟨key, names⟩, s)
      | none => (.error (.invalidShape key .allowListNotNames), s)

/-! ### Filtering -/

/-- The rows that are not allowed. -/
def dropped (allow : AllowList) (t : Traversal) : List DispatchEntry :=
  t.entries.filter fun e => !allow.contains e.name

/-- Whether a bus encounter stays: it does unless it belongs to a row that is dropped. -/
def keepsUse (allow : AllowList) (t : Traversal) (u : BusUse) : Bool :=
  match u.owner with
  | none => true
  | some owner => !(allow.dropped t).any fun e => e.name == owner

/-- The traversal without the rows that are not allowed and without what belongs to them. -/
def filter (allow : AllowList) (t : Traversal) : Traversal :=
  { t with
    entries := t.entries.filter fun e => allow.contains e.name
    busUses := t.busUses.filter (allow.keepsUse t) }

/-- The allowed names that are not part of the bot. -/
def unknown (allow : AllowList) (t : Traversal) : List String :=
  allow.names.filter fun name => !t.entries.any fun e => e.name == name

/-- The warnings: names that are not part of the bot, then rows that are dropped. -/
def warnings (allow : AllowList) (t : Traversal) : List Diagnostic :=
  (allow.unknown t).map (fun name => .warn .unknownAllowed allow.source
    ("allow-list names '" ++ name ++ "', which is not part of the bot")) ++
  (allow.dropped t).map fun e => .warn .droppedEntry e.name
    ("dropped: not allowed by environment '" ++ allow.source ++ "'")

end AllowList

end DispatchTables
