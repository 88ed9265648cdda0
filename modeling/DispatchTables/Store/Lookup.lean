import DispatchTables.Store.Basic

/-!
# Looking up keys

References are matched with keys.  The whole reference is tried first, then what is left of it
without its first name, and so on; a reference of several names keeps its last two.  What is tried
matches the key that equals it, or else the keys that end in it after a slash, of which the least is
taken.

## Main Definitions

* `tails`: what is tried, in order.
* `Store.keysEndingIn`: the keys that end in a tail.
* `Store.resolveKey`: the key that a reference means.
* `Store.findInDirectory`: the key of a name in a directory of a given name.
-/

namespace DispatchTables

/-- Whether a key ends in some names, or is them. -/
def endsIn (key tail : String) : Bool := ('/' :: tail.toList).isSuffixOf key.toList

/-- The ends of a reference that are tried, the longest first: down to the last two names, or the
last one when there is only one. -/
def tails : List String → List String
  | [] => []
  | [name] => [name]
  | [dir, name] => [joinSegments [dir, name]]
  | name :: more => joinSegments (name :: more) :: tails more

namespace Store

/-- The keys, ascending, that end in a tail. -/
def keysEndingIn (s : Store) (tail : String) : List String := s.keys.filter (endsIn · tail)

/-- The key that a tail means, with the other keys it could have meant. -/
def matchTail (s : Store) (tail : String) : Option (String × List String) :=
  if s.index.has tail then some (tail, [])
  else match s.keysEndingIn tail with
    | [] => none
    | chosen :: others => some (chosen, others)

/-- Says that a reference could have meant other keys. -/
def ambiguity (reference chosen : String) (others : List String) : Diagnostic :=
  (Diagnostic.warn .ambiguousReference reference
    ("reference '" ++ reference ++ "' matches " ++ Nat.repr (others.length + 1) ++
      " descriptors; using '" ++ chosen ++ "'")).advise
    ("also matched: " ++ ", ".intercalate others)

/-- Reports an ambiguous reference, each normal form once. -/
def reportAmbiguity (s : Store) (reference chosen : String) (others : List String) : Store :=
  let normal := normalize reference
  if others.isEmpty || s.reported.contains normal then s
  else { s.warn (ambiguity reference chosen others) with reported := normal :: s.reported }

/-- The key that a reference means. -/
def resolveKey (s : Store) (reference : String) : Except Failure String × Store :=
  match (tails (normalSegments reference)).findSome? s.matchTail with
  | some (chosen, others) => (.ok chosen, s.reportAmbiguity reference chosen others)
  | none => (.error (.notFound reference), s)

/-- The least key of a name inside a directory of a given name, anywhere. -/
def findInDirectory (s : Store) (dir name : String) : Option String :=
  let wanted := normalize dir ++ "/" ++ normalize name
  s.keys.find? fun key => key == wanted || endsIn key wanted

end Store

end DispatchTables
