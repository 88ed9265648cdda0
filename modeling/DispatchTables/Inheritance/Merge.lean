import DispatchTables.Json.Basic

/-!
# Merging documents

A document is laid over another one.  Objects are merged member by member, at any depth; other
values replace those below them.  The lists of components alone are joined: the items below, then
those above, each item once.

## Main Definitions

* `ListPolicy`: what becomes of two lists under one key.
* `merge`: one document over another.
* `union`: the items of a list, each at its first place only.
-/

namespace DispatchTables

/-- What becomes of two lists under one key. -/
inductive ListPolicy where
  | union
  | replace
  deriving DecidableEq, Inhabited

/-- The keys of the lists of components. -/
def componentListKeys : List String := ["components", "positioned_components"]

/-- Lists of components are joined, all others replaced. -/
def listPolicy (key : String) : ListPolicy :=
  if componentListKeys.contains key then .union else .replace

/-- The items not equal to any of those before them, after the items in `kept`. -/
def distinctAfter (kept : List Json) : List Json → List Json
  | [] => kept
  | item :: rest =>
    if kept.any (·.same item) then distinctAfter kept rest else distinctAfter (kept ++ [item]) rest

/-- The items of two lists, each at its first place only. -/
def union (below above : List Json) : List Json := distinctAfter [] (below ++ above)

mutual

/-- The document `above` over the document `below`.  Members of `below` keep their places; those
only in `above` follow in its order. -/
def merge (below : Members) : Members → Members
  | [] => below
  | (key, value) :: rest =>
    merge (below.insert key (match below.get? key with
      | some old => mergeValue key old value
      | none => value)) rest
termination_by structural above => above

/-- One value over another, under a key. -/
def mergeValue (key : String) : Json → Json → Json
  | .object below, .object above => .object (merge below above)
  | .array below, .array above =>
    match listPolicy key with
    | .union => .array (union below above)
    | .replace => .array above
  | _, above => above
termination_by structural _ above => above

end

end DispatchTables
