import DispatchTables.Descriptor.Record

/-!
# Suggested chips

When a chip has too few pins, those that have enough are suggested, the cheapest first.

## Main Definitions

* `Suggestion`: a chip with its number of pins and its price.
* `suggest`: the chips of a catalog that expose enough pins.
-/

namespace DispatchTables

/-- A chip that could be used instead. -/
structure Suggestion where
  name : String
  pins : Nat
  price : Option Double
  deriving DecidableEq, Inhabited

namespace Suggestion

/-- What a chip is suggested with. -/
def ofChip (c : ChipSpec) : Suggestion := ⟨c.name, c.exposedPins.length, c.price⟩

/-- The suggestion as shown, the price with two places. -/
def display (s : Suggestion) : String :=
  match s.price with
  | some price => s.name ++ " (" ++ Nat.repr s.pins ++ " pins, $" ++ price.fixedText 2 ++ ")"
  | none => s.name ++ " (" ++ Nat.repr s.pins ++ " pins)"

/-- The suggestion as a value. -/
def toJson (s : Suggestion) : Json :=
  .object [("name", .string s.name), ("pins", Json.nat s.pins),
    ("price", match s.price with
      | some price => .number (.double price)
      | none => .null)]

/-- The order of prices; no price comes last. -/
def comparePrice : Option Double → Option Double → Ordering
  | some x, some y => x.compareTotal y
  | some _, none => .lt
  | none, some _ => .gt
  | none, none => .eq

/-- The order of suggestions: by price, then by name. -/
def compareTo (a b : Suggestion) : Ordering :=
  (comparePrice a.price b.price).then (compare a.name b.name)

end Suggestion

/-- The chips other than the current one that expose at least as many pins as required. -/
def suggest (catalog : List ChipSpec) (required : Nat) (current : String) : List Suggestion :=
  let fitting := catalog.filter fun c =>
    c.name != current && decide (required ≤ c.exposedPins.length)
  (fitting.map Suggestion.ofChip).mergeSort fun a b => (a.compareTo b).isLE

end DispatchTables
