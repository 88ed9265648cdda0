import DispatchTables.Proofs.Inheritance.Merging
import DispatchTables.Proofs.Json.Equality
import Mathlib.Data.List.Induction

/-!
# Merged documents at any depth

A path of keys leads through objects to a value.  What a document laid over another one says at the
end of a path depends on what the upper one says along it.  It may say nothing there, and then the
lower one is seen, unless a value that is no object stands in the way; it may say an object, which
lets the members below show through; or it says something else, which hides all below it but, under
the keys of component lists, the items of a list.

## Main Definitions

* `Json.at?`: the value at the end of a path.
* `Json.firstOccurrences`: the items of a list that none ahead of them is equal to.
* `OverAt`: how a merged document lies over the lower one at a path.

## Main Statements

* `union_eq_firstOccurrences`: a joined list has each item at its first place only.
* `keys_merge`: the keys of a merged document and their order.
* `merge_overAt`: what a merged document says at every path.
-/

namespace DispatchTables

/-! ### Values at paths -/

/-- The value at the end of a path of keys, reached through objects only. -/
def Json.at? : Json → List String → Option Json
  | value, [] => some value
  | .object members, key :: rest =>
    match Members.get? members key with
    | some inner => inner.at? rest
    | none => none
  | _, _ :: _ => none

variable {key : String} {path rest : List String} {below above inner inner' members : Members}
  {value old item : Json} {xs ys kept items : List Json}

theorem Json.at?_nil (value : Json) : value.at? [] = some value := by
  cases value <;> rfl

theorem Json.at?_of_none (missing : members.get? key = none) (rest : List String) :
    (Json.object members).at? (key :: rest) = none := by
  rw [at?, missing]

theorem Json.at?_of_some (found : members.get? key = some value) (rest : List String) :
    (Json.object members).at? (key :: rest) = value.at? rest := by
  rw [at?, found]

/-- Nothing lies beyond a value that is no object. -/
theorem Json.at?_of_not_object (plain : value.asObject? = none) (onward : path ≠ []) :
    value.at? path = none := by
  cases path with
  | nil => exact absurd rfl onward
  | cons key rest =>
    cases value with
    | object members => cases plain
    | _ => rfl

theorem Json.at?_append (value : Json) (front back : List String) :
    value.at? (front ++ back) = (value.at? front).bind (·.at? back) := by
  induction front generalizing value with
  | nil => simp [at?_nil]
  | cons key front ih =>
    cases value with
    | object members =>
      rw [List.cons_append]
      cases found : Members.get? members key with
      | none => simp [at?_of_none found]
      | some inner => rw [at?_of_some found, at?_of_some found, ih]
    | _ => rfl

/-- A value that is no object stands on the way, ahead of the end of the path. -/
def Json.Bars (above : Json) (path : List String) : Prop :=
  ∃ front back value, path = front ++ back ∧ front ≠ [] ∧ back ≠ [] ∧
    above.at? front = some value ∧ value.asObject? = none

theorem Json.at?_of_bars (h : value.Bars path) : value.at? path = none := by
  obtain ⟨front, back, other, rfl, -, onward, said, plain⟩ := h
  rw [at?_append, said, Option.bind_some, at?_of_not_object plain onward]

theorem Json.not_bars_of_none (missing : members.get? key = none) :
    ¬ (Json.object members).Bars (key :: rest) := by
  rintro ⟨front, back, value, split, nonempty, -, found, -⟩
  cases front with
  | nil => exact nonempty rfl
  | cons first front =>
    obtain rfl : key = first := (List.cons.inj split).1
    rw [at?_of_none missing] at found
    cases found

/-- What stands in the way of an object stands in the way of the document that holds it. -/
theorem Json.bars_cons_iff (found : members.get? key = some (.object inner)) :
    (Json.object members).Bars (key :: rest) ↔ (Json.object inner).Bars rest := by
  constructor
  · rintro ⟨front, back, value, split, nonempty, onward, said, plain⟩
    cases front with
    | nil => exact absurd rfl nonempty
    | cons first front =>
      obtain rfl : key = first := (List.cons.inj split).1
      rw [at?_of_some found] at said
      refine ⟨front, back, value, (List.cons.inj split).2, ?_, onward, said, plain⟩
      rintro rfl
      cases said
      cases plain
  · rintro ⟨front, back, value, rfl, -, onward, said, plain⟩
    exact ⟨key :: front, back, value, rfl, List.cons_ne_nil _ _, onward,
      by rw [at?_of_some found, said], plain⟩

theorem Json.bars_of_not_object (found : members.get? key = some value)
    (plain : value.asObject? = none) (onward : rest ≠ []) :
    (Json.object members).Bars (key :: rest) :=
  ⟨[key], rest, value, rfl, List.cons_ne_nil _ _, onward,
    by rw [at?_of_some found, at?_nil], plain⟩

/-! ### Joined lists -/

/-- **The items of a list that none ahead of them is equal to**, in their order. -/
def Json.firstOccurrences (items : List Json) : List Json :=
  (items.zipIdx.filter fun p => !(items.take p.2).any (·.same p.1)).map (·.1)

/-- The last item of a list stays unless one ahead of it is equal to it. -/
theorem Json.firstOccurrences_append_singleton (items : List Json) (item : Json) :
    firstOccurrences (items ++ [item]) =
      if items.any (·.same item) then firstOccurrences items
      else firstOccurrences items ++ [item] := by
  unfold firstOccurrences
  have ahead : (items.zipIdx.filter fun p => !((items ++ [item]).take p.2).any (·.same p.1)) =
      items.zipIdx.filter fun p => !(items.take p.2).any (·.same p.1) := by
    apply List.filter_congr
    intro p mem
    have inside : p.2 ≤ items.length := by
      have := List.snd_lt_of_mem_zipIdx mem
      omega
    rw [List.take_append_of_le_length inside]
  rw [List.zipIdx_append, List.filter_append, List.map_append, ahead]
  have last : (items ++ [item]).take items.length = items := by simp
  by_cases known : items.any (·.same item)
  · simp [List.zipIdx_cons, last, known]
  · simp [List.zipIdx_cons, last, known]

theorem distinctAfter_append (kept xs ys : List Json) :
    distinctAfter kept (xs ++ ys) = distinctAfter (distinctAfter kept xs) ys := by
  induction xs generalizing kept with
  | nil => rfl
  | cons x rest ih =>
    rw [List.cons_append, distinctAfter, distinctAfter]
    split
    · exact ih kept
    · exact ih (kept ++ [x])

theorem mem_of_mem_distinctAfter (h : item ∈ distinctAfter kept items) :
    item ∈ kept ∨ item ∈ items := by
  induction items generalizing kept with
  | nil => exact .inl h
  | cons next rest ih =>
    rw [distinctAfter] at h
    split at h
    · exact (ih h).imp_right (List.mem_cons_of_mem _)
    · rcases ih h with old | later
      · rcases List.mem_append.mp old with old | here
        · exact .inl old
        · exact .inr (List.mem_singleton.mp here ▸ List.mem_cons_self)
      · exact .inr (List.mem_cons_of_mem _ later)

/-- An item is equal to one of some items just if it is equal to one of those that are left. -/
theorem any_distinctAfter (wellKeyed : ∀ other ∈ items, other.wellKeyed = true)
    (own : item.wellKeyed = true) :
    (distinctAfter [] items).any (·.same item) = items.any (·.same item) := by
  rw [Bool.eq_iff_iff, List.any_eq_true, List.any_eq_true]
  constructor
  · rintro ⟨other, mem, equal⟩
    exact ⟨other, (mem_of_mem_distinctAfter mem).resolve_left List.not_mem_nil, equal⟩
  · rintro ⟨other, mem, equal⟩
    obtain ⟨first, left, rfl | earlier⟩ := @exists_mem_distinctAfter [] _ _ mem
    · exact ⟨first, left, equal⟩
    · have listed := (mem_of_mem_distinctAfter left).resolve_left List.not_mem_nil
      exact ⟨first, left, Json.same_trans (wellKeyed first listed) (wellKeyed other mem) own
        earlier equal⟩

/-- **A joined list has each item at its first place only.** -/
theorem union_eq_firstOccurrences (wellKeyed : ∀ item ∈ xs ++ ys, item.wellKeyed = true) :
    union xs ys = Json.firstOccurrences (xs ++ ys) := by
  unfold union
  generalize xs ++ ys = items at wellKeyed
  induction items using List.reverseRecOn with
  | nil => rfl
  | append_singleton items item ih =>
    have ahead := fun other mem => wellKeyed other (List.mem_append_left _ mem)
    have own := wellKeyed item (List.mem_append_right _ List.mem_cons_self)
    rw [distinctAfter_append, Json.firstOccurrences_append_singleton, ← ih ahead, distinctAfter,
      any_distinctAfter ahead own]
    rfl

/-! ### Keys -/

/-- **The keys of a merged document**: those below in their order, and then the others of the one
above in its order. -/
theorem keys_merge (distinct : above.keys.Nodup) :
    (merge below above).keys = below.keys ++ above.keys.filter (· ∉ below.keys) := by
  induction above generalizing below with
  | nil => simp [merge, Members.keys]
  | cons m rest ih =>
    obtain ⟨k, v⟩ := m
    obtain ⟨fresh, distinct⟩ := List.nodup_cons.mp distinct
    have keys_cons : Members.keys ((k, v) :: rest) = k :: Members.keys rest := rfl
    rw [merge_cons, ih distinct, Members.keys_insert, keys_cons]
    split
    · rename_i known
      rw [List.filter_cons_of_neg (by simpa using known)]
    · rename_i new
      rw [List.filter_cons_of_pos (by simpa using new), List.append_assoc, List.singleton_append]
      -- the new key is not among the rest, so the rest is filtered as before
      refine congrArg (below.keys ++ k :: ·) (List.filter_congr fun other mem => ?_)
      have differs : other ≠ k := fun same => fresh (same ▸ mem)
      simp [differs]

/-- The keys of the object at the end of a path, if there is one. -/
def Json.keysAt (value : Json) (path : List String) : List String :=
  match value.at? path with
  | some (.object members) => members.map (·.1)
  | _ => []

/-! ### Documents over one another -/

/-- **How a merged document lies over the lower one at a path.** -/
structure OverAt (below above merged : Json) (path : List String) : Prop where
  /-- Nothing shows through a value of the upper document that is no object. -/
  barred : above.Bars path → merged.at? path = none
  /-- Where the upper document says nothing, the lower one is seen. -/
  kept : above.at? path = none → ¬ above.Bars path → merged.at? path = below.at? path
  /-- A list of components takes up the items of the list below. -/
  joined : ∀ {key xs ys}, path.getLast? = some key → key ∈ componentListKeys →
    below.at? path = some (.array xs) → above.at? path = some (.array ys) →
    merged.at? path = some (.array (Json.firstOccurrences (xs ++ ys)))
  /-- Anything else but an object is as the upper document says it. -/
  said : ∀ {value}, above.at? path = some value → value.asObject? = none →
    ¬ (value.asArray?.isSome = true ∧
      ((below.at? path).bind Json.asArray?).isSome = true ∧
      ∃ key ∈ componentListKeys, path.getLast? = some key) →
    merged.at? path = some value
  /-- An object stays one, and has the keys below in their order, then its own others in theirs. -/
  object : ∀ {members : Members}, above.at? path = some (.object members) →
    ∃ members' : Members, merged.at? path = some (.object members') ∧
      members'.keys = below.keysAt path ++ members.keys.filter (· ∉ below.keysAt path)

/-- The upper document says nothing under the first key. -/
theorem overAt_of_none (distinct : above.keys.Nodup) (missing : above.get? key = none) :
    OverAt (.object below) (.object above) (.object (merge below above)) (key :: rest) := by
  have nothing := Json.at?_of_none missing rest
  have through : (Json.object (merge below above)).at? (key :: rest) =
      (Json.object below).at? (key :: rest) := by
    rw [Json.at?, Json.at?, get?_merge_of_none distinct missing]
  refine ⟨fun bars => absurd bars (Json.not_bars_of_none missing), fun _ _ => through, ?_, ?_, ?_⟩
  · intro key xs ys _ _ _ found
    rw [nothing] at found
    cases found
  · intro value found
    rw [nothing] at found
    cases found
  · intro members found
    rw [nothing] at found
    cases found

/-- Both documents say an object under the first key. -/
theorem OverAt.descend (distinct : above.keys.Nodup)
    (lower : below.get? key = some (.object inner)) (upper : above.get? key = some (.object inner'))
    (h : OverAt (.object inner) (.object inner') (.object (merge inner inner')) rest) :
    OverAt (.object below) (.object above) (.object (merge below above)) (key :: rest) := by
  have merged : (merge below above).get? key = some (.object (merge inner inner')) := by
    rw [get?_merge_of_some distinct upper, lower, valueOver, mergeValue]
  have last : ∀ {other : String} {list : List Json}, (key :: rest).getLast? = some other →
      (Json.object inner').at? rest = some (.array list) → rest.getLast? = some other := by
    intro other list ends found
    cases rest with
    | nil => cases found
    | cons next more => rwa [List.getLast?_cons_cons] at ends
  constructor
  · rw [Json.bars_cons_iff upper, Json.at?_of_some merged]
    exact h.barred
  · rw [Json.bars_cons_iff upper, Json.at?_of_some upper, Json.at?_of_some merged,
      Json.at?_of_some lower]
    exact h.kept
  · intro other xs ys ends listed low high
    rw [Json.at?_of_some upper] at high
    rw [Json.at?_of_some lower] at low
    rw [Json.at?_of_some merged]
    exact h.joined (last ends high) listed low high
  · intro value high plain apart
    rw [Json.at?_of_some upper] at high
    rw [Json.at?_of_some lower] at apart
    rw [Json.at?_of_some merged]
    refine h.said high plain ?_
    rintro ⟨list, low, other, listed, ends⟩
    refine apart ⟨list, low, other, listed, ?_⟩
    cases rest with
    | nil => cases ends
    | cons next more => rwa [List.getLast?_cons_cons]
  · intro members high
    rw [Json.at?_of_some upper] at high
    rw [Json.at?_of_some merged, Json.keysAt, Json.at?_of_some lower]
    exact h.object high

/-- What takes up nothing from below, or has nothing below that it could take up, stands as it is.
-/
theorem valueOver_eq {below : Option Json}
    (apart : ∀ inner inner', below = some (.object inner) → value ≠ .object inner')
    (unjoined : ∀ xs ys, below = some (.array xs) → value = .array ys →
      key ∉ componentListKeys) :
    valueOver key below value = value := by
  cases below with
  | none => rfl
  | some old =>
    rw [valueOver]
    unfold mergeValue
    split
    · exact absurd rfl (apart _ _ rfl)
    · have replaced : listPolicy key = .replace := by
        rw [mem_componentListKeys_iff] at unjoined
        cases policy : listPolicy key with
        | union => exact absurd policy (unjoined _ _ rfl rfl)
        | replace => rfl
      rw [replaced]
    · rfl

/-- The upper document says an object under the first key, and the lower one does not. -/
theorem overAt_of_new (distinct : above.keys.Nodup)
    (lower : ∀ inner, below.get? key ≠ some (.object inner))
    (upper : above.get? key = some (.object inner')) :
    OverAt (.object below) (.object above) (.object (merge below above)) (key :: rest) := by
  have alone : valueOver key (below.get? key) (.object inner') = .object inner' :=
    valueOver_eq (fun inner _ found => absurd found (lower inner)) (fun _ _ _ list => by cases list)
  have same : (Json.object (merge below above)).at? (key :: rest) =
      (Json.object above).at? (key :: rest) := by
    rw [Json.at?_of_some (get?_merge_of_some distinct upper), alone, Json.at?_of_some upper]
  -- below there is nothing but, perhaps, a value at the very end that is no object
  have nothing : rest ≠ [] → (Json.object below).at? (key :: rest) = none := by
    intro onward
    cases found : below.get? key with
    | none => exact Json.at?_of_none found rest
    | some value =>
      rw [Json.at?_of_some found]
      cases value with
      | object inner => exact absurd found (lower inner)
      | _ => exact Json.at?_of_not_object rfl onward
  have keyless : (Json.object below).keysAt (key :: rest) = [] := by
    unfold Json.keysAt
    cases rest with
    | cons next more => rw [nothing (List.cons_ne_nil _ _)]
    | nil =>
      cases found : below.get? key with
      | none => rw [Json.at?_of_none found]
      | some value =>
        rw [Json.at?_of_some found, Json.at?_nil]
        cases value with
        | object inner => exact absurd found (lower inner)
        | _ => rfl
  constructor
  · intro bars
    rw [same, Json.at?_of_bars bars]
  · intro silent unbarred
    cases rest with
    | nil =>
      rw [Json.at?_of_some upper, Json.at?_nil] at silent
      cases silent
    | cons next more => rw [same, silent, nothing (List.cons_ne_nil _ _)]
  · intro other xs ys ends listed low high
    cases rest with
    | nil =>
      rw [Json.at?_of_some upper, Json.at?_nil] at high
      cases high
    | cons next more =>
      rw [nothing (List.cons_ne_nil _ _)] at low
      cases low
  · intro value high _ _
    rw [same, high]
  · intro members high
    refine ⟨members, by rw [same, high], ?_⟩
    rw [keyless]
    simp

/-- The path ends with a key under which the upper document says something else than an object. -/
theorem overAt_of_last (wellKeyed : (Json.object below).wellKeyed = true)
    (wellKeyed' : (Json.object above).wellKeyed = true) (upper : above.get? key = some value)
    (plain : value.asObject? = none) :
    OverAt (.object below) (.object above) (.object (merge below above)) [key] := by
  have distinct := Json.keys_nodup_of_wellKeyed wellKeyed'
  have stands := Json.at?_of_some (@get?_merge_of_some _ below _ _ distinct upper) []
  have high := Json.at?_of_some upper []
  rw [Json.at?_nil] at stands high
  constructor
  · intro bars
    rw [Json.at?_of_bars bars] at high
    cases high
  · intro silent
    rw [silent] at high
    cases high
  · intro other xs ys ends listed low high'
    obtain rfl : key = other := Option.some.inj ends
    rw [high] at high'
    cases high'
    have list : below.get? key = some (.array xs) := by
      cases found : below.get? key with
      | none =>
        rw [Json.at?_of_none found] at low
        cases low
      | some value =>
        rw [Json.at?_of_some found, Json.at?_nil] at low
        exact low
    have items := Json.wellKeyed_array_iff.mp (Json.wellKeyed_of_get? wellKeyed list)
    have items' := Json.wellKeyed_array_iff.mp (Json.wellKeyed_of_get? wellKeyed' upper)
    rw [stands, list, valueOver, mergeValue_lists listed,
      union_eq_firstOccurrences (List.forall_mem_append.mpr ⟨items, items'⟩)]
  · intro other high' _ unjoined
    rw [high] at high'
    cases high'
    rw [stands, valueOver_eq]
    · rintro inner inner' - rfl
      cases plain
    · rintro xs ys low rfl listed
      refine unjoined ⟨rfl, ?_, key, listed, rfl⟩
      rw [Json.at?_of_some low, Json.at?_nil]
      rfl
  · intro members high'
    rw [high] at high'
    cases high'
    cases plain

/-- The path goes on behind a key under which the upper document says something else than an
object. -/
theorem overAt_of_beyond (distinct : above.keys.Nodup) (upper : above.get? key = some value)
    (plain : value.asObject? = none) (onward : rest ≠ []) :
    OverAt (.object below) (.object above) (.object (merge below above)) (key :: rest) := by
  have bars := Json.bars_of_not_object upper plain onward
  have silent := Json.at?_of_bars bars
  have nothing : (Json.object (merge below above)).at? (key :: rest) = none := by
    rw [Json.at?_of_some (get?_merge_of_some distinct upper)]
    have stands := standsAs_valueOver key (below.get? key) value
    generalize valueOver key (below.get? key) value = value' at stands
    cases stands with
    | same => exact Json.at?_of_not_object plain onward
    | object => cases plain
    | list => exact Json.at?_of_not_object rfl onward
  refine ⟨fun _ => nothing, fun _ unbarred => absurd bars unbarred, ?_, ?_, ?_⟩
  · intro other xs ys _ _ _ high
    rw [silent] at high
    cases high
  · intro other high
    rw [silent] at high
    cases high
  · intro members high
    rw [silent] at high
    cases high

/-- **What a merged document says at every path.**  Where the upper document says nothing the lower
one is seen, unless something that is no object bars the way; what it says there stands, but lists
of components are joined, each item at its first place only; and an object stays an object, with the
keys below first. -/
theorem merge_overAt (wellKeyed : (Json.object below).wellKeyed = true)
    (wellKeyed' : (Json.object above).wellKeyed = true) (path : List String) :
    OverAt (.object below) (.object above) (.object (merge below above)) path := by
  induction path generalizing below above with
  | nil =>
    have distinct := Json.keys_nodup_of_wellKeyed wellKeyed'
    constructor
    · intro bars
      have silent := Json.at?_of_bars bars
      cases silent
    · intro silent
      cases silent
    · intro key xs ys ends
      cases ends
    · intro value found plain
      cases found
      cases plain
    · intro members found
      cases found
      exact ⟨_, rfl, keys_merge distinct⟩
  | cons key rest ih =>
    have distinct := Json.keys_nodup_of_wellKeyed wellKeyed'
    cases upper : above.get? key with
    | none => exact overAt_of_none distinct upper
    | some value =>
      cases said : value.asObject? with
      | none =>
        cases rest with
        | nil => exact overAt_of_last wellKeyed wellKeyed' upper said
        | cons next more => exact overAt_of_beyond distinct upper said (List.cons_ne_nil _ _)
      | some inner' =>
        obtain rfl : value = .object inner' := by
          cases value with
          | object members => exact congrArg Json.object (Option.some.inj said)
          | _ => cases said
        by_cases lower : ∃ inner, below.get? key = some (.object inner)
        · obtain ⟨inner, lower⟩ := lower
          exact .descend distinct lower upper
            (ih (Json.wellKeyed_of_get? wellKeyed lower) (Json.wellKeyed_of_get? wellKeyed' upper))
        · exact overAt_of_new distinct (fun inner found => lower ⟨inner, found⟩) upper

/-- A document with a component in an object of its own. -/
def robotBelow : Members :=
  [("name", .string "robot"),
    ("head", .object [("price", .nat 3), ("components", .array [.string "eye", .string "ear"])]),
    ("arm", .object [("joints", .nat 2)])]

/-- A document that says more of that object, and no object where the other has one. -/
def robotAbove : Members :=
  [("arm", .null),
    ("head", .object [("weight", .nat 7), ("components", .array [.string "ear", .string "nose"])])]

/-- Two lists of components meet in an object, and a member is out of sight below a null. -/
theorem merge_overAt_robot :
    (Json.object robotBelow).wellKeyed = true ∧ (Json.object robotAbove).wellKeyed = true ∧
      (Json.object (merge robotBelow robotAbove)).at? ["head", "components"] =
        some (.array [.string "eye", .string "ear", .string "nose"]) ∧
      (∃ members : Members,
        (Json.object (merge robotBelow robotAbove)).at? ["head"] = some (.object members) ∧
        members.keys = ["price", "components", "weight"]) ∧
      (Json.object robotBelow).at? ["arm", "joints"] = some (.nat 2) ∧
      (Json.object (merge robotBelow robotAbove)).at? ["arm", "joints"] = none := by
  have below : (Json.object robotBelow).wellKeyed = true := by decide
  have above : (Json.object robotAbove).wellKeyed = true := by decide
  refine ⟨below, above, ?_, ?_, rfl, ?_⟩
  · exact (merge_overAt below above ["head", "components"]).joined rfl (by decide) rfl rfl
  · exact (merge_overAt below above ["head"]).object rfl
  · exact (merge_overAt below above ["arm", "joints"]).barred
      ⟨["arm"], ["joints"], .null, rfl, List.cons_ne_nil _ _, List.cons_ne_nil _ _, rfl, rfl⟩

end DispatchTables
