import DispatchTables.Proofs.Json.Members
import Mathlib.Data.List.Forall2
import Mathlib.Data.List.Perm.Subperm

/-!
# Equality of values

Values are equal item by item and member by member, whatever the order of members; two zeros are
equal, and a whole number never equals a double.  The definition looks in the second object for
partners of the members of the first, and counts both.  That this is an equality at all rests on
each object having each key once (`Json.wellKeyed`): then the partners are all there are, and the
two objects say equal things under every key.

## Main Definitions

* `Members.SameAs`: two objects say equal things under every key.

## Main Statements

* `Json.same_object_iff`: objects are equal if they say equal things under every key.
* `Json.same_symm`, `Json.same_trans`: equality can be turned round and goes on.
-/

namespace DispatchTables

variable {u v w : Json} {xs ys zs : List Json} {ms ns os : Members} {key : String}

/-- Induction over values, through the items of arrays and the members of objects. -/
@[elab_as_elim]
theorem Json.inductionOn {motive : Json → Prop} (v : Json) (null : motive .null)
    (bool : ∀ b, motive (.bool b)) (number : ∀ n, motive (.number n))
    (string : ∀ s, motive (.string s))
    (array : ∀ items : List Json, (∀ item ∈ items, motive item) → motive (.array items))
    (object : ∀ members : Members, (∀ m ∈ members, motive m.2) → motive (.object members)) :
    motive v :=
  @Json.rec motive (fun items => ∀ item ∈ items, motive item)
    (fun members => ∀ m ∈ members, motive m.2) (fun m => motive m.2)
    null bool number string array object
    (List.forall_mem_nil _) (fun _ _ first rest => List.forall_mem_cons.mpr ⟨first, rest⟩)
    (List.forall_mem_nil _) (fun _ _ first rest => List.forall_mem_cons.mpr ⟨first, rest⟩)
    (fun _ _ value => value) v

/-! ### Numbers -/

theorem Double.sameValue_symm {x y : Double} (h : x.sameValue y = true) :
    y.sameValue x = true := by
  simp only [sameValue, Bool.and_eq_true, Bool.or_eq_true, beq_iff_eq] at h ⊢
  obtain ⟨place, sign⟩ := h
  exact ⟨place.symm, sign.imp Eq.symm fun zero => place ▸ zero⟩

theorem Double.sameValue_trans {x y z : Double} (h₁ : x.sameValue y = true)
    (h₂ : y.sameValue z = true) : x.sameValue z = true := by
  simp only [sameValue, Bool.and_eq_true, Bool.or_eq_true, beq_iff_eq] at h₁ h₂ ⊢
  obtain ⟨place, sign⟩ := h₁
  obtain ⟨place', sign'⟩ := h₂
  refine ⟨place.trans place', ?_⟩
  rcases sign with same | zero
  · exact sign'.imp same.trans fun zero => place ▸ zero
  · exact .inr zero

theorem Json.Number.same_symm {m n : Json.Number} (h : m.same n = true) : n.same m = true := by
  cases m with
  | whole a =>
    cases n with
    | whole b =>
      have equal : a = b := by simpa [same] using h
      rw [equal]
      exact beq_self_eq_true b
    | double => cases h
  | double x =>
    cases n with
    | whole => cases h
    | double y => exact Double.sameValue_symm h

theorem Json.Number.same_trans {l m n : Json.Number} (h₁ : l.same m = true)
    (h₂ : m.same n = true) : l.same n = true := by
  cases m with
  | whole b =>
    cases l with
    | whole a =>
      have equal : a = b := by simpa [same] using h₁
      rw [equal]
      exact h₂
    | double => cases h₁
  | double y =>
    cases l with
    | whole => cases h₁
    | double x =>
      cases n with
      | whole => cases h₂
      | double z => exact Double.sameValue_trans h₁ h₂

/-! ### Objects -/

/-- **Two objects say equal things under every key.** -/
def Members.SameAs (ms ns : Members) : Prop :=
  ∀ key, Option.Rel (fun v w => v.same w = true) (ms.get? key) (ns.get? key)

namespace Json

theorem sameItems_iff :
    sameItems xs ys = true ↔ List.Forall₂ (fun v w => v.same w = true) xs ys := by
  induction xs generalizing ys with
  | nil =>
    cases ys with
    | nil => simp [sameItems]
    | cons => simp [sameItems]
  | cons x rest ih =>
    cases ys with
    | nil => simp [sameItems]
    | cons => simp [sameItems, ih]

theorem sameMembers_iff :
    sameMembers ms ns = true ↔
      ∀ m ∈ ms, ∃ w, Members.get? ns m.1 = some w ∧ m.2.same w = true := by
  induction ms with
  | nil => simp [sameMembers]
  | cons m rest ih =>
    obtain ⟨k, v⟩ := m
    rw [sameMembers, Bool.and_eq_true, ih, List.forall_mem_cons]
    cases Members.get? ns k <;> simp

end Json

namespace Members

theorem isSome_get?_iff : (ms.get? key).isSome = true ↔ key ∈ ms.keys := by
  constructor
  · intro found
    obtain ⟨v, found⟩ := Option.isSome_iff_exists.mp found
    exact List.mem_map_of_mem (mem_of_get? found)
  · intro mem
    by_contra missing
    rw [Option.not_isSome_iff_eq_none] at missing
    induction ms with
    | nil => cases mem
    | cons m rest ih =>
      obtain ⟨k, v⟩ := m
      rw [get?] at missing
      split at missing
      · cases missing
      · rename_i differs
        exact ih ((List.mem_cons.mp mem).resolve_left (Ne.symm differs)) missing

theorem SameAs.get?_some (h : SameAs ms ns) (found : ms.get? key = some v) :
    ∃ w, ns.get? key = some w ∧ v.same w = true := by
  have partner := h key
  rw [found] at partner
  generalize ns.get? key = other at partner
  cases partner with
  | some equal => exact ⟨_, rfl, equal⟩

theorem SameAs.get?_none (h : SameAs ms ns) (missing : ms.get? key = none) :
    ns.get? key = none := by
  have partner := h key
  rw [missing] at partner
  generalize ns.get? key = other at partner
  cases partner
  rfl

theorem sameAs_of (some_ : ∀ key v, ms.get? key = some v → ∃ w, ns.get? key = some w ∧
    v.same w = true) (none_ : ∀ key, ms.get? key = none → ns.get? key = none) :
    SameAs ms ns := by
  intro key
  cases found : ms.get? key with
  | none =>
    rw [none_ key found]
    exact .none
  | some v =>
    obtain ⟨w, partner, equal⟩ := some_ key v found
    rw [partner]
    exact .some equal

/-- Objects that say equal things have the same keys. -/
theorem SameAs.mem_keys_iff (h : SameAs ms ns) (key : String) :
    key ∈ ms.keys ↔ key ∈ ns.keys := by
  rw [← isSome_get?_iff, ← isSome_get?_iff]
  cases found : ms.get? key with
  | none => rw [h.get?_none found]
  | some v =>
    obtain ⟨w, partner, -⟩ := h.get?_some found
    simp [partner]

/-- Of objects with each key once, those that say equal things have as many members. -/
theorem SameAs.length_eq (h : SameAs ms ns) (dm : ms.keys.Nodup) (dn : ns.keys.Nodup) :
    ms.length = ns.length := by
  have same : ms.keys.Perm ns.keys := (List.perm_ext_iff_of_nodup dm dn).mpr h.mem_keys_iff
  simpa [keys] using same.length_eq

end Members

namespace Json

/-- **Objects are equal if they say equal things under every key.** -/
theorem same_object_iff (dm : (Members.keys ms).Nodup) (dn : (Members.keys ns).Nodup) :
    (Json.object ms).same (.object ns) = true ↔ Members.SameAs ms ns := by
  rw [same, Bool.and_eq_true, beq_iff_eq, sameMembers_iff]
  constructor
  · rintro ⟨length, partners⟩
    -- the partners have the keys of the first object, and there are no more than those
    have within : Members.keys ms ⊆ Members.keys ns := by
      intro k inKeys
      obtain ⟨m, mem, rfl⟩ := List.mem_map.mp inKeys
      obtain ⟨w, found, -⟩ := partners m mem
      exact Members.isSome_get?_iff.mp (Option.isSome_of_eq_some found)
    have all : (Members.keys ms).Perm (Members.keys ns) :=
      (List.subperm_of_subset dm within).perm_of_length_le (by simp [Members.keys, length])
    refine Members.sameAs_of (fun key v found => partners _ (Members.mem_of_get? found)) ?_
    intro key missing
    apply Members.get?_eq_none
    rw [← all.mem_iff, ← Members.isSome_get?_iff, missing]
    simp
  · intro h
    refine ⟨h.length_eq dm dn, fun m mem => ?_⟩
    exact h.get?_some ((Members.get?_eq_some_iff dm).mpr mem)

/-! ### An equality -/

/-- **Equality can be turned round.** -/
theorem same_symm (hv : v.wellKeyed = true) (hw : w.wellKeyed = true) (h : v.same w = true) :
    w.same v = true := by
  induction v using Json.inductionOn generalizing w with
  | null =>
    cases w with
    | null => rfl
    | _ => cases h
  | bool b =>
    cases w with
    | bool c =>
      have equal : b = c := by simpa [same] using h
      rw [equal]
      exact beq_self_eq_true c
    | _ => cases h
  | number n =>
    cases w with
    | number m => exact Number.same_symm h
    | _ => cases h
  | string s =>
    cases w with
    | string t =>
      have equal : s = t := by simpa [same] using h
      rw [equal]
      exact beq_self_eq_true t
    | _ => cases h
  | array items ih =>
    cases w with
    | array others =>
      rw [wellKeyed_array_iff] at hv hw
      rw [same, sameItems_iff, List.forall₂_iff_get] at h ⊢
      refine ⟨h.1.symm, fun i lt lt' => ?_⟩
      exact ih _ (List.get_mem _ _) (hv _ (List.get_mem _ _)) (hw _ (List.get_mem _ _))
        (h.2 i lt' lt)
    | _ => cases h
  | object members ih =>
    cases w with
    | object others =>
      have dv := keys_nodup_of_wellKeyed hv
      have dw := keys_nodup_of_wellKeyed hw
      rw [same_object_iff dv dw] at h
      rw [same_object_iff dw dv]
      refine Members.sameAs_of ?_ ?_
      · intro key w there
        have mem := (h.mem_keys_iff key).mpr (Members.isSome_get?_iff.mp (by rw [there]; rfl))
        obtain ⟨v, here⟩ := Option.isSome_iff_exists.mp (Members.isSome_get?_iff.mpr mem)
        obtain ⟨w', there', equal⟩ := h.get?_some here
        rw [there] at there'
        cases there'
        exact ⟨v, here, ih _ (Members.mem_of_get? here) (wellKeyed_of_get? hv here)
          (wellKeyed_of_get? hw there) equal⟩
      · intro key missing
        apply Members.get?_eq_none
        rw [h.mem_keys_iff, ← Members.isSome_get?_iff, missing]
        simp
    | _ => cases h

/-- **Equality goes on.** -/
theorem same_trans (hu : u.wellKeyed = true) (hv : v.wellKeyed = true) (hw : w.wellKeyed = true)
    (h₁ : u.same v = true) (h₂ : v.same w = true) : u.same w = true := by
  induction u using Json.inductionOn generalizing v w with
  | null =>
    cases v with
    | null => exact h₂
    | _ => cases h₁
  | bool b =>
    cases v with
    | bool c =>
      have equal : b = c := by simpa [same] using h₁
      rw [equal]
      exact h₂
    | _ => cases h₁
  | number n =>
    cases v with
    | number m =>
      cases w with
      | number l => exact Number.same_trans h₁ h₂
      | _ => cases h₂
    | _ => cases h₁
  | string s =>
    cases v with
    | string t =>
      have equal : s = t := by simpa [same] using h₁
      rw [equal]
      exact h₂
    | _ => cases h₁
  | array items ih =>
    cases v with
    | array others =>
      cases w with
      | array more =>
        rw [wellKeyed_array_iff] at hu hv hw
        rw [same, sameItems_iff, List.forall₂_iff_get] at h₁ h₂ ⊢
        refine ⟨h₁.1.trans h₂.1, fun i lt lt' => ?_⟩
        have between : i < others.length := h₁.1 ▸ lt
        exact ih _ (List.get_mem _ _) (hu _ (List.get_mem _ _))
          (hv (others.get ⟨i, between⟩) (List.get_mem _ _)) (hw _ (List.get_mem _ _))
          (h₁.2 i lt between) (h₂.2 i between lt')
      | _ => cases h₂
    | _ => cases h₁
  | object members ih =>
    cases v with
    | object others =>
      cases w with
      | object more =>
        have du := keys_nodup_of_wellKeyed hu
        have dv := keys_nodup_of_wellKeyed hv
        have dw := keys_nodup_of_wellKeyed hw
        rw [same_object_iff du dv] at h₁
        rw [same_object_iff dv dw] at h₂
        rw [same_object_iff du dw]
        refine Members.sameAs_of ?_ fun key missing => h₂.get?_none (h₁.get?_none missing)
        intro key u here
        obtain ⟨v, there, equal⟩ := h₁.get?_some here
        obtain ⟨w, beyond, equal'⟩ := h₂.get?_some there
        exact ⟨w, beyond, ih _ (Members.mem_of_get? here) (wellKeyed_of_get? hu here)
          (wellKeyed_of_get? hv there) (wellKeyed_of_get? hw beyond) equal equal'⟩
      | _ => cases h₂
    | _ => cases h₁

end Json

end DispatchTables
