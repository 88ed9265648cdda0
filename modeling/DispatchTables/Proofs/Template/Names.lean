import DispatchTables.Proofs.Json.Reading
import DispatchTables.Proofs.Tables.Symbols
import DispatchTables.Template.Expansion

/-!
# The names in expansions

A configuration record has a name, its type another, and each of its fields one.  All are made from
texts of documents, and all are identifiers.  The name of a type is that of the component with the
arguments behind it, so types of two components may be named alike where the identifier of one goes
on behind that of the other.

## Main Definitions

* `GoesOn`: one identifier is another one with an underscore and more behind it.

## Main Statements

* `structName_eq`: when types of records are named alike.
* `expand_eq_ok`: what an expansion is made of.
* `isSymbol_fields`: the fields of an expansion are named by identifiers.
-/

namespace DispatchTables

/-! ### Types of records -/

/-- One identifier is another one with an underscore and more behind it. -/
def GoesOn (name longer : String) : Prop :=
  (cIdentifier name).toList ++ ['_'] <+: (cIdentifier longer).toList

/-- Behind the identifier of the component there is an underscore in any case. -/
theorem exists_toList_structName (component : String) (reference : Reference) :
    ∃ rest, (structName component reference).toList =
      (cIdentifier component).toList ++ '_' :: rest := by
  unfold structName
  cases reference.sortedArgs with
  | nil => exact ⟨"config_t".toList, by simp [String.toList_append]⟩
  | cons arg more =>
    refine ⟨(cIdentifier arg).toList ++
      ((String.join (more.map fun arg => "_" ++ cIdentifier arg)).toList ++ "_config_t".toList), ?_⟩
    simp only [List.map_cons, String.join_cons, String.toList_append, List.append_assoc]
    rfl

/-- Two texts that go on with the same character are equal, or one goes on behind the other. -/
theorem eq_or_prefix_of_append {α : Type} {xs ys us vs : List α} {a : α}
    (same : xs ++ a :: us = ys ++ a :: vs) : xs = ys ∨ xs ++ [a] <+: ys ∨ ys ++ [a] <+: xs := by
  rcases List.append_eq_append_iff.mp same with ⟨between, rfl, right⟩ | ⟨between, rfl, right⟩
  · cases between with
    | nil => exact .inl (List.append_nil xs).symm
    | cons b rest =>
      obtain ⟨rfl, -⟩ := List.cons.inj right
      exact .inr (.inl ⟨rest, by simp⟩)
  · cases between with
    | nil => exact .inl (List.append_nil ys)
    | cons b rest =>
      obtain ⟨rfl, -⟩ := List.cons.inj right
      exact .inr (.inr ⟨rest, by simp⟩)

/-- **When types of records are named alike**: their components have one identifier, or one
identifier goes on behind the other. -/
theorem structName_eq {name name' : String} {reference reference' : Reference}
    (same : structName name reference = structName name' reference') :
    cIdentifier name = cIdentifier name' ∨ GoesOn name name' ∨ GoesOn name' name := by
  obtain ⟨rest, chars⟩ := exists_toList_structName name reference
  obtain ⟨rest', chars'⟩ := exists_toList_structName name' reference'
  have split := congrArg String.toList same
  rw [chars, chars'] at split
  exact (eq_or_prefix_of_append split).imp_left String.toList_inj.mp

/-- Arguments may stand on either side of what tells two components apart. -/
example : structName "eye" ⟨"eye", ["left_wide"]⟩ =
    structName "eye_left" ⟨"eye_left", ["wide"]⟩ := by
  decide +kernel

/-! ### Expansions -/

/-- **What an expansion is made of.** -/
theorem expand_eq_ok {component : String} {catalog : TemplateCatalog} {reference : Reference}
    {x : Expansion} (h : expand component catalog reference = .ok x) :
    ∃ claims fields, claimRoles component catalog [] reference.args = .ok claims ∧
      configFields component catalog [] claims = .ok fields ∧
      x = ⟨component, structName component reference, cIdentifier component ++ "_config", claims,
        fields⟩ := by
  unfold expand at h
  obtain ⟨claims, claimed, h⟩ := bind_eq_ok h
  split at h
  · cases h
  · obtain ⟨fields, brought, h⟩ := bind_eq_ok h
    cases h
    exact ⟨claims, fields, claimed, brought, rfl⟩

/-! ### Identifiers -/

theorem forall_symbolChar_join {texts : List String}
    (letters : ∀ text ∈ texts, ∀ c ∈ text.toList, isSymbolChar c = true) :
    ∀ c ∈ (String.join texts).toList, isSymbolChar c = true := by
  intro c mem
  rw [String.toList_join, List.mem_flatMap] at mem
  obtain ⟨text, inTexts, mem⟩ := mem
  exact letters text inTexts c mem

/-- **The type of a record is named by an identifier.** -/
theorem isSymbol_structName (component : String) (reference : Reference) :
    IsSymbol (structName component reference) := by
  have arguments : ∀ text ∈ reference.sortedArgs.map fun arg => "_" ++ cIdentifier arg,
      ∀ c ∈ text.toList, isSymbolChar c = true := by
    intro text mem
    obtain ⟨arg, -, rfl⟩ := List.mem_map.mp mem
    have underscore : IsSymbol "_" := by decide +kernel
    exact (underscore.append (isSymbol_cIdentifier arg).letters).letters
  exact ((isSymbol_cIdentifier component).append (forall_symbolChar_join arguments)).append
    (List.all_eq_true.mp (by decide +kernel))

theorem isSymbol_fieldName (fields : List ConfigField) (role argument : String) :
    IsSymbol (fieldName fields role argument) := by
  unfold fieldName
  dsimp only
  split
  · exact ((isSymbol_lowerSymbol role).append (List.all_eq_true.mp (by decide +kernel))).append
      (isSymbol_cIdentifier argument).letters
  · exact isSymbol_cIdentifier argument

theorem isSymbol_addArguments {component : String} {claim : RoleClaim}
    {args : List (String × Json)} {fields fields' : List ConfigField}
    (h : addArguments component claim fields args = .ok fields')
    (named : ∀ f ∈ fields, IsSymbol f.name) : ∀ f ∈ fields', IsSymbol f.name := by
  induction args generalizing fields with
  | nil =>
    cases h
    exact named
  | cons arg rest ih =>
    obtain ⟨argument, value⟩ := arg
    unfold addArguments at h
    split at h
    · cases h
    · refine ih h fun f mem => ?_
      rcases List.mem_append.mp mem with old | new
      · exact named f old
      · rw [List.mem_singleton.mp new]
        exact isSymbol_fieldName fields claim.role argument

theorem isSymbol_configFields {component : String} {catalog : TemplateCatalog}
    {claims : List RoleClaim} {fields fields' : List ConfigField}
    (h : configFields component catalog fields claims = .ok fields')
    (named : ∀ f ∈ fields, IsSymbol f.name) : ∀ f ∈ fields', IsSymbol f.name := by
  induction claims generalizing fields with
  | nil =>
    cases h
    exact named
  | cons claim rest ih =>
    unfold configFields at h
    obtain ⟨more, added, h⟩ := bind_eq_ok h
    exact ih h (isSymbol_addArguments added named)

/-- **The fields of an expansion are named by identifiers.** -/
theorem isSymbol_fields {component : String} {catalog : TemplateCatalog} {reference : Reference}
    {x : Expansion} (h : expand component catalog reference = .ok x) :
    ∀ f ∈ x.fields, IsSymbol f.name := by
  obtain ⟨claims, fields, -, brought, rfl⟩ := expand_eq_ok h
  exact isSymbol_configFields brought (by simp)

end DispatchTables
