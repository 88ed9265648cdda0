import DispatchTables.Proofs.Lists.Places
import DispatchTables.Proofs.Template.Claiming
import DispatchTables.Proofs.Template.Names
import DispatchTables.Tables.Header
import Mathlib.Data.List.Induction
import Mathlib.Data.List.Nodup

/-!
# Fields that share a name

Each argument that a claimed device brings becomes a field.  The field is named after the argument,
or, when that name is taken, after the role and the argument.  Whether the second name is taken too
is not asked, so it may be one that an earlier field has.

A plain name is taken as soon as an argument has it, since a name that is passed over is one that
another field has.  An argument takes its name with the role in front only if its plain name was
taken before it.  Which names are taken is therefore told by the arguments alone, and so is whether
two fields share a name.

## Main Definitions

* `plainName`, `roleName`: the two names that the field of an argument may get.
* `Taken`: the names that the fields of some arguments have.
* `NeverMeets`: no argument is left with a name that is taken.
* `ToldApart`: arguments whose names are easily seen to differ.

## Main Statements

* `mem_givenNames_iff`, `nodup_givenNames_iff`: which names a pass gives, and when it gives none
  twice.
* `NeverMeets.of_toldApart`: arguments with names that differ in that way never meet.
* `fieldNames_nodup_iff`: when the fields of an expansion have distinct names.
* `field_declared_twice`: a record may declare a field twice.
-/

namespace DispatchTables

/-- An argument that a claimed device brings, with its claim. -/
abbrev BroughtArgument := RoleClaim × String × Json

variable {name : String} {a : BroughtArgument} {brought before : List BroughtArgument}

/-! ### Names of fields -/

/-- The name of an argument as an identifier. -/
def plainName (a : BroughtArgument) : String := cIdentifier a.2.1

/-- The name of an argument with its role in front. -/
def roleName (a : BroughtArgument) : String := lowerSymbol a.1.role ++ "_" ++ plainName a

/-- The name that is given to an argument when some names are taken. -/
def nameAmong (taken : List String) (a : BroughtArgument) : String :=
  if plainName a ∈ taken then roleName a else plainName a

/-- The names that are given to some arguments, after some names that are taken. -/
def givenNames (taken : List String) (brought : List BroughtArgument) : List String :=
  brought.foldl (fun taken a => taken ++ [nameAmong taken a]) taken

/-- The names that the fields of some arguments have: each plain name, and the name with the role
in front of an argument whose plain name was taken already. -/
inductive Taken : List BroughtArgument → String → Prop
  | plain {brought : List BroughtArgument} {a : BroughtArgument} (mem : a ∈ brought) :
    Taken brought (plainName a)
  | again {brought before after : List BroughtArgument} {a : BroughtArgument}
      (split : brought = before ++ a :: after) (taken : Taken before (plainName a)) :
    Taken brought (roleName a)

/-- No argument is left with a name that is taken. -/
def NeverMeets (brought : List BroughtArgument) : Prop :=
  ∀ before a after, brought = before ++ a :: after →
    Taken before (plainName a) → ¬ Taken before (roleName a)

/-! ### A pass over arguments -/

theorem fieldName_eq_nameAmong (fields : List ConfigField) (claim : RoleClaim) (argument : String)
    (value : Json) : fieldName fields claim.role argument =
      nameAmong (fields.map (·.name)) (claim, argument, value) := by
  simp [fieldName, nameAmong, roleName, plainName]

/-- The names of the fields that a pass adds do not depend on what else is in them. -/
theorem names_addEach {component : String} {fields fields' : List ConfigField}
    (h : addEach component fields brought = .ok fields') :
    fields'.map (·.name) = givenNames (fields.map (·.name)) brought := by
  induction brought generalizing fields with
  | nil =>
    cases h
    rfl
  | cons first rest ih =>
    obtain ⟨claim, argument, value⟩ := first
    cases typed : NativeType.of? value with
    | none =>
      rw [addEach_cons_untyped typed] at h
      cases h
    | some type =>
      rw [addEach_cons_typed typed] at h
      rw [ih h, List.map_append, List.map_singleton, fieldName_eq_nameAmong _ _ _ value]
      rfl

theorem givenNames_append_singleton (before : List BroughtArgument) (a : BroughtArgument) :
    givenNames [] (before ++ [a]) =
      givenNames [] before ++ [nameAmong (givenNames [] before) a] := by
  rw [givenNames, List.foldl_append]
  rfl

/-! ### Names that are taken -/

theorem not_taken_nil (name : String) : ¬ Taken [] name := by
  intro taken
  cases taken with
  | plain mem => exact List.not_mem_nil mem
  | again split => simp at split

/-- What one more argument takes. -/
theorem taken_append_singleton : Taken (before ++ [a]) name ↔
    Taken before name ∨ name = plainName a ∨ (Taken before (plainName a) ∧ name = roleName a) := by
  constructor
  · intro taken
    cases taken with
    | plain mem =>
      rcases List.mem_append.mp mem with earlier | last
      · exact .inl (.plain earlier)
      · exact .inr (.inl (congrArg plainName (List.mem_singleton.mp last)))
    | again split taken =>
      rcases append_singleton_eq_append_cons split with ⟨rfl, rfl, -⟩ | ⟨rest, earlier⟩
      · exact .inr (.inr ⟨taken, rfl⟩)
      · exact .inl (.again earlier taken)
  · rintro (taken | rfl | ⟨taken, rfl⟩)
    · cases taken with
      | plain mem => exact .plain (List.mem_append_left _ mem)
      | again split taken =>
        rename_i pre after b
        have still : before ++ [a] = pre ++ b :: (after ++ [a]) := by
          rw [split, List.append_assoc, List.cons_append]
        exact .again still taken
    · exact .plain List.mem_concat_self
    · exact .again rfl taken

/-- **Which names a pass gives.** -/
theorem mem_givenNames_iff (brought : List BroughtArgument) (name : String) :
    name ∈ givenNames [] brought ↔ Taken brought name := by
  induction brought using List.reverseRecOn generalizing name with
  | nil =>
    exact ⟨fun mem => absurd mem List.not_mem_nil, fun taken => absurd taken (not_taken_nil name)⟩
  | append_singleton before a ih =>
    rw [givenNames_append_singleton, List.mem_append, List.mem_singleton, ih,
      taken_append_singleton, nameAmong]
    by_cases passed : plainName a ∈ givenNames [] before
    · -- the plain name is there already, whoever has it
      rw [if_pos passed]
      have taken := (ih _).mp passed
      constructor
      · rintro (earlier | rfl)
        · exact .inl earlier
        · exact .inr (.inr ⟨taken, rfl⟩)
      · rintro (earlier | rfl | ⟨-, rfl⟩)
        · exact .inl earlier
        · exact .inl taken
        · exact .inr rfl
    · rw [if_neg passed]
      have free := mt (ih _).mpr passed
      simp [free]

theorem neverMeets_append_singleton : NeverMeets (before ++ [a]) ↔
    NeverMeets before ∧ (Taken before (plainName a) → ¬ Taken before (roleName a)) := by
  constructor
  · intro never
    refine ⟨fun pre b after split => ?_, never before a [] rfl⟩
    exact never pre b (after ++ [a]) (by rw [split, List.append_assoc, List.cons_append])
  · rintro ⟨never, last⟩ pre b after split
    rcases append_singleton_eq_append_cons split with ⟨rfl, rfl, -⟩ | ⟨rest, earlier⟩
    · exact last
    · exact never pre b rest earlier

/-- **When a pass gives no name twice.** -/
theorem nodup_givenNames_iff (brought : List BroughtArgument) :
    (givenNames [] brought).Nodup ↔ NeverMeets brought := by
  induction brought using List.reverseRecOn with
  | nil => exact ⟨fun _ before a after split => by simp at split, fun _ => List.nodup_nil⟩
  | append_singleton before a ih =>
    rw [givenNames_append_singleton, neverMeets_append_singleton, ← ih, ← List.concat_eq_append,
      List.nodup_concat, nameAmong]
    by_cases passed : plainName a ∈ givenNames [] before
    · simp [← mem_givenNames_iff, passed, and_comm]
    · simp [← mem_givenNames_iff, passed]

/-! ### Names that differ -/

/-- Arguments whose names are easily seen to differ: within a role, arguments have different
identifiers; no argument is named like another with its role in front; and of two roles neither is
named like the other, nor goes on behind it. -/
structure ToldApart (brought : List BroughtArgument) : Prop where
  own : brought.Pairwise fun a b => a.1.role = b.1.role → plainName a ≠ plainName b
  plain : ∀ a ∈ brought, ∀ b ∈ brought, plainName a ≠ roleName b
  roles : ∀ a ∈ brought, ∀ b ∈ brought, a.1.role ≠ b.1.role →
    lowerSymbol a.1.role ≠ lowerSymbol b.1.role ∧
      ¬ (lowerSymbol a.1.role).toList ++ ['_'] <+: (lowerSymbol b.1.role).toList

/-- Names with roles in front are equal only if the roles are named alike, or one of them goes on
behind the other. -/
theorem eq_of_roleName {b : BroughtArgument} (same : roleName a = roleName b) :
    lowerSymbol a.1.role = lowerSymbol b.1.role ∨
      (lowerSymbol a.1.role).toList ++ ['_'] <+: (lowerSymbol b.1.role).toList ∨
      (lowerSymbol b.1.role).toList ++ ['_'] <+: (lowerSymbol a.1.role).toList := by
  have chars := congrArg String.toList same
  simp only [roleName, String.toList_append, List.append_assoc] at chars
  exact (eq_or_prefix_of_append chars).imp_left String.toList_inj.mp

theorem ToldApart.roleName_ne (apart : ToldApart brought) {after : List BroughtArgument}
    (split : brought = before ++ a :: after) {b : BroughtArgument} (mem : b ∈ before) :
    roleName b ≠ roleName a := by
  subst split
  have inside : b ∈ before ++ a :: after := List.mem_append_left _ mem
  have last : a ∈ before ++ a :: after := List.mem_append_cons_self
  intro same
  by_cases role : b.1.role = a.1.role
  · have differ := (List.pairwise_append.mp apart.own).2.2 b mem a List.mem_cons_self role
    rw [roleName, roleName, role] at same
    exact differ ((String.append_right_inj _).mp same)
  · have one := apart.roles b inside a last role
    have other := apart.roles a last b inside (Ne.symm role)
    rcases eq_of_roleName same with roles | behind | behind
    · exact one.1 roles
    · exact one.2 behind
    · exact other.2 behind

/-- **Arguments with names that differ never meet.** -/
theorem NeverMeets.of_toldApart (apart : ToldApart brought) : NeverMeets brought := by
  intro before a after split _ clash
  have last : a ∈ brought := split ▸ List.mem_append_cons_self
  generalize same : roleName a = name at clash
  cases clash with
  | plain mem =>
    exact apart.plain _ (split ▸ List.mem_append_left _ mem) a last same.symm
  | again inner _ =>
    have mem := inner ▸ List.mem_append_cons_self
    exact apart.roleName_ne split mem same.symm

/-! ### Fields of expansions -/

/-- **When the fields of an expansion have distinct names.**  There is one field for each argument
that the claimed devices bring, and no more names are taken than these arguments take.  The names
are distinct exactly if no argument is left with a name that is taken, for which it is enough that
the arguments are told apart. -/
theorem fieldNames_nodup_iff {component : String} {catalog : TemplateCatalog}
    {reference : Reference} {x : Expansion} (keyed : catalog.Keyed)
    (h : expand component catalog reference = .ok x) :
    ∃ brought, Brought catalog x.claims brought ∧ List.Forall₂ Carries brought x.fields ∧
      (∀ name, name ∈ x.fields.map (·.name) ↔ Taken brought name) ∧
      ((x.fields.map (·.name)).Nodup ↔ NeverMeets brought) ∧
      (ToldApart brought → (x.fields.map (·.name)).Nodup) := by
  obtain ⟨claims, fields, claiming, added, rfl⟩ := expand_eq_ok h
  have claimed := claimRoles_ok .nil claiming
  obtain ⟨brought, bring⟩ := exists_brought fun claim mem => claimed.exists_stands mem
  rw [configFields_eq_addEach keyed bring] at added
  have carried : List.Forall₂ Carries brought fields := by
    rcases addEach_spec component .nil brought with ⟨fields', ok, carried⟩ | stuck
    · obtain rfl := Except.ok.inj (added.symm.trans ok)
      exact carried
    · obtain ⟨_, _, _, _, _, -, -, -, failed⟩ := stuck
      cases added.symm.trans failed
  have names : fields.map (·.name) = givenNames [] brought := names_addEach added
  have distinct : (fields.map (·.name)).Nodup ↔ NeverMeets brought := by
    rw [names]
    exact nodup_givenNames_iff brought
  refine ⟨brought, bring, carried, fun name => ?_, distinct, fun apart => ?_⟩
  · rw [names]
    exact mem_givenNames_iff brought name
  · exact distinct.mpr (.of_toldApart apart)

/-- Two roles offer one device: the second field for its argument has the role in front. -/
theorem fieldNames_nodup_iff_twoRoles :
    let sides : TemplateCatalog := [
      ("LEFT", [("LED", ⟨[("pin_hint", .number (.whole 1))], false⟩)]),
      ("RIGHT", [("LED", ⟨[("pin_hint", .number (.whole 2))], false⟩)])]
    sides.Keyed ∧ ∃ x brought, expand "pair" sides ⟨"pair", ["LED", "LED"]⟩ = .ok x ∧
      Brought sides x.claims brought ∧ NeverMeets brought ∧
      Taken brought "pin_hint" ∧ Taken brought "right_pin_hint" := by
  intro sides
  have keyed : sides.Keyed := ⟨by decide, by simp [sides]⟩
  obtain ⟨x, made, names⟩ : ∃ x, expand "pair" sides ⟨"pair", ["LED", "LED"]⟩ = .ok x ∧
      x.fields.map (·.name) = ["pin_hint", "right_pin_hint"] := ⟨_, rfl, by decide +kernel⟩
  obtain ⟨brought, bring, -, taken, distinct, -⟩ := fieldNames_nodup_iff keyed made
  rw [names] at taken distinct
  exact ⟨keyed, x, brought, made, bring, distinct.mp (by decide), (taken _).mp (by simp),
    (taken _).mp (by simp)⟩

/-- **A record may declare a field twice.**  Three arguments of a device have one identifier: the
second field has the role in front, and so has the third. -/
theorem field_declared_twice :
    let eye : TemplateCatalog := [("R", [("D", ⟨[("a-b", .number (.whole 1)),
      ("a.b", .number (.whole 2)), ("a_b", .number (.whole 3))], false⟩)])]
    eye.Keyed ∧ ∃ x, expand "eye" eye ⟨"eye", ["D"]⟩ = .ok x ∧
      x.fields.map (·.name) = ["a_b", "r_a_b", "r_a_b"] ∧
      TableInput.configDeclaration x = ["typedef struct \x7b", "    int32_t a_b;",
        "    int32_t r_a_b;", "    int32_t r_a_b;", "\x7d eye_D_config_t;",
        "extern const eye_D_config_t eye_config;", ""] ∧
      ¬ (x.fields.map (·.name)).Nodup := by
  intro eye
  have keyed : eye.Keyed := ⟨by decide, by simp [eye]⟩
  exact ⟨keyed, _, rfl, by decide +kernel, by decide +kernel, by decide +kernel⟩

end DispatchTables
