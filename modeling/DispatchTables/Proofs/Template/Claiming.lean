import DispatchTables.Proofs.Json.Equality
import DispatchTables.Proofs.Json.Reading
import DispatchTables.Proofs.Lists.Places
import DispatchTables.Template.Expansion
import Mathlib.Data.List.Induction

/-!
# What the arguments of a reference come to

The arguments claim roles one after the other.  Each claim takes the first role that offers the
device and that no claim before it has taken, so which role an argument gets depends on the
arguments before it, and an argument can be refused though some role offers its device.  After the
claims come the roles that must be filled, and after these the fields that the claimed devices
bring.  The first of these passes to fail decides the failure.

A claim is looked up again when its fields are added.  That the lookup finds the device that was
claimed rests on the catalog having each role once and, under it, each device once; a catalog that
has been read from a document is like that (`TemplateCatalog.keyed_of_decode`).

## Main Definitions

* `TemplateCatalog.Keyed`: each role once, and under it each device once.
* `TemplateCatalog.IsFirst`: the first role, in declared order, with a property.
* `ClaimedBy`: each argument has the first role that offers it and is free.
* `Brought`: the arguments of the claimed devices, claim by claim.
* `ExpandsTo`: what an expansion comes to.

## Main Statements

* `claimRoles_ok`, `claimRoles_error`: how a pass over the arguments ends.
* `configFields_eq_addEach`, `addEach_spec`: how a pass over what the claimed devices bring ends.
* `expand_outcome`: what an expansion comes to, with its failures in their order.
-/

namespace DispatchTables

/-! ### Catalogs -/

/-- The devices of one role. -/
abbrev RoleEntry := String × List (String × TemplateDevice)

/-- A role offers a device. -/
def Offers (device : String) (entry : RoleEntry) : Prop := device ∈ entry.2.map (·.1)

/-- A role must be filled: one of its devices is required. -/
def MustBeFilled (entry : RoleEntry) : Prop := ∃ d ∈ entry.2, d.2.required = true

namespace TemplateCatalog

/-- A catalog has each role once, and under it each device once. -/
structure Keyed (catalog : TemplateCatalog) : Prop where
  roles : (catalog.map (·.1)).Nodup
  devices : ∀ entry ∈ catalog, (entry.2.map (·.1)).Nodup

/-- A role is the first one, in declared order, with a property. -/
def IsFirst (catalog : TemplateCatalog) (P : RoleEntry → Prop) (role : String) : Prop :=
  ∃ before devices after, catalog = before ++ (role, devices) :: after ∧ P (role, devices) ∧
    ∀ entry ∈ before, ¬ P entry

/-- A claim stands for a device: the catalog has it, under the role that was claimed. -/
def Stands (catalog : TemplateCatalog) (claim : RoleClaim) (device : TemplateDevice) : Prop :=
  ∃ devices, (claim.role, devices) ∈ catalog ∧ (claim.device, device) ∈ devices

end TemplateCatalog

variable {component device role : String} {catalog : TemplateCatalog} {entry : RoleEntry}
  {claim : RoleClaim} {claims : List RoleClaim} {args : List String}
  {brought : List (RoleClaim × String × Json)} {fields : List ConfigField}

/-! ### Outcomes -/

/-- Each argument has the first role, in declared order, that offers it and that no argument before
it has. -/
structure ClaimedBy (catalog : TemplateCatalog) (args : List String) (claims : List RoleClaim) :
    Prop where
  devices : claims.map (·.device) = args
  first : ∀ before claim after, claims = before ++ claim :: after →
    catalog.IsFirst (fun entry => Offers claim.device entry ∧ entry.1 ∉ before.map (·.role))
      claim.role

/-- A device can have no role besides the ones that are taken: either no role offers it, or those
that do are all taken. -/
inductive Refused (component : String) (catalog : TemplateCatalog) (taken : List String)
    (device : String) : Failure → Prop
  | unknown (unoffered : ∀ entry ∈ catalog, ¬ Offers device entry) :
    Refused component catalog taken device (.unknownDevice component device)
  | duplicate {role : String} (first : catalog.IsFirst (Offers device) role)
      (all : ∀ entry ∈ catalog, Offers device entry → entry.1 ∈ taken) :
    Refused component catalog taken device (.duplicateRole component role device)

/-- The arguments that the devices of some claims bring, claim by claim and for each claim in
declared order. -/
inductive Brought (catalog : TemplateCatalog) :
    List RoleClaim → List (RoleClaim × String × Json) → Prop
  | nil : Brought catalog [] []
  | cons {claim : RoleClaim} {device : TemplateDevice} {claims : List RoleClaim}
      {brought : List (RoleClaim × String × Json)} (stands : catalog.Stands claim device)
      (rest : Brought catalog claims brought) :
    Brought catalog (claim :: claims) (device.args.map (claim, ·) ++ brought)

/-- A field carries an argument of a claimed device. -/
structure Carries (argument : RoleClaim × String × Json) (field : ConfigField) : Prop where
  value : field.value = argument.2.2
  type : NativeType.of? argument.2.2 = some field.type
  role : field.role = argument.1.role
  name : field.name = cIdentifier argument.2.1 ∨
    field.name = lowerSymbol argument.1.role ++ "_" ++ cIdentifier argument.2.1

/-- **What an expansion comes to.**  The first argument without a role fails it, then the first role
that must be filled and is not, then the first argument of a device that has no native type. -/
inductive ExpandsTo (component : String) (catalog : TemplateCatalog) (reference : Reference) :
    Except Failure Expansion → Prop
  | refused {before after : List String} {device : String} {claims : List RoleClaim}
      {failure : Failure} (split : reference.args = before ++ device :: after)
      (claimed : ClaimedBy catalog before claims)
      (refused : Refused component catalog (claims.map (·.role)) device failure) :
    ExpandsTo component catalog reference (.error failure)
  | unfilled {claims : List RoleClaim} {role : String}
      (claimed : ClaimedBy catalog reference.args claims)
      (first : catalog.IsFirst (fun entry => MustBeFilled entry ∧ entry.1 ∉ claims.map (·.role))
        role) :
    ExpandsTo component catalog reference (.error (.missingRole component role))
  | untyped {claims : List RoleClaim} {before after : List (RoleClaim × String × Json)}
      {claim : RoleClaim} {argument : String} {value : Json}
      (claimed : ClaimedBy catalog reference.args claims)
      (filled : ∀ entry ∈ catalog, MustBeFilled entry → entry.1 ∈ claims.map (·.role))
      (bring : Brought catalog claims (before ++ (claim, argument, value) :: after))
      (typed : ∀ earlier ∈ before, NativeType.of? earlier.2.2 ≠ none)
      (untyped : NativeType.of? value = none) :
    ExpandsTo component catalog reference
      (.error (.unsupportedArgument component claim.device argument (NativeType.rejection value)))
  | expanded {x : Expansion} {brought : List (RoleClaim × String × Json)}
      (claimed : ClaimedBy catalog reference.args x.claims)
      (apart : (x.claims.map (·.role)).Nodup)
      (filled : ∀ entry ∈ catalog, MustBeFilled entry → entry.1 ∈ x.claims.map (·.role))
      (bring : Brought catalog x.claims brought)
      (carried : List.Forall₂ Carries brought x.fields) :
    ExpandsTo component catalog reference (.ok x)

/-! ### Looking up in a catalog -/

/-- What is read from an object has the keys of the object, and under each what has been read. -/
theorem Decoder.map_eq_ok {α : Type} {decode : Decoder α} {v : Json} {entries : List (String × α)}
    (h : Decoder.map decode v = .ok entries) :
    ∃ members, v = .object members ∧ entries.map (·.1) = Members.keys members ∧
      ∀ entry ∈ entries, ∃ m ∈ members, decode m.2 = .ok entry.2 := by
  cases v with
  | object members =>
    refine ⟨members, rfl, ?_⟩
    simp only [Decoder.map] at h
    induction members generalizing entries with
    | nil =>
      cases h
      exact ⟨rfl, by simp⟩
    | cons m rest ih =>
      rw [List.mapM_cons] at h
      obtain ⟨entry, one, h⟩ := bind_eq_ok h
      obtain ⟨value, decoded, made⟩ := bind_eq_ok one
      obtain ⟨more, others, h⟩ := bind_eq_ok h
      cases made
      cases h
      obtain ⟨keys, read⟩ := ih others
      refine ⟨congrArg (m.1 :: ·) keys, List.forall_mem_cons.mpr ⟨?_, fun entry mem => ?_⟩⟩
      · exact ⟨m, List.mem_cons_self, decoded⟩
      · obtain ⟨m', inside, decoded'⟩ := read entry mem
        exact ⟨m', List.mem_cons_of_mem m inside, decoded'⟩
  | _ => cases h

namespace TemplateCatalog

/-- A catalog that has been read has distinct keys, as the value has from which it was read. -/
theorem keyed_of_decode {v : Json} (h : decode v = .ok catalog) (distinct : v.wellKeyed = true) :
    catalog.Keyed := by
  obtain ⟨members, rfl, roles, read⟩ := Decoder.map_eq_ok h
  obtain ⟨once, values⟩ := Json.wellKeyed_object_iff.mp distinct
  refine ⟨roles ▸ once, fun entry mem => ?_⟩
  obtain ⟨m, inside, decoded⟩ := read entry mem
  obtain ⟨offers, is, devices, -⟩ := Decoder.map_eq_ok decoded
  have below := values m inside
  rw [is] at below
  exact devices ▸ Json.keys_nodup_of_wellKeyed below

theorem mem_offering :
    role ∈ catalog.offering device ↔ ∃ devices, (role, devices) ∈ catalog ∧
      Offers device (role, devices) := by
  simp [offering, Offers]

/-- The first role with a property, as a search finds it. -/
theorem isFirst_of_find? {P : RoleEntry → Prop} {p : RoleEntry → Bool}
    (decides : ∀ entry, p entry = true ↔ P entry) (found : catalog.find? p = some entry) :
    catalog.IsFirst P entry.1 := by
  obtain ⟨holds, before, after, split, others⟩ := List.find?_eq_some_iff_append.mp found
  refine ⟨before, entry.2, after, split, (decides entry).mp holds, fun earlier mem holds => ?_⟩
  simpa [(decides earlier).mpr holds] using others earlier mem

theorem any_beq_iff_offers : (entry.2.any fun d => d.1 == device) = true ↔ Offers device entry := by
  simp [Offers]

theorem isRequired_iff : isRequired entry.2 = true ↔ MustBeFilled entry := by
  simp [isRequired, MustBeFilled]

theorem offering_eq_nil (unoffered : catalog.offering device = []) :
    ∀ entry ∈ catalog, ¬ Offers device entry := by
  intro entry mem offers
  rw [offering, List.map_eq_nil_iff, List.filter_eq_nil_iff] at unoffered
  exact unoffered entry mem (any_beq_iff_offers.mpr offers)

/-- The first role of those that offer a device, and have another property besides. -/
theorem isFirst_of_find?_offering {P : String → Prop} [DecidablePred P]
    (found : (catalog.offering device).find? (fun role => decide (P role)) = some role) :
    catalog.IsFirst (fun entry => Offers device entry ∧ P entry.1) role := by
  rw [offering, List.find?_map, List.find?_filter, Option.map_eq_some_iff] at found
  obtain ⟨entry, found, rfl⟩ := found
  refine isFirst_of_find? (fun entry => ?_) found
  simp only [Function.comp_apply, any_beq_iff_offers, decide_eq_true_eq]

theorem isFirst_of_offering {more : List String}
    (offered : catalog.offering device = role :: more) : catalog.IsFirst (Offers device) role := by
  have found : (catalog.offering device).find? (fun _ => decide True) = some role := by
    rw [offered]
    rfl
  obtain ⟨before, devices, after, split, ⟨offers, -⟩, others⟩ :=
    isFirst_of_find?_offering (P := fun _ => True) found
  exact ⟨before, devices, after, split, offers,
    fun entry mem offers => others entry mem ⟨offers, trivial⟩⟩

end TemplateCatalog

/-- A role is free if no claim has it. -/
theorem not_isClaimed (claims : List RoleClaim) (role : String) :
    (!isClaimed claims role) = decide (role ∉ claims.map (·.role)) := by
  rw [Bool.eq_iff_iff]
  simp [isClaimed]

/-! ### Claims -/

/-- A device takes the first role that offers it and is free, or it is refused. -/
theorem claimRoles_cons (component : String) (catalog : TemplateCatalog) (claims : List RoleClaim)
    (device : String) (rest : List String) :
    (∃ role,
      catalog.IsFirst (fun entry => Offers device entry ∧ entry.1 ∉ claims.map (·.role)) role ∧
      claimRoles component catalog claims (device :: rest) =
        claimRoles component catalog (claims ++ [⟨role, device⟩]) rest) ∨
    ∃ failure, Refused component catalog (claims.map (·.role)) device failure ∧
      claimRoles component catalog claims (device :: rest) = .error failure := by
  simp only [claimRoles, not_isClaimed]
  split
  · rename_i unoffered
    exact .inr ⟨_, .unknown (TemplateCatalog.offering_eq_nil unoffered), rfl⟩
  · rename_i first more offered
    rw [← offered]
    split
    · rename_i role found
      exact .inl ⟨role, TemplateCatalog.isFirst_of_find?_offering found, rfl⟩
    · rename_i unfree
      refine .inr ⟨_, .duplicate (TemplateCatalog.isFirst_of_offering offered) ?_, rfl⟩
      intro entry mem offers
      have taken := List.find?_eq_none.mp unfree entry.1
        (TemplateCatalog.mem_offering.mpr ⟨entry.2, mem, offers⟩)
      simpa using taken

theorem ClaimedBy.nil : ClaimedBy catalog [] [] :=
  ⟨rfl, fun before claim after split => by simp at split⟩

/-- One more argument takes the first role that is free. -/
theorem ClaimedBy.snoc (claimed : ClaimedBy catalog args claims)
    (first : catalog.IsFirst (fun entry => Offers device entry ∧ entry.1 ∉ claims.map (·.role))
      role) :
    ClaimedBy catalog (args ++ [device]) (claims ++ [⟨role, device⟩]) where
  devices := by rw [List.map_append, claimed.devices]; rfl
  first := by
    intro before claim after split
    -- the claim is one of the old ones, or the new one behind them all
    rcases append_singleton_eq_append_cons split with ⟨rfl, rfl, -⟩ | ⟨after, earlier⟩
    · exact first
    · exact claimed.first before claim after earlier

theorem claimRoles_ok {claims' : List RoleClaim} {rest : List String}
    (claimed : ClaimedBy catalog args claims)
    (h : claimRoles component catalog claims rest = .ok claims') :
    ClaimedBy catalog (args ++ rest) claims' := by
  induction rest generalizing args claims with
  | nil =>
    cases h
    rwa [List.append_nil]
  | cons device rest ih =>
    rcases claimRoles_cons component catalog claims device rest with
      ⟨role, first, step⟩ | ⟨failure, -, step⟩
    · rw [List.append_cons]
      exact ih (claimed.snoc first) (step ▸ h)
    · cases step ▸ h

theorem claimRoles_error {failure : Failure} {rest : List String}
    (claimed : ClaimedBy catalog args claims)
    (h : claimRoles component catalog claims rest = .error failure) :
    ∃ before device after claims', rest = before ++ device :: after ∧
      ClaimedBy catalog (args ++ before) claims' ∧
      Refused component catalog (claims'.map (·.role)) device failure := by
  induction rest generalizing args claims with
  | nil => cases h
  | cons device rest ih =>
    rcases claimRoles_cons component catalog claims device rest with
      ⟨role, first, step⟩ | ⟨failure', refused, step⟩
    · obtain ⟨before, refusedDevice, after, claims', split, claimed', refused⟩ :=
        ih (claimed.snoc first) (step ▸ h)
      refine ⟨device :: before, refusedDevice, after, claims', by rw [split]; rfl, ?_, refused⟩
      rwa [List.append_cons]
    · obtain rfl : failure' = failure := by
        rw [step] at h
        exact Except.error.inj h
      exact ⟨[], device, rest, claims, rfl, by rwa [List.append_nil], refused⟩

/-- No role is claimed twice. -/
theorem ClaimedBy.nodup (claimed : ClaimedBy catalog args claims) :
    (claims.map (·.role)).Nodup := by
  have fresh : ∀ before claim after, claims = before ++ claim :: after →
      claim.role ∉ before.map (·.role) := by
    intro before claim after split
    obtain ⟨-, devices, -, -, ⟨-, free⟩, -⟩ := claimed.first before claim after split
    exact free
  clear claimed
  induction claims using List.reverseRecOn with
  | nil => exact List.nodup_nil
  | append_singleton claims last ih =>
    rw [List.map_append, List.map_singleton, List.nodup_append]
    refine ⟨ih ?_, List.pairwise_singleton _ _, ?_⟩
    · intro before claim after split
      exact fresh before claim (after ++ [last]) (by rw [split, List.append_assoc]; rfl)
    · intro role mem other isLast same
      rw [List.mem_singleton.mp isLast] at same
      exact fresh claims last [] rfl (same ▸ mem)

/-- Each claim stands for a device. -/
theorem ClaimedBy.exists_stands (claimed : ClaimedBy catalog args claims) (mem : claim ∈ claims) :
    ∃ device, catalog.Stands claim device := by
  obtain ⟨before, after, split⟩ := List.append_of_mem mem
  obtain ⟨earlier, devices, later, inCatalog, ⟨offers, -⟩, -⟩ :=
    claimed.first before claim after split
  obtain ⟨⟨name, device⟩, offered, same⟩ := List.mem_map.mp offers
  exact ⟨device, devices, inCatalog ▸ List.mem_append_cons_self, same ▸ offered⟩

/-! ### Fields -/

/-- Where keys are distinct, a lookup finds what stands under a key. -/
theorem lookup_eq_some_of_mem {α : Type} {key : String} {value : α} {entries : List (String × α)}
    (distinct : (entries.map (·.1)).Nodup) (mem : (key, value) ∈ entries) :
    entries.lookup key = some value := by
  obtain ⟨before, after, split⟩ := List.append_of_mem mem
  refine List.lookup_eq_some_iff.mpr ⟨before, after, split, fun entry earlier => ?_⟩
  rw [split, List.map_append, List.map_cons] at distinct
  have apart := (List.nodup_append.mp distinct).2.2 entry.1 (List.mem_map_of_mem earlier) key
    List.mem_cons_self
  exact bne_iff_ne.mpr apart.symm

/-- In a catalog with distinct keys, a claim is looked up as what it stands for. -/
theorem TemplateCatalog.Keyed.device? {chosen : TemplateDevice} (keyed : catalog.Keyed)
    (stands : catalog.Stands claim chosen) : catalog.device? claim = some chosen := by
  obtain ⟨devices, inCatalog, offered⟩ := stands
  unfold TemplateCatalog.device?
  rw [lookup_eq_some_of_mem keyed.roles inCatalog]
  exact lookup_eq_some_of_mem (keyed.devices _ inCatalog) offered

/-- The field that is added for an argument carries it. -/
theorem carries_of? {argument : String} {value : Json} {type : NativeType}
    (typed : NativeType.of? value = some type) :
    Carries (claim, argument, value)
      ⟨fieldName fields claim.role argument, type, value, claim.role⟩ where
  value := rfl
  type := typed
  role := rfl
  name := by
    unfold fieldName
    dsimp only
    split
    · exact .inr rfl
    · exact .inl rfl

/-- Adds the fields for some arguments, each with its claim, in one pass. -/
def addEach (component : String) :
    List ConfigField → List (RoleClaim × String × Json) → Except Failure (List ConfigField)
  | fields, [] => .ok fields
  | fields, (claim, argument, value) :: rest => do
    addEach component (← addArguments component claim fields [(argument, value)]) rest

theorem addEach_cons_typed {argument : String} {value : Json} {type : NativeType}
    (typed : NativeType.of? value = some type) :
    addEach component fields ((claim, argument, value) :: brought) =
      addEach component
        (fields ++ [⟨fieldName fields claim.role argument, type, value, claim.role⟩]) brought := by
  simp only [addEach, addArguments, typed]
  rfl

theorem addEach_cons_untyped {argument : String} {value : Json}
    (untyped : NativeType.of? value = none) :
    addEach component fields ((claim, argument, value) :: brought) = .error
      (.unsupportedArgument component claim.device argument (NativeType.rejection value)) := by
  simp only [addEach, addArguments, untyped]
  rfl

/-- The arguments of one device, and the others after them. -/
theorem addEach_map_append (arguments : List (String × Json)) :
    addEach component fields (arguments.map (claim, ·) ++ brought) =
      addArguments component claim fields arguments >>= (addEach component · brought) := by
  induction arguments generalizing fields with
  | nil => rfl
  | cons first rest ih =>
    obtain ⟨argument, value⟩ := first
    rw [List.map_cons, List.cons_append]
    cases typed : NativeType.of? value with
    | none =>
      rw [addEach_cons_untyped typed]
      simp only [addArguments, typed]
      rfl
    | some type =>
      rw [addEach_cons_typed typed, ih]
      simp only [addArguments, typed]

/-- The fields of some claims are added in one pass over the arguments that they bring. -/
theorem configFields_eq_addEach (keyed : catalog.Keyed) (bring : Brought catalog claims brought) :
    configFields component catalog fields claims = addEach component fields brought := by
  induction bring generalizing fields with
  | nil => rfl
  | cons stands _ ih =>
    rw [addEach_map_append, configFields, keyed.device? stands]
    exact bind_congr fun _ => ih

/-- **What a pass over arguments comes to**: fields for all of them, or the first argument without a
type. -/
theorem addEach_spec (component : String) {passed : List (RoleClaim × String × Json)}
    (carried : List.Forall₂ Carries passed fields) (brought : List (RoleClaim × String × Json)) :
    (∃ fields', addEach component fields brought = .ok fields' ∧
      List.Forall₂ Carries (passed ++ brought) fields') ∨
    ∃ before claim argument value after, brought = before ++ (claim, argument, value) :: after ∧
      (∀ earlier ∈ before, NativeType.of? earlier.2.2 ≠ none) ∧ NativeType.of? value = none ∧
      addEach component fields brought = .error
        (.unsupportedArgument component claim.device argument (NativeType.rejection value)) := by
  induction brought generalizing passed fields with
  | nil => exact .inl ⟨fields, rfl, by rwa [List.append_nil]⟩
  | cons first rest ih =>
    obtain ⟨claim, argument, value⟩ := first
    cases typed : NativeType.of? value with
    | none =>
      exact .inr ⟨[], claim, argument, value, rest, rfl, by simp, typed, addEach_cons_untyped typed⟩
    | some type =>
      have more : List.Forall₂ Carries (passed ++ [(claim, argument, value)])
          (fields ++ [⟨fieldName fields claim.role argument, type, value, claim.role⟩]) :=
        List.rel_append carried (.cons (carries_of? typed) .nil)
      rw [addEach_cons_typed typed, List.append_cons passed]
      rcases ih more with done | ⟨before, claim', argument', value', after, split, earlier, failed⟩
      · exact .inl done
      · refine .inr ⟨(claim, argument, value) :: before, claim', argument', value', after,
          by rw [split]; rfl, ?_, failed⟩
        exact List.forall_mem_cons.mpr ⟨by simp [typed], earlier⟩

/-- Claims that stand for devices bring some arguments. -/
theorem exists_brought (stand : ∀ claim ∈ claims, ∃ device, catalog.Stands claim device) :
    ∃ brought, Brought catalog claims brought := by
  induction claims with
  | nil => exact ⟨[], .nil⟩
  | cons claim rest ih =>
    obtain ⟨⟨device, stands⟩, others⟩ := List.forall_mem_cons.mp stand
    obtain ⟨brought, bring⟩ := ih others
    exact ⟨_, .cons stands bring⟩

/-! ### Expansions -/

/-- The search for a role that must be filled finds the first one, if there is one. -/
theorem unfilledRole?_spec (catalog : TemplateCatalog) (claims : List RoleClaim) :
    (∃ role, unfilledRole? catalog claims = some role ∧ catalog.IsFirst
      (fun entry => MustBeFilled entry ∧ entry.1 ∉ claims.map (·.role)) role) ∨
    (unfilledRole? catalog claims = none ∧
      ∀ entry ∈ catalog, MustBeFilled entry → entry.1 ∈ claims.map (·.role)) := by
  unfold unfilledRole?
  simp only [not_isClaimed]
  have decides (entry : RoleEntry) : (TemplateCatalog.isRequired entry.2 &&
      decide (entry.1 ∉ claims.map (·.role))) = true ↔
      MustBeFilled entry ∧ entry.1 ∉ claims.map (·.role) := by
    rw [Bool.and_eq_true, TemplateCatalog.isRequired_iff, decide_eq_true_eq]
  cases found : catalog.find? fun role =>
      TemplateCatalog.isRequired role.2 && decide (role.1 ∉ claims.map (·.role)) with
  | some entry => exact .inl ⟨entry.1, rfl, TemplateCatalog.isFirst_of_find? decides found⟩
  | none =>
    refine .inr ⟨rfl, fun entry mem must => ?_⟩
    have filled := List.find?_eq_none.mp found entry mem
    exact not_not.mp fun free => filled ((decides entry).mpr ⟨must, free⟩)

/-- **What an expansion comes to.** -/
theorem expand_outcome (component : String) (catalog : TemplateCatalog) (reference : Reference)
    (keyed : catalog.Keyed) :
    ExpandsTo component catalog reference (expand component catalog reference) := by
  unfold expand
  cases claiming : claimRoles component catalog [] reference.args with
  | error failure =>
    obtain ⟨before, device, after, claims, split, claimed, refused⟩ :=
      claimRoles_error .nil claiming
    exact .refused split claimed refused
  | ok claims =>
    have claimed := claimRoles_ok .nil claiming
    rw [List.nil_append] at claimed
    rcases unfilledRole?_spec catalog claims with ⟨role, found, first⟩ | ⟨found, filled⟩
    · simp only [bind, Except.bind, found]
      exact .unfilled claimed first
    · obtain ⟨brought, bring⟩ := exists_brought fun claim mem => claimed.exists_stands mem
      simp only [bind, Except.bind, found, configFields_eq_addEach keyed bring]
      rcases addEach_spec component .nil brought with ⟨fields, added, carried⟩ | stuck
      · rw [added]
        exact .expanded claimed claimed.nodup filled bring carried
      · obtain ⟨before, claim, argument, value, after, rfl, typed, untyped, failed⟩ := stuck
        rw [failed]
        exact .untyped claimed filled bring typed untyped

/-- Two roles offer one device: each of two arguments gets one of them. -/
theorem expand_outcome_twoRoles :
    let eye : TemplateCatalog := [("left", [("wide", ⟨[("angle", .number (.whole 90))], true⟩)]),
      ("right", [("wide", {}), ("narrow", {})])]
    let reference : Reference := ⟨"eye", ["wide", "wide"]⟩
    eye.Keyed ∧ ExpandsTo "eye" eye reference (expand "eye" eye reference) ∧
      (expand "eye" eye reference).toOption.map (·.claims) =
        some [⟨"left", "wide"⟩, ⟨"right", "wide"⟩] := by
  intro eye reference
  have keyed : eye.Keyed := ⟨by decide, by simp [eye]⟩
  exact ⟨keyed, expand_outcome "eye" eye reference keyed, by rfl⟩

end DispatchTables
