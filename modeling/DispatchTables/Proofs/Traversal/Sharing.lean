import DispatchTables.Proofs.Traversal.Ownership
import DispatchTables.Proofs.Traversal.Rows

/-!
# Devices that components share

A device below several components is charged to one of them: to whatever it belonged to when its
name was first met.  A filter that keeps a component keeps the encounters below it that were charged
to rows that stay, and no others; what was first met below a component that is dropped goes with it.

## Main Definitions

* `Trail.visits`: the edges of a trail with the trails below them.
* `Trail.near`: what is followed below a node before other rows are reached.
* `Trail.HandsDown`: owners are handed down a trail.

## Main Statements

* `Walks.handsDown`: a walk hands owners down.
* `kept_encounters`: of the encounters below a row that is kept, those stay that were first charged
  to a row that is kept, or to none.
-/

namespace DispatchTables

/-- An edge that has been followed, and the trail below its end. -/
structure Visited where
  step : Followed
  below : Trail

/-- Whether owners are handed down at the end of an edge: what is entered belongs to itself if it
has a row, and else to what the edge belongs to, and what is below it belongs to the same. -/
def Trace.HandsDown (leg : Leg) (below : Trail) : Trace → Prop
  | blocked _ | again _ => below = .nil
  | entered e => e.owner = ownerBelow leg.kind e.name leg.owner e.node ∧
    ∀ leg' ∈ below.legs, leg'.owner = e.owner

namespace Trail

/-- The edges of a trail in order, each with the trail below its end. -/
def visits : Trail → List Visited
  | nil => []
  | step leg trace below rest => ⟨⟨leg, trace⟩, below⟩ :: (below.visits ++ rest.visits)

/-- The edges of a trail, and those below them that are reached without passing a node that has got
a row there. -/
def near : Trail → List Followed
  | nil => []
  | step leg trace below rest =>
    ⟨leg, trace⟩ :: ((match Followed.row? ⟨leg, trace⟩ with
      | some _ => []
      | none => below.near) ++ rest.near)

/-- **Owners are handed down a trail.** -/
def HandsDown : Trail → Prop
  | nil => True
  | step leg trace below rest => trace.HandsDown leg below ∧ below.HandsDown ∧ rest.HandsDown

theorem visits_step (trail : Trail) : trail.visits.map (·.step) = trail.followed := by
  induction trail with
  | nil => rfl
  | step leg trace below rest ihBelow ihRest =>
    rw [visits, followed, List.map_cons, List.map_append, ihBelow, ihRest]

theorem followed_below {trail : Trail} {n : Visited} (mem : n ∈ trail.visits) :
    n.below.followed ⊆ trail.followed := by
  induction trail with
  | nil => cases mem
  | step leg trace below rest ihBelow ihRest =>
    rw [followed]
    rcases List.mem_cons.mp mem with rfl | mem
    · exact List.subset_cons_of_subset _ (List.subset_append_left _ _)
    · rcases List.mem_append.mp mem with inside | after
      · exact List.subset_cons_of_subset _
          (List.subset_append_of_subset_left _ (ihBelow inside))
      · exact List.subset_cons_of_subset _
          (List.subset_append_of_subset_right _ (ihRest after))

theorem near_subset (trail : Trail) : trail.near ⊆ trail.followed := by
  induction trail with
  | nil => exact List.Subset.refl _
  | step leg trace below rest ihBelow ihRest =>
    rw [near, followed]
    refine List.cons_subset_cons _ (List.append_subset.mpr ⟨?_, ?_⟩)
    · cases Followed.row? ⟨leg, trace⟩ with
      | some name => exact List.nil_subset _
      | none => exact List.subset_append_of_subset_left _ ihBelow
    · exact List.subset_append_of_subset_right _ ihRest

theorem HandsDown.append {t u : Trail} (ht : t.HandsDown) (hu : u.HandsDown) :
    (t.append u).HandsDown := by
  induction t with
  | nil => exact hu
  | step leg trace below rest _ ih => exact ⟨ht.1, ht.2.1, ih ht.2.2⟩

theorem HandsDown.visit {trail : Trail} (h : trail.HandsDown) {n : Visited}
    (mem : n ∈ trail.visits) :
    n.step.trace.HandsDown n.step.leg n.below ∧ n.below.HandsDown := by
  induction trail with
  | nil => cases mem
  | step leg trace below rest ihBelow ihRest =>
    obtain ⟨here, inside, after⟩ := h
    rcases List.mem_cons.mp mem with rfl | mem
    · exact ⟨here, inside⟩
    · exact (List.mem_append.mp mem).elim (ihBelow inside) (ihRest after)

/-- What is entered near to where one owner is handed down belongs to it, or has a row. -/
theorem HandsDown.near_owner {trail : Trail} {owner : Option String} (h : trail.HandsDown)
    (owned : ∀ leg ∈ trail.legs, leg.owner = owner) :
    ∀ s ∈ trail.near, ∀ e, s.trace = .entered e → s.row? = none → e.owner = owner := by
  induction trail with
  | nil =>
    intro s mem
    cases mem
  | step leg trace below rest ihBelow ihRest =>
    obtain ⟨here, inside, after⟩ := h
    -- without a row of its own a node belongs to what the edge to it belongs to
    have passes : Followed.row? ⟨leg, trace⟩ = none → ∀ e, trace = .entered e →
        e.owner = owner := by
      rintro rowless e rfl
      have registers : Walk.registers leg.kind e.node = false := by
        cases registers : Walk.registers leg.kind e.node with
        | false => rfl
        | true => simp [Followed.row?, registers] at rowless
      rw [here.1, ownerBelow, registers]
      exact owned leg List.mem_cons_self
    intro s mem
    rw [near] at mem
    rcases List.mem_cons.mp mem with rfl | mem
    · exact fun e enters rowless => passes rowless e enters
    rcases List.mem_append.mp mem with mem | mem
    · cases rowed : Followed.row? ⟨leg, trace⟩ with
      | some name =>
        rw [rowed] at mem
        cases mem
      | none =>
        rw [rowed] at mem
        refine ihBelow inside ?_ s mem
        intro leg' inside
        cases trace with
        | blocked o =>
          rw [show below = .nil from here] at inside
          cases inside
        | again e =>
          rw [show below = .nil from here] at inside
          cases inside
        | entered e => rw [here.2 leg' inside, passes rowed e rfl]
    · exact ihRest after (fun leg' mem => owned leg' (List.mem_cons_of_mem _ mem)) s mem

end Trail

variable {files : FileTree} {path : List String} {legs : List Leg} {w w' : Walk} {c c' : Context}
  {root : Resolved} {bot : BotRecord} {t : Traversal}

/-- **A walk hands owners down.** -/
theorem Walks.handsDown {trail : Trail} (walks : Walks files path legs w trail w') :
    trail.HandsDown := by
  induction walks with
  | nil => trivial
  | blocked _ _ ih => exact ⟨rfl, trivial, ih⟩
  | again _ _ _ ih => exact ⟨rfl, trivial, ih⟩
  | entered _ _ _ up down _ ihUp ihDown ihRest =>
    refine ⟨⟨rfl, ?_⟩, ihUp.append ihDown, ihRest⟩
    intro leg mem
    rw [Trail.legs_append, up.legs_eq, down.legs_eq] at mem
    exact (List.mem_append.mp mem).elim owner_hardwareLegs owner_edgeLegs

namespace Tale

/-- A traversal hands owners down from the bot. -/
theorem handsDown (tale : Tale files root bot c c' t) : tale.trail.HandsDown := by
  have walks := tale.walks
  refine ⟨⟨rfl, ?_⟩, walks.hardware.handsDown.append
    (walks.subsystems.handsDown.append walks.components.handsDown), trivial⟩
  intro leg mem
  rw [Trail.legs_append, Trail.legs_append, walks.hardware.legs_eq, walks.subsystems.legs_eq,
    walks.components.legs_eq] at mem
  rcases List.mem_append.mp mem with mem | mem
  · exact owner_hardwareLegs mem
  · exact (List.mem_append.mp mem).elim owner_edgeLegs owner_edgeLegs

/-- A traversal charges what its encounters charge. -/
theorem uses_eq (tale : Tale files root bot c c' t) : tale.trail.uses = t.busUses := by
  have walks := tale.walks
  have components : tale.last.busUses = tale.afterSubsystems.busUses ++ tale.components.uses :=
    walks.components.busUses_eq
  rw [tale.busUses_eq, components, walks.subsystems.busUses_eq, walks.hardware.busUses_eq,
    botStart_busUses, trail, BotTrail.whole, Trail.uses_step, Trail.uses_append, Trail.uses_append]
  simp only [List.append_assoc]
  rw [show Trail.nil.uses = [] from rfl, List.append_nil]
  rfl

end Tale

theorem belongsTo_iff {entries : List DispatchEntry} {u : BusUse} :
    belongsTo entries u = true ↔ ∀ o, u.owner = some o → o ∈ entries.map (·.name) := by
  unfold belongsTo
  cases u.owner with
  | none => exact iff_of_true rfl nofun
  | some owner => simp

namespace Tale

/-- Each row is that of a node that has been entered. -/
theorem exists_visit (tale : Tale files root bot c c' t) {row : DispatchEntry}
    (mem : row ∈ t.entries) : ∃ n ∈ tale.trail.visits, n.step.row? = some row.name := by
  have named : row.name ∈ tale.last.entries.map (·.name) :=
    List.mem_map_of_mem (tale.entries_eq ▸ mem)
  rw [tale.noted.rows, ← Trail.visits_step, List.mem_filterMap] at named
  obtain ⟨step, mem, rowed⟩ := named
  obtain ⟨n, visited, rfl⟩ := List.mem_map.mp mem
  exact ⟨n, visited, rowed⟩

/-- What is entered near below a row, without a row of its own, belongs to it. -/
theorem owner_of_near (tale : Tale files root bot c c' t) {n : Visited} {name : String}
    (visited : n ∈ tale.trail.visits) (rowed : n.step.row? = some name) {s : Followed}
    (near : s ∈ n.below.near) {e : Encounter} (enters : s.trace = .entered e)
    (rowless : s.row? = none) : e.owner = some name := by
  obtain ⟨eₙ, entersRow, registers, rfl⟩ := Followed.row?_eq_some rowed
  obtain ⟨here, inside⟩ := tale.handsDown.visit visited
  rw [entersRow] at here
  rw [inside.near_owner here.2 s near e enters rowless, here.1, ownerBelow, registers, if_pos rfl]

/-- A filter keeps an encounter with a bus if it keeps the row that it belongs to. -/
theorem mem_filter_iff (tale : Tale files root bot c c' t) (charged : Charged t.entries t.busUses)
    (allow : AllowList) {s : Followed} {e : Encounter} {u : BusUse}
    (followed : s ∈ tale.trail.followed) (ended : s.encounter? = some e) (used : e.use? = some u) :
    u ∈ (allow.filter t).busUses ↔
      ∀ o, e.owner = some o → o ∈ (allow.filter t).entries.map (·.name) := by
  have mem : u ∈ t.busUses := by
    rw [← tale.uses_eq, Trail.uses, Trail.encounters_eq]
    exact List.mem_filterMap.mpr ⟨e, List.mem_filterMap.mpr ⟨s, followed, ended⟩, used⟩
  obtain ⟨bus, -, rfl⟩ := Option.map_eq_some_iff.mp used
  rw [busUses_filter charged, List.mem_filter, belongsTo_iff]
  exact and_iff_right mem

end Tale

/-- **A device that components share stays or goes with the component that it was charged to.**  Of
what is followed near below a row that a filter keeps, an encounter with a bus stays just if
whatever its name was charged to when it was first met is kept, or is nothing.  So it is if the name
is first met there, at a node that has no row of its own. -/
theorem kept_encounters {d : Descriptor} (begun : InUse files c)
    (h : traverse files (c.resolve files d).2 (c.resolve files d).1 = (.ok t, c')) :
    (∃ bot, Nonempty (Tale files (c.resolve files d).1 bot (c.resolve files d).2 c' t)) ∧
    ∀ bot (tale : Tale files (c.resolve files d).1 bot (c.resolve files d).2 c' t),
      Accounts files (c.resolve files d).1 bot (c.resolve files d).2 c' t tale.hardware
        tale.subsystems tale.components ∧
      ∀ allow : AllowList, ∀ row ∈ (allow.filter t).entries,
        ∃ n ∈ tale.trail.visits, n.step.row? = some row.name ∧
          ∀ s ∈ n.below.near, ∀ e u, s.encounter? = some e → e.use? = some u →
            ∃ first e₀, tale.trail.followed.find? (·.meets e.name) = some first ∧
              first.trace = .entered e₀ ∧
              (u ∈ (allow.filter t).busUses ↔
                ∀ o, e₀.owner = some o → o ∈ (allow.filter t).entries.map (·.name)) ∧
              (first ∈ n.below.near → first.row? = none → u ∈ (allow.filter t).busUses) := by
  have charged := charged_of_traverse h
  refine ⟨traverse_tale h, fun bot tale => ⟨tale.accounts begun, ?_⟩⟩
  intro allow row kept
  obtain ⟨n, visited, rowed⟩ := tale.exists_visit (List.mem_filter.mp kept).1
  refine ⟨n, visited, rowed, ?_⟩
  intro s near e u ended used
  have followed : s ∈ tale.trail.followed :=
    Trail.followed_below visited (n.below.near_subset near)
  have stays := tale.mem_filter_iff charged allow followed ended used
  -- an encounter belongs to whatever the first one of its name belongs to
  obtain ⟨first, e₀, found, enters, -, owner⟩ := tale.noted.exists_first followed ended
  rw [← owner] at stays
  refine ⟨first, e₀, found, enters, stays, fun firstNear rowless => stays.mpr ?_⟩
  intro o is
  rw [tale.owner_of_near visited rowed firstNear enters rowless] at is
  rw [← Option.some.inj is]
  exact List.mem_map_of_mem kept

/-- A bot with a device that two of its components share. -/
def sharedDevice : List (String × Members) := [
  ("bot", [("name", .string "bot"), ("components", referenceList ["m", "n"])]),
  ("h", [("name", .string "h"), ("bus_type", .string "i2c")]),
  ("m", [("name", .string "m"), ("hardware_reference", .string "h")]),
  ("n", [("name", .string "n"), ("hardware_reference", .string "h")])]

/-- An environment with the second of the two components alone. -/
def secondOnly : AllowList := ⟨"environments/n", ["n"]⟩

/-- The row of the second component is added, and the bus of its device is met below it. -/
theorem visits_sharedDevice {t : Traversal} {c : Context} {bot : BotRecord}
    (tale : Tale noFiles (startOf sharedDevice).1 bot (startOf sharedDevice).2 c t) :
    (∃ n ∈ tale.trail.visits, n.step.row? = some "n") ∧
      ∀ n ∈ tale.trail.visits, n.step.row? = some "n" → ∃ s ∈ n.below.near,
        s.leg.kind = .hardware ∧ ∃ e u, s.encounter? = some e ∧ e.use? = some u := by
  have added := tale.trail_of_told 10 (fun trail => trail.visits.any fun n =>
    n.step.row? == some "n") (by decide +kernel)
  have met := tale.trail_of_told 10 (fun trail => trail.visits.all fun n =>
    n.step.row? != some "n" || n.below.near.any fun s =>
      s.leg.kind == .hardware && (s.encounter?.bind Encounter.use?).isSome) (by decide +kernel)
  constructor
  · obtain ⟨n, visited, rowed⟩ := List.any_eq_true.mp added
    exact ⟨n, visited, beq_iff_eq.mp rowed⟩
  · intro n visited rowed
    have meets := List.all_eq_true.mp met n visited
    rw [rowed, bne_self_eq_false, Bool.false_or] at meets
    obtain ⟨s, near, both⟩ := List.any_eq_true.mp meets
    obtain ⟨hardware, charges⟩ := Bool.and_eq_true_iff.mp both
    obtain ⟨u, charged⟩ := Option.isSome_iff_exists.mp charges
    obtain ⟨e, ended, used⟩ := Option.bind_eq_some_iff.mp charged
    exact ⟨s, near, beq_iff_eq.mp hardware, e, u, ended, used⟩

/-- One row is left when the second component alone is allowed, and no bus. -/
theorem filter_sharedDevice : ∃ t c, walkOf sharedDevice = (.ok t, c) ∧
    (∃ row ∈ (secondOnly.filter t).entries, row.name = "n") ∧
      (secondOnly.filter t).busUses = [] := by
  obtain ⟨t, c, walked⟩ := exists_of_isOk (x := walkOf sharedDevice) (by decide +kernel)
  have left : (walkOf sharedDevice).1.toOption.map (fun t =>
      ((secondOnly.filter t).entries.any (·.name == "n"),
        (secondOnly.filter t).busUses.isEmpty)) = some (true, true) := by decide +kernel
  rw [walked] at left
  obtain ⟨row, kept, named⟩ := List.any_eq_true.mp (congrArg Prod.fst (Option.some.inj left))
  exact ⟨t, c, walked, ⟨row, kept, beq_iff_eq.mp named⟩,
    List.isEmpty_iff.mp (congrArg Prod.snd (Option.some.inj left))⟩

/-- The device stays if the first component does, to which it is charged. -/
theorem kept_encounters_sharedDevice : ∃ t c, walkOf sharedDevice = (.ok t, c) ∧
    ∃ bot, ∃ tale : Tale noFiles (startOf sharedDevice).1 bot (startOf sharedDevice).2 c t,
      ∃ row ∈ (secondOnly.filter t).entries,
        ∃ n ∈ tale.trail.visits, n.step.row? = some row.name ∧
          ∃ s ∈ n.below.near, ∃ e u, s.encounter? = some e ∧ e.use? = some u ∧
            ∃ first e₀, tale.trail.followed.find? (·.meets e.name) = some first ∧
              first.trace = .entered e₀ ∧
              (u ∈ (secondOnly.filter t).busUses ↔
                ∀ o, e₀.owner = some o → o ∈ (secondOnly.filter t).entries.map (·.name)) := by
  obtain ⟨t, c, walked, ⟨row, kept, named⟩, -⟩ := filter_sharedDevice
  obtain ⟨⟨bot, ⟨tale⟩⟩, keeps⟩ := kept_encounters (storeOf_inUse sharedDevice) walked
  obtain ⟨n, visited, rowed, below⟩ := (keeps bot tale).2 secondOnly row kept
  obtain ⟨s, near, -, e, u, ended, used⟩ :=
    (visits_sharedDevice tale).2 n visited (named ▸ rowed)
  obtain ⟨first, e₀, found, enters, stays, -⟩ := below s near e u ended used
  exact ⟨t, c, walked, bot, tale, row, kept, n, visited, rowed, s, near, e, u, ended, used, first,
    e₀, found, enters, stays⟩

/-- **What a kept component needs may be dropped.**  The second component is kept and the first is
not, and the bus of their device goes with the first, although the second reaches it by its own
hardware reference. -/
theorem kept_component_loses_bus : ∃ t c, walkOf sharedDevice = (.ok t, c) ∧
    ∃ bot, ∃ tale : Tale noFiles (startOf sharedDevice).1 bot (startOf sharedDevice).2 c t,
      ∃ row ∈ (secondOnly.filter t).entries,
        ∃ n ∈ tale.trail.visits, n.step.row? = some row.name ∧
          ∃ s ∈ n.below.near, s.leg.kind = .hardware ∧
            ∃ e u, s.encounter? = some e ∧ e.use? = some u ∧
              u ∉ (secondOnly.filter t).busUses := by
  obtain ⟨t, c, walked, ⟨row, kept, named⟩, empty⟩ := filter_sharedDevice
  obtain ⟨bot, ⟨tale⟩⟩ := traverse_tale walked
  obtain ⟨⟨n, visited, rowed⟩, met⟩ := visits_sharedDevice tale
  obtain ⟨s, near, hardware, e, u, ended, used⟩ := met n visited rowed
  refine ⟨t, c, walked, bot, tale, row, kept, n, visited, named ▸ rowed, s, near, hardware, e, u,
    ended, used, ?_⟩
  rw [empty]
  exact List.not_mem_nil

end DispatchTables
