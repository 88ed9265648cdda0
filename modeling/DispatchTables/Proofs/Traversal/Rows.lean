import DispatchTables.Proofs.Traversal.Tale

/-!
# Which components have rows

A row is added when a name is met for the first time, and only then.  Whether it is depends on the
edge that leads there first: a component gets a row, hardware and subsystems only with software.  A
component whose name has been met as hardware before has none.

## Main Definitions

* `Walk.Noted`: what a walk has noted of what has been followed so far.

## Main Statements

* `noted_steps`: every step keeps it.
* `component_row_iff`: a component has a row if its name was first met as a component or with
  software, and only then.
-/

namespace DispatchTables

variable {files : FileTree} {before : List Followed} {w w' : Walk} {s : Followed} {name : String}
  {c c' : Context} {root : Resolved} {bot : BotRecord} {t : Traversal}

/-- The first edge to a name stays the first, whatever is followed later. -/
theorem find?_meets_of_some {first : Followed} (h : before.find? (·.meets name) = some first) :
    (before ++ [s]).find? (·.meets name) = some first := by
  rw [List.find?_append, h]
  rfl

theorem find?_meets_of_not (h : s.meets name = false) :
    (before ++ [s]).find? (·.meets name) = before.find? (·.meets name) := by
  rw [List.find?_append, List.find?_singleton, if_neg (by simp [h]), Option.or_none]

/-- An edge to a name that has not been met is the first edge to it. -/
theorem find?_meets_of_ends {e : Encounter} (ended : s.encounter? = some e)
    (fresh : before.find? (·.meets e.name) = none) (name : String) :
    (before ++ [s]).find? (·.meets name) =
      if e.name = name then some s else before.find? (·.meets name) := by
  split
  · rename_i same
    subst same
    rw [List.find?_append, fresh, Option.none_or]
    exact List.find?_cons_of_pos (Followed.meets_iff.mpr ⟨e, ended, rfl⟩)
  · rename_i differs
    refine find?_meets_of_not (Bool.eq_false_iff.mpr fun meets => ?_)
    obtain ⟨other, ended', named⟩ := Followed.meets_iff.mp meets
    rw [ended] at ended'
    cases ended'
    exact differs named

/-- **What a walk has noted of what has been followed**: each name that has been met, and no other,
with the owner of all its encounters; the name is entered the first time and not again, and rows are
those of nodes that have been entered. -/
structure Walk.Noted (before : List Followed) (w : Walk) : Prop where
  owners : ∀ s ∈ before, ∀ e, s.encounter? = some e → w.seen.get? e.name = some e.owner
  met : ∀ name, (w.seen.get? name).isSome → ∃ s ∈ before, s.meets name = true
  entered : ∀ name s, before.find? (·.meets name) = some s → ∃ e, s.trace = .entered e
  once : ∀ s ∈ before, ∀ e, s.trace = .entered e → before.find? (·.meets e.name) = some s
  rows : w.entries.map (·.name) = before.filterMap Followed.row?

namespace Walk.Noted

theorem congr (h : w.Noted before) (seen : w'.seen = w.seen) (entries : w'.entries = w.entries) :
    w'.Noted before := by
  refine ⟨?_, ?_, h.entered, h.once, ?_⟩
  · rw [seen]
    exact h.owners
  · rw [seen]
    exact h.met
  · rw [entries]
    exact h.rows

/-- A name that has been met has a first edge to it, which has entered it. -/
theorem exists_first (h : w.Noted before) {e : Encounter} (mem : s ∈ before)
    (ended : s.encounter? = some e) :
    ∃ first e₀, before.find? (·.meets e.name) = some first ∧ first.trace = .entered e₀ ∧
      e₀.name = e.name ∧ e₀.owner = e.owner := by
  have meets : s.meets e.name = true := Followed.meets_iff.mpr ⟨e, ended, rfl⟩
  obtain ⟨first, found⟩ := Followed.exists_find? mem meets
  obtain ⟨e₀, enters⟩ := h.entered e.name first found
  have encountered : first.encounter? = some e₀ := by rw [Followed.encounter?, enters]; rfl
  have same : e₀.name = e.name := by
    obtain ⟨e', ended', named⟩ := Followed.meets_iff.mp (List.find?_some found)
    rw [encountered] at ended'
    cases ended'
    exact named
  -- both are charged to the owner noted with the name
  have noted := h.owners first (List.mem_of_find?_eq_some found) e₀ encountered
  rw [same, h.owners s mem e ended] at noted
  exact ⟨first, e₀, found, enters, same, (Option.some.inj noted).symm⟩

/-- An edge that enters nothing and meets only what has been met changes nothing. -/
theorem pass (h : w.Noted before) {leg : Leg} {trace : Trace} (passes : trace.isEntered = false)
    (known : ∀ e, trace.encounter? = some e → w.seen.get? e.name = some e.owner) :
    w.Noted (before ++ [⟨leg, trace⟩]) := by
  have same : ∀ name, (before ++ [Followed.mk leg trace]).find? (·.meets name) =
      before.find? (·.meets name) := by
    intro name
    cases meets : Followed.meets name ⟨leg, trace⟩ with
    | false => exact find?_meets_of_not meets
    | true =>
      obtain ⟨e, ended, rfl⟩ := Followed.meets_iff.mp meets
      obtain ⟨s, mem, meets'⟩ := h.met e.name (by rw [known e ended]; rfl)
      obtain ⟨first, found⟩ := Followed.exists_find? mem meets'
      rw [found, find?_meets_of_some found]
  refine ⟨?_, ?_, ?_, ?_, ?_⟩
  · intro s mem e ended
    rcases List.mem_append.mp mem with old | new
    · exact h.owners s old e ended
    · rw [List.mem_singleton.mp new] at ended
      exact known e ended
  · intro name noted
    obtain ⟨s, mem, meets⟩ := h.met name noted
    exact ⟨s, List.mem_append_left _ mem, meets⟩
  · intro name s found
    exact h.entered name s (same name ▸ found)
  · intro s mem e enters
    rw [same]
    rcases List.mem_append.mp mem with old | new
    · exact h.once s old e enters
    · rw [List.mem_singleton.mp new] at enters
      cases enters
      cases passes
  · rw [h.rows, List.filterMap_append]
    cases trace with
    | entered e => cases passes
    | blocked o => exact (List.append_nil _).symm
    | again e => exact (List.append_nil _).symm

/-- A name that has not been met is noted when it is entered. -/
theorem register (h : w.Noted before) {leg : Leg} {r : Resolved} {node : NodeRecord}
    (unknown : w.seen.get? name = none) (config : Option Expansion) :
    (w.register r.key name node leg.kind leg.owner config).2.Noted
      (before ++ [⟨leg, .entered ⟨r, name, node, ownerBelow leg.kind name leg.owner node⟩⟩]) := by
  rw [register_eq]
  generalize entered : Encounter.mk r name node (ownerBelow leg.kind name leg.owner node) = e
  have fresh : before.find? (·.meets name) = none := by
    rw [List.find?_eq_none]
    intro s mem meets
    obtain ⟨e, ended, rfl⟩ := Followed.meets_iff.mp meets
    rw [h.owners s mem e ended] at unknown
    cases unknown
  have named : e.name = name := by rw [← entered]
  have found := find?_meets_of_ends (s := ⟨leg, .entered e⟩) rfl (named ▸ fresh)
  rw [named] at found
  have noted : ∀ other, (w.seen.insert name (ownerBelow leg.kind name leg.owner node)).get? other =
      if name = other then some e.owner else w.seen.get? other := by
    intro other
    rw [KeyMap.get?_insert, ← entered]
  refine ⟨?_, ?_, ?_, ?_, ?_⟩
  · intro s mem e' ended
    rw [noted]
    rcases List.mem_append.mp mem with old | last
    · have known := h.owners s old e' ended
      have differs : name ≠ e'.name := by
        rintro rfl
        rw [unknown] at known
        cases known
      rw [if_neg differs, known]
    · rw [List.mem_singleton.mp last] at ended
      cases ended
      rw [if_pos named.symm]
  · intro other known
    rw [noted] at known
    split at known
    · rename_i same
      exact ⟨_, List.mem_append_right _ List.mem_cons_self,
        Followed.meets_iff.mpr ⟨e, rfl, named.trans same⟩⟩
    · obtain ⟨s, mem, meets⟩ := h.met other known
      exact ⟨s, List.mem_append_left _ mem, meets⟩
  · intro other s first
    rw [found] at first
    split at first
    · cases first
      exact ⟨e, rfl⟩
    · exact h.entered other s first
  · intro s mem e' enters
    rcases List.mem_append.mp mem with old | last
    · exact find?_meets_of_some (h.once s old e' enters)
    · rw [List.mem_singleton.mp last] at enters ⊢
      cases enters
      rw [found, if_pos named.symm]
  · rw [List.map_append, h.rows, List.filterMap_append, ← entered]
    congr 1
    unfold rowOf
    cases rowed : registers leg.kind node <;> simp [Followed.row?, rowed, entryOf]

end Walk.Noted

/-- **Every step keeps what is noted.** -/
theorem noted_steps (files : FileTree) : StepsKeep files fun before w => w.Noted before where
  blocked := by
    intro path before leg w o c h met
    have passed : w.Noted (before ++ [⟨leg, .blocked o⟩]) := by
      refine h.pass rfl ?_
      rintro e ⟨⟩
    exact passed.congr rfl rfl
  again := by
    intro path before leg w r reference name node first c h met known
    have passed : w.Noted (before ++ [⟨leg, .again ⟨r, name, node, first⟩⟩]) := by
      refine h.pass rfl ?_
      rintro e ⟨⟩
      exact known
    rw [recordBus_eq]
    exact passed.congr rfl rfl
  entered := by
    intro path before leg w r reference name node c config h met unknown
    have moved : Walk.Noted before { w with context := c } := h.congr rfl rfl
    exact moved.register unknown config
  family := fun family h => h.congr rfl rfl

/-- At the end of a traversal all that has been followed is noted. -/
theorem Tale.noted (tale : Tale files root bot c c' t) : tale.last.Noted tale.trail.followed := by
  have blank : (unwalked bot c).Noted [] := by
    refine ⟨by simp, ?_, by simp, by simp, rfl⟩
    intro name noted
    cases noted
  have start : (botStart root bot c).Noted ([] ++ [botStep root bot]) := blank.register rfl none
  exact tale.keeps (noted_steps files) start

/-- A name that has been met has a row if the edge that first led to it has led to one. -/
theorem Walk.Noted.mem_rows_iff (h : w.Noted before) {first : Followed} {e₀ : Encounter}
    (found : before.find? (·.meets name) = some first) (enters : first.trace = .entered e₀)
    (named : e₀.name = name) :
    name ∈ w.entries.map (·.name) ↔ Walk.registers first.leg.kind e₀.node = true := by
  rw [h.rows, List.mem_filterMap]
  constructor
  · rintro ⟨s, mem, rowed⟩
    obtain ⟨e, enters', registers, rfl⟩ := Followed.row?_eq_some rowed
    -- a row is of the edge that has entered its name, and one edge only has
    have same := h.once s mem e enters'
    rw [found] at same
    cases same
    rw [enters] at enters'
    cases enters'
    exact registers
  · intro registers
    refine ⟨first, List.mem_of_find?_eq_some found, ?_⟩
    simp only [Followed.row?, enters, registers, if_true, named]

theorem registers_iff {kind : EdgeKind} {node : NodeRecord} :
    Walk.registers kind node = true ↔ kind = .component ∨ node.software.isSome = true := by
  rw [Walk.registers, Bool.or_eq_true, beq_iff_eq]

/-- **A component has a row just if its name was first met as a component or with software.**  So it
is for every edge to a component that is followed and not blocked: the name of what is met there has
been entered at the end of some first edge, and whether it has a row was decided there. -/
theorem component_row_iff {d : Descriptor} (begun : InUse files c)
    (h : traverse files (c.resolve files d).2 (c.resolve files d).1 = (.ok t, c')) :
    (∃ bot, Nonempty (Tale files (c.resolve files d).1 bot (c.resolve files d).2 c' t)) ∧
    ∀ bot (tale : Tale files (c.resolve files d).1 bot (c.resolve files d).2 c' t),
      Accounts files (c.resolve files d).1 bot (c.resolve files d).2 c' t tale.hardware
        tale.subsystems tale.components ∧
      ∀ s ∈ tale.trail.followed, s.leg.kind = .component → ∀ e, s.encounter? = some e →
        ∃ first e₀, tale.trail.followed.find? (·.meets e.name) = some first ∧
          first.trace = .entered e₀ ∧ e₀.name = e.name ∧
          (e.name ∈ t.entries.map (·.name) ↔
            first.leg.kind = .component ∨ e₀.node.software.isSome = true) := by
  refine ⟨traverse_tale h, fun bot tale => ⟨tale.accounts begun, ?_⟩⟩
  intro s mem _ e ended
  obtain ⟨first, e₀, found, enters, named, -⟩ := tale.noted.exists_first mem ended
  refine ⟨first, e₀, found, enters, named, ?_⟩
  rw [tale.entries_eq, ← registers_iff]
  exact tale.noted.mem_rows_iff found enters named

/-- A bot whose hardware is also one of its components. -/
def hardwareFirst : List (String × Members) := [
  ("bot", [("name", .string "bot"), ("hardware_reference", .string "h"),
    ("components", referenceList ["h"])]),
  ("h", [("name", .string "h")])]

theorem exists_component_hardwareFirst {t : Traversal} {bot : BotRecord}
    (tale : Tale noFiles (startOf hardwareFirst).1 bot (startOf hardwareFirst).2 c t) :
    ∃ s ∈ tale.trail.followed, s.leg.kind = .component ∧ ∃ e, s.encounter? = some e := by
  have follows := tale.trail_of_told 10 (fun trail => trail.followed.any fun s =>
    s.leg.kind == .component && s.encounter?.isSome) (by decide +kernel)
  obtain ⟨s, mem, both⟩ := List.any_eq_true.mp follows
  obtain ⟨component, ends⟩ := Bool.and_eq_true_iff.mp both
  exact ⟨s, mem, beq_iff_eq.mp component, Option.isSome_iff_exists.mp ends⟩

/-- The name is met twice, and first as hardware, so the component has no row. -/
theorem component_row_iff_hardwareFirst : ∃ t c, walkOf hardwareFirst = (.ok t, c) ∧
    ∃ bot, ∃ tale : Tale noFiles (startOf hardwareFirst).1 bot (startOf hardwareFirst).2 c t,
      ∃ s ∈ tale.trail.followed, s.leg.kind = .component ∧ ∃ e, s.encounter? = some e ∧
        ∃ first e₀, tale.trail.followed.find? (·.meets e.name) = some first ∧
          first.trace = .entered e₀ ∧
          (e.name ∈ t.entries.map (·.name) ↔
            first.leg.kind = .component ∨ e₀.node.software.isSome = true) := by
  obtain ⟨t, c, walked⟩ := exists_of_isOk (x := walkOf hardwareFirst) (by decide +kernel)
  obtain ⟨⟨bot, ⟨tale⟩⟩, rows⟩ := component_row_iff (storeOf_inUse hardwareFirst) walked
  obtain ⟨s, mem, component, e, ended⟩ := exists_component_hardwareFirst tale
  obtain ⟨first, e₀, found, enters, -, iff⟩ :=
    (rows bot tale).2 s mem (component) e ended
  exact ⟨t, c, walked, bot, tale, s, mem, component, e, ended, first, e₀, found,
    enters, iff⟩

/-- **Not every component has a row**: one that is followed, and not blocked, is missing when its
name has been met as hardware before. -/
theorem component_without_row : ∃ t c, walkOf hardwareFirst = (.ok t, c) ∧
    ∃ bot, ∃ tale : Tale noFiles (startOf hardwareFirst).1 bot (startOf hardwareFirst).2 c t,
      ∃ s ∈ tale.trail.followed, s.leg.kind = .component ∧
        ∃ e, s.encounter? = some e ∧ e.name ∉ t.entries.map (·.name) := by
  obtain ⟨t, c, walked⟩ := exists_of_isOk (x := walkOf hardwareFirst) (by decide +kernel)
  have rows : (walkOf hardwareFirst).1.toOption.map (fun t => t.entries.map (·.name)) =
      some [] := by decide +kernel
  rw [walked] at rows
  have rowless : t.entries.map (·.name) = [] := Option.some.inj rows
  obtain ⟨bot, ⟨tale⟩⟩ := traverse_tale walked
  obtain ⟨s, mem, component, e, ended⟩ := exists_component_hardwareFirst tale
  refine ⟨t, c, walked, bot, tale, s, mem, component, e, ended, ?_⟩
  rw [rowless]
  exact List.not_mem_nil

end DispatchTables
