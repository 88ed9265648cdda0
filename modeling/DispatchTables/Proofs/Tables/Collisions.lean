import DispatchTables.Proofs.Template.Names
import DispatchTables.Proofs.Traversal.Origins

/-!
# Components that share symbols

The symbols of a component are made from its name, which has to be made an identifier first.  Two
names of one identifier share their functions and their record; other names share none of them, but
where one identifier goes on behind the other with an underscore the types of the records may still
be named alike, since arguments are put behind a name with underscores too.

Rows are told apart by where they come from: a row has the edge that has led to it, and the node
entered there says whether it declares functions.  Only rows whose nodes declare none are compared,
since a declared function may be that of any other row.

## Main Definitions

* `SymbolsAgree`: which symbols two rows share.

## Main Statements

* `symbols_agree`: rows share symbols when their names share an identifier.
* `symbols_shared`: two names may share all symbols.
-/

namespace DispatchTables

variable {files : FileTree} {c c' : Context} {root : Resolved} {bot : BotRecord} {t : Traversal}
  {row row' : DispatchEntry} {s s' : Followed}

/-! ### Rows -/

/-- **Which symbols two rows share.** -/
structure SymbolsAgree (row row' : DispatchEntry) : Prop where
  init : row.initFunction = row'.initFunction ↔ cIdentifier row.name = cIdentifier row'.name
  act : row.actFunction = row'.actFunction ↔ cIdentifier row.name = cIdentifier row'.name
  apart : row.initFunction ≠ row'.actFunction
  records : ∀ x ∈ row.config, ∀ x' ∈ row'.config,
    x.instanceName = x'.instanceName ↔ cIdentifier row.name = cIdentifier row'.name
  types : ∀ x ∈ row.config, ∀ x' ∈ row'.config, x.structName = x'.structName →
    cIdentifier row.name = cIdentifier row'.name ∨ GoesOn row.name row'.name ∨
      GoesOn row'.name row.name
  told : IsSymbol row.name → IsSymbol row'.name →
    cIdentifier row.name = cIdentifier row'.name → row.name = row'.name

/-- What is run once is never what is run again and again. -/
theorem init_ne_act (a b : String) : a ++ "_init" ≠ b ++ "_act" := by
  intro same
  -- The last characters are the same, those before them are not.
  have last := congrArg (fun text : String => text.toList.reverse.drop 1 |>.head?) same
  simp [String.toList_append] at last

/-- **The symbols of a row** whose node declares no function. -/
theorem symbols_of_yields (yields : s.Yields row) (none : s.declared = []) :
    row.initFunction = cIdentifier row.name ++ "_init" ∧
      row.actFunction = cIdentifier row.name ++ "_act" ∧
      ∀ x ∈ row.config, x.instanceName = cIdentifier row.name ++ "_config" ∧
        ∃ reference, x.structName = structName row.name reference := by
  obtain ⟨init, act, -⟩ := functions_of_yields yields
  rw [none] at init act
  refine ⟨init.resolve_left List.not_mem_nil, act.resolve_left List.not_mem_nil, ?_⟩
  cases yields with
  | @row leg e config _ expands =>
    intro x mem
    obtain ⟨reference, expanded⟩ := expands x mem
    obtain ⟨claims, fields, -, -, rfl⟩ := expand_eq_ok expanded
    exact ⟨rfl, reference, rfl⟩

/-- **Rows share symbols when their names share an identifier.** -/
theorem symbolsAgree_of_yields (yields : s.Yields row) (none : s.declared = [])
    (yields' : s'.Yields row') (none' : s'.declared = []) : SymbolsAgree row row' := by
  obtain ⟨init, act, config⟩ := symbols_of_yields yields none
  obtain ⟨init', act', config'⟩ := symbols_of_yields yields' none'
  refine ⟨?_, ?_, ?_, ?_, ?_, ?_⟩
  · rw [init, init', String.append_left_inj]
  · rw [act, act', String.append_left_inj]
  · rw [init, act']
    exact init_ne_act _ _
  · intro x mem x' mem'
    rw [(config x mem).1, (config' x' mem').1, String.append_left_inj]
  · intro x mem x' mem' same
    obtain ⟨-, reference, type⟩ := config x mem
    obtain ⟨-, reference', type'⟩ := config' x' mem'
    exact structName_eq (type.symm.trans (same.trans type'))
  · intro symbol symbol' same
    rwa [symbol.cIdentifier_eq, symbol'.cIdentifier_eq] at same

/-- **Which components share symbols.**  Every row of a traversal comes from a node that was
entered.  Of rows whose nodes declare no functions, two share a function or a record when their
names share an identifier, and only then; the types of their records may be named alike also where
one identifier goes on behind the other. -/
theorem symbols_agree (h : traverse files c root = (.ok t, c')) :
    (∃ bot, Nonempty (Tale files root bot c c' t)) ∧
    ∀ bot (tale : Tale files root bot c c' t),
      List.Forall₂ Followed.Yields tale.trail.rowed t.entries ∧
      ∀ s ∈ tale.trail.rowed, ∀ s' ∈ tale.trail.rowed, s.declared = [] → s'.declared = [] →
        ∀ row ∈ t.entries, ∀ row' ∈ t.entries, s.Yields row → s'.Yields row' →
          SymbolsAgree row row' := by
  refine ⟨traverse_tale h, fun bot tale => ⟨tale.rows, ?_⟩⟩
  intro s _ s' _ none none' row _ row' _ yields yields'
  exact symbolsAgree_of_yields yields none yields' none'

/-! ### Names of one identifier -/

/-- A bot with two components whose names are told apart by a dash and an underscore only. -/
def dashed : List (String × Members) := [
  ("bot", [("name", .string "bot"), ("components", referenceList ["a-b<D>", "a_b<D>"])]),
  ("a-b", [("name", .string "a-b"),
    ("templates", .object [("R", .object [("D", .object [])])])]),
  ("a_b", [("name", .string "a_b"),
    ("templates", .object [("R", .object [("D", .object [])])])])]

/-- What a row is known by in the code: its functions, and its record with the type of it. -/
def DispatchEntry.symbols (e : DispatchEntry) : List String :=
  [e.initFunction, e.actFunction] ++ (e.config.map fun x => [x.instanceName, x.structName]).getD []

theorem rows_dashed : ∃ t c first second, walkOf dashed = (.ok t, c) ∧
    t.entries = [first, second] ∧ first.name = "a-b" ∧ second.name = "a_b" ∧
    first.symbols = ["a_b_init", "a_b_act", "a_b_config", "a_b_D_config_t"] ∧
    second.symbols = ["a_b_init", "a_b_act", "a_b_config", "a_b_D_config_t"] := by
  obtain ⟨t, c, walked⟩ := exists_of_isOk (x := walkOf dashed) (by decide +kernel)
  have rows : (walkOf dashed).1.toOption.map (fun t => t.entries.map fun e => (e.name, e.symbols)) =
      some [("a-b", ["a_b_init", "a_b_act", "a_b_config", "a_b_D_config_t"]),
        ("a_b", ["a_b_init", "a_b_act", "a_b_config", "a_b_D_config_t"])] := by
    decide +kernel
  rw [walked] at rows
  obtain ⟨first, rest, entries, one, rows⟩ := List.map_eq_cons_iff.mp (Option.some.inj rows)
  obtain ⟨second, none, rfl, two, rows⟩ := List.map_eq_cons_iff.mp rows
  obtain rfl := List.map_eq_nil_iff.mp rows
  obtain ⟨named, known⟩ := Prod.mk.inj one
  obtain ⟨named', known'⟩ := Prod.mk.inj two
  exact ⟨t, c, first, second, walked, entries, named, named', known, known'⟩

/-- Neither component declares a function. -/
theorem declared_dashed
    (tale : Tale noFiles (startOf dashed).1 bot (startOf dashed).2 c t) :
    ∀ s ∈ tale.trail.rowed, s.declared = [] := by
  have follows := tale.trail_of_told 10 (fun trail => trail.rowed.all (·.declared.isEmpty))
    (by decide +kernel)
  intro s mem
  exact List.isEmpty_iff.mp (List.all_eq_true.mp follows s mem)

theorem symbols_agree_dashed : ∃ t c, walkOf dashed = (.ok t, c) ∧
    ∃ bot, ∃ tale : Tale noFiles (startOf dashed).1 bot (startOf dashed).2 c t,
      ∃ s ∈ tale.trail.rowed, ∃ s' ∈ tale.trail.rowed, s.declared = [] ∧ s'.declared = [] ∧
        ∃ row ∈ t.entries, ∃ row' ∈ t.entries, row.name = "a-b" ∧ row'.name = "a_b" ∧
          s.Yields row ∧ s'.Yields row' ∧ SymbolsAgree row row' := by
  obtain ⟨t, c, first, second, walked, entries, named, named', -, -⟩ := rows_dashed
  obtain ⟨⟨bot, ⟨tale⟩⟩, agree⟩ := symbols_agree walked
  obtain ⟨-, agree⟩ := agree bot tale
  have none := declared_dashed tale
  have mem : first ∈ t.entries := by simp [entries]
  have mem' : second ∈ t.entries := by simp [entries]
  obtain ⟨s, rowed, yields⟩ := tale.exists_yields mem
  obtain ⟨s', rowed', yields'⟩ := tale.exists_yields mem'
  exact ⟨t, c, walked, bot, tale, s, rowed, s', rowed', none s rowed, none s' rowed', first, mem,
    second, mem', named, named', yields, yields',
    agree s rowed s' rowed' (none s rowed) (none s' rowed') first mem second mem' yields yields'⟩

/-- **Two names may share all symbols**, although they are different and neither component declares
a function. -/
theorem symbols_shared : ∃ t c, walkOf dashed = (.ok t, c) ∧
    (∃ bot, ∃ tale : Tale noFiles (startOf dashed).1 bot (startOf dashed).2 c t,
      ∀ s ∈ tale.trail.rowed, s.declared = []) ∧
    ∃ first second, t.entries = [first, second] ∧ first.name ≠ second.name ∧
      first.symbols = ["a_b_init", "a_b_act", "a_b_config", "a_b_D_config_t"] ∧
      second.symbols = ["a_b_init", "a_b_act", "a_b_config", "a_b_D_config_t"] := by
  obtain ⟨t, c, first, second, walked, entries, named, named', known, known'⟩ := rows_dashed
  obtain ⟨bot, ⟨tale⟩⟩ := traverse_tale walked
  refine ⟨t, c, walked, ⟨bot, tale, declared_dashed tale⟩, first, second, entries, ?_, known,
    known'⟩
  rw [named, named']
  decide

end DispatchTables
