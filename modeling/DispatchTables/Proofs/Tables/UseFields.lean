import DispatchTables.Proofs.Lists.Places
import DispatchTables.Tables.UseFields
import Mathlib.Data.List.Forall2
import Mathlib.Data.List.Induction

/-!
# What a plan of use fields holds

All entries of `use_fields` are read as one sequence.  Of the entries that set one variable the
first declares it and each later one is an assignment, in the order of the sequence; a preprocessor
line is kept where it is first met.  The generated code runs the declarations ahead of all
assignments, and each variable still ends with the value that was set last.  A plan is refused at
the first entry that does not fit the ones before it.

## Main Definitions

* `declaring`, `assigning`: the entries that declare a variable, and those that assign to one.
* `Misfit`: why an entry does not fit the entries before it.
* `Plans`: what a plan holds for a sequence of entries.
* `UseFieldPlan.run`: what the variables hold when the code of a plan has run.

## Main Statements

* `UseFieldPlan.add_eq_error_iff`, `Plans.add`: one entry is refused for a misfit, and is planned
  otherwise.
* `run_eq`: a variable ends with the value that the last entry gives it.
* `planUseFields_spec`: the plan of a table, and the entry at which one is refused.
-/

namespace DispatchTables

/-! ### Entries of a sequence -/

/-- Each item of a list with the items before it. -/
def withEarlier {α : Type} : List α → List α → List (List α × α)
  | _, [] => []
  | before, x :: xs => (before, x) :: withEarlier (before ++ [x]) xs

theorem withEarlier_append {α : Type} (before xs ys : List α) :
    withEarlier before (xs ++ ys) = withEarlier before xs ++ withEarlier (before ++ xs) ys := by
  induction xs generalizing before with
  | nil => simp [withEarlier]
  | cons x xs ih => simp [withEarlier, ih]

/-- The entries that set a variable. -/
def variableEntries (es : List UseFieldEntry) : List UseFieldEntry :=
  es.filter fun e => !isDirectiveKey e.key

/-- The preprocessor lines, as often as entries add them. -/
def directiveLines (es : List UseFieldEntry) : List String :=
  (es.filter fun e => isDirectiveKey e.key).filterMap fun e => e.value.asString?

/-- The first of the entries that set a variable. -/
def firstSetting (vs : List UseFieldEntry) (symbol : String) : Option UseFieldEntry :=
  vs.find? fun e => e.key == symbol

/-- The entries that set a variable which no earlier entry has set. -/
def declaring (vs : List UseFieldEntry) : List UseFieldEntry :=
  ((withEarlier [] vs).filter fun p => (firstSetting p.1 p.2.key).isNone).map Prod.snd

/-- The entries that set a variable once more, each with the entries before it. -/
def assigning (vs : List UseFieldEntry) : List (List UseFieldEntry × UseFieldEntry) :=
  (withEarlier [] vs).filter fun p => (firstSetting p.1 p.2.key).isSome

@[simp] theorem variableEntries_append (es es' : List UseFieldEntry) :
    variableEntries (es ++ es') = variableEntries es ++ variableEntries es' := by
  simp [variableEntries]

@[simp] theorem directiveLines_append (es es' : List UseFieldEntry) :
    directiveLines (es ++ es') = directiveLines es ++ directiveLines es' := by
  simp [directiveLines]

theorem variableEntries_directive {e : UseFieldEntry} (h : isDirectiveKey e.key = true) :
    variableEntries [e] = [] := by
  simp [variableEntries, h]

theorem variableEntries_variable {e : UseFieldEntry} (h : isDirectiveKey e.key = false) :
    variableEntries [e] = [e] := by
  simp [variableEntries, h]

theorem directiveLines_directive {e : UseFieldEntry} (h : isDirectiveKey e.key = true) :
    directiveLines [e] = e.value.asString?.toList := by
  cases ht : e.value.asString? <;> simp [directiveLines, h, ht]

theorem directiveLines_variable {e : UseFieldEntry} (h : isDirectiveKey e.key = false) :
    directiveLines [e] = [] := by
  simp [directiveLines, h]

theorem declaring_append_new {vs : List UseFieldEntry} {e : UseFieldEntry}
    (h : firstSetting vs e.key = none) : declaring (vs ++ [e]) = declaring vs ++ [e] := by
  simp [declaring, withEarlier_append, withEarlier, h]

theorem declaring_append_again {vs : List UseFieldEntry} {e first : UseFieldEntry}
    (h : firstSetting vs e.key = some first) : declaring (vs ++ [e]) = declaring vs := by
  simp [declaring, withEarlier_append, withEarlier, h]

theorem assigning_append_new {vs : List UseFieldEntry} {e : UseFieldEntry}
    (h : firstSetting vs e.key = none) : assigning (vs ++ [e]) = assigning vs := by
  simp [assigning, withEarlier_append, withEarlier, h]

theorem assigning_append_again {vs : List UseFieldEntry} {e first : UseFieldEntry}
    (h : firstSetting vs e.key = some first) :
    assigning (vs ++ [e]) = assigning vs ++ [(vs, e)] := by
  simp [assigning, withEarlier_append, withEarlier, h]

/-- No two entries declare the same variable, and the one that declares it is the first to set
it. -/
theorem firstSetting_declaring (vs : List UseFieldEntry) (symbol : String) :
    firstSetting (declaring vs) symbol = firstSetting vs symbol := by
  induction vs using List.reverseRecOn with
  | nil => rfl
  | append_singleton vs e ih =>
    cases hfirst : firstSetting vs e.key with
    | none =>
      rw [declaring_append_new hfirst]
      simp only [firstSetting, List.find?_append] at ih ⊢
      rw [ih]
    | some first =>
      rw [declaring_append_again hfirst, ih]
      by_cases hkey : e.key = symbol
      · subst hkey
        simp only [firstSetting, List.find?_append] at hfirst ⊢
        simp [hfirst]
      · simp [firstSetting, List.find?_append, hkey]

theorem nodup_declaring (vs : List UseFieldEntry) : ((declaring vs).map (·.key)).Nodup := by
  induction vs using List.reverseRecOn with
  | nil => exact List.nodup_nil
  | append_singleton vs e ih =>
    cases hfirst : firstSetting vs e.key with
    | some first => rwa [declaring_append_again hfirst]
    | none =>
      rw [declaring_append_new hfirst, List.map_append]
      refine List.nodup_append.mpr ⟨ih, by simp, ?_⟩
      intro key hkey key' hkey' heq
      obtain ⟨d, hd, rfl⟩ := List.mem_map.mp hkey
      have hnone : firstSetting (declaring vs) e.key = none := by
        rw [firstSetting_declaring, hfirst]
      have hne := List.find?_eq_none.mp hnone d hd
      simp_all

/-- Of the entries that set one variable, the one that declares it comes ahead of the others, and
these keep their order. -/
theorem filter_declaring_assigning (vs : List UseFieldEntry) (symbol : String) :
    (declaring vs ++ (assigning vs).map Prod.snd).filter (fun e => e.key == symbol) =
      vs.filter fun e => e.key == symbol := by
  induction vs using List.reverseRecOn with
  | nil => rfl
  | append_singleton vs e ih =>
    have hsplit : (vs ++ [e]).filter (fun e => e.key == symbol) =
        (declaring vs ++ (assigning vs).map Prod.snd).filter (fun e => e.key == symbol) ++
          [e].filter fun e => e.key == symbol := by
      rw [ih, ← List.filter_append]
    rw [hsplit]
    cases hfirst : firstSetting vs e.key with
    | some first =>
      rw [declaring_append_again hfirst, assigning_append_again hfirst]
      simp
    | none =>
      rw [declaring_append_new hfirst, assigning_append_new hfirst]
      by_cases hkey : e.key = symbol
      · -- nothing ahead of `e` sets the variable, so it stands alone on both sides
        subst hkey
        have hnone : vs.filter (fun d => d.key == e.key) = [] := by
          rw [List.filter_eq_nil_iff]
          exact List.find?_eq_none.mp hfirst
        rw [hnone, List.filter_append, List.append_eq_nil_iff] at ih
        simp [ih.1, ih.2]
      · simp [hkey]

/-- Lists that are related item by item agree in what related items agree in. -/
theorem map_eq_map_of_forall₂ {α β γ : Type} {r : α → β → Prop} {f : α → γ} {g : β → γ}
    (hr : ∀ x y, r x y → f x = g y) {xs : List α} {ys : List β} (h : List.Forall₂ r xs ys) :
    xs.map f = ys.map g := by
  induction h with
  | nil => rfl
  | cons hxy _ ih => rw [List.map_cons, List.map_cons, hr _ _ hxy, ih]

/-! ### Plans -/

/-- Why an entry does not fit the entries before it, as the failure that reports it. -/
inductive Misfit (before : List UseFieldEntry) (e : UseFieldEntry) : Failure → Prop
  /-- A preprocessor line is not a text. -/
  | line (hkey : isDirectiveKey e.key = true) (htext : e.value.asString? = none) :
      Misfit before e (.unsupportedUseField e.key e.component .directiveNotText)
  /-- A variable has a name that is no identifier. -/
  | name (hkey : isDirectiveKey e.key = false) (hname : isCIdentifier e.key = false) :
      Misfit before e (.unsupportedUseField e.key e.component .notIdentifier)
  /-- A variable is given a value of no native type. -/
  | value (hkey : isDirectiveKey e.key = false) (hname : isCIdentifier e.key = true)
      (htype : NativeType.of? e.value = none) :
      Misfit before e
        (.unsupportedUseField e.key e.component (.rejected (NativeType.rejection e.value)))
  /-- A variable is given a value that the type of its first value does not take. -/
  | type {first : UseFieldEntry} {declared own : NativeType}
      (hkey : isDirectiveKey e.key = false) (hname : isCIdentifier e.key = true)
      (hfirst : firstSetting (variableEntries before) e.key = some first)
      (hdeclared : NativeType.of? first.value = some declared)
      (hown : NativeType.of? e.value = some own) (hmeets : declared.accepts own = false) :
      Misfit before e (.useFieldMismatch e.key declared own first.component e.component)

/-- The declaration that an entry makes: the type is that of its value. -/
def Declares (e : UseFieldEntry) (d : UseField) : Prop :=
  ∃ type, NativeType.of? e.value = some type ∧ d = ⟨e.key, type, e.value, e.component⟩

/-- The assignment that an entry makes: the type is that of the value set first, and takes the
value of the entry. -/
def Assigns (before : List UseFieldEntry) (e : UseFieldEntry) (a : UseField) : Prop :=
  ∃ first declared own, firstSetting before e.key = some first ∧
    NativeType.of? first.value = some declared ∧ NativeType.of? e.value = some own ∧
    declared.accepts own = true ∧ a = ⟨e.key, declared, e.value, e.component⟩

/-- What a plan holds for a sequence of entries: each fits those before it, the declarations and
the assignments are those of its entries, and the preprocessor lines are the distinct ones. -/
structure Plans (es : List UseFieldEntry) (plan : UseFieldPlan) : Prop where
  fits : ∀ before e after f, es = before ++ e :: after → ¬Misfit before e f
  declares : List.Forall₂ Declares (declaring (variableEntries es)) plan.declarations
  assigns : List.Forall₂ (fun p => Assigns p.1 p.2) (assigning (variableEntries es))
    plan.assignments
  lines : plan.directives = (directiveLines es).eraseDups

/-- The first entry that does not fit, by its failure. -/
def FirstMisfit (es : List UseFieldEntry) (f : Failure) : Prop :=
  ∃ before e after, es = before ++ e :: after ∧ Misfit before e f ∧
    ∀ before' e' after' f', before = before' ++ e' :: after' → ¬Misfit before' e' f'

theorem plans_nil : Plans [] {} where
  fits := by simp
  declares := .nil
  assigns := .nil
  lines := rfl

section Step

variable {es : List UseFieldEntry} {plan plan' : UseFieldPlan} {e : UseFieldEntry}

/-- Among declarations, that of a variable is found with the entry that makes it. -/
theorem find?_declares {firsts : List UseFieldEntry} {ds : List UseField}
    (h : List.Forall₂ Declares firsts ds) (symbol : String) :
    Option.Rel Declares (firstSetting firsts symbol) (ds.find? fun d => d.symbol == symbol) := by
  induction h with
  | nil => exact .none
  | @cons first d firsts ds hd _ ih =>
    obtain ⟨type, htype, rfl⟩ := hd
    by_cases hkey : first.key = symbol
    · simp only [firstSetting, List.find?_cons, hkey, beq_self_eq_true]
      exact .some ⟨type, htype, by rw [hkey]⟩
    · simpa [firstSetting, List.find?_cons, hkey] using ih

/-- A plan finds the declaration of a variable exactly where an entry has set it. -/
theorem Plans.declaration?_eq (h : Plans es plan) (symbol : String) :
    Option.Rel Declares (firstSetting (variableEntries es) symbol) (plan.declaration? symbol) := by
  rw [← firstSetting_declaring]
  exact find?_declares h.declares symbol

theorem Plans.fits_append (h : Plans es plan) (hfit : ∀ f, ¬Misfit es e f) :
    ∀ before x after f, es ++ [e] = before ++ x :: after → ¬Misfit before x f := by
  intro before x after f heq
  rcases append_singleton_eq_append_cons heq with ⟨rfl, rfl, _⟩ | ⟨after', hes⟩
  · exact hfit f
  · exact h.fits before x after' f hes

theorem addVariable_eq_error_iff (h : Plans es plan) (hkey : isDirectiveKey e.key = false)
    (hname : isCIdentifier e.key = true) {own : NativeType}
    (hown : NativeType.of? e.value = some own) {f : Failure} :
    plan.addVariable e own = .error f ↔ Misfit es e f := by
  have hrel := h.declaration?_eq e.key
  constructor
  · intro herror
    unfold UseFieldPlan.addVariable at herror
    cases hdecl : plan.declaration? e.key with
    | none => simp [hdecl] at herror
    | some d =>
      rw [hdecl] at hrel herror
      cases hfirst : firstSetting (variableEntries es) e.key with
      | none => rw [hfirst] at hrel; cases hrel
      | some first =>
        rw [hfirst] at hrel
        cases hrel with
        | some hd =>
          obtain ⟨declared, hdeclared, rfl⟩ := hd
          by_cases hmeets : declared.accepts own = true
          · simp [hmeets] at herror
          · simp only [hmeets] at herror
            cases herror
            exact .type hkey hname hfirst hdeclared hown (Bool.eq_false_iff.mpr hmeets)
  · intro hmisfit
    cases hmisfit with
    | line hkey' _ => simp [hkey] at hkey'
    | name _ hname' => simp [hname] at hname'
    | value _ _ htype => simp [hown] at htype
    | @type first declared own' _ _ hfirst hdeclared hown' hmeets =>
      obtain rfl : own' = own := by simpa [hown] using hown'.symm
      unfold UseFieldPlan.addVariable
      rw [hfirst] at hrel
      cases hdecl : plan.declaration? e.key with
      | none => rw [hdecl] at hrel; cases hrel
      | some d =>
        rw [hdecl] at hrel
        cases hrel with
        | some hd =>
          obtain ⟨type, htype, rfl⟩ := hd
          obtain rfl : type = declared := by simpa [hdeclared] using htype.symm
          simp [hmeets]

/-- An entry is refused exactly when it does not fit the ones that the plan holds. -/
theorem UseFieldPlan.add_eq_error_iff (h : Plans es plan) {f : Failure} :
    plan.add e = .error f ↔ Misfit es e f := by
  unfold UseFieldPlan.add
  cases hkey : isDirectiveKey e.key with
  | true =>
    cases htext : e.value.asString? with
    | none =>
      constructor
      · intro herror
        cases herror
        exact .line hkey htext
      · intro hmisfit
        cases hmisfit <;> simp_all
    | some line =>
      constructor
      · simp
      · intro hmisfit
        cases hmisfit <;> simp_all
  | false =>
    cases hname : isCIdentifier e.key with
    | false =>
      constructor
      · intro herror
        cases herror
        exact .name hkey hname
      · intro hmisfit
        cases hmisfit <;> simp_all
    | true =>
      cases hown : NativeType.of? e.value with
      | none =>
        constructor
        · intro herror
          cases herror
          exact .value hkey hname hown
        · intro hmisfit
          cases hmisfit <;> simp_all
      | some own => simpa using addVariable_eq_error_iff h hkey hname hown

theorem Plans.addDirective (h : Plans es plan) (hkey : isDirectiveKey e.key = true)
    (hfit : ∀ f, ¬Misfit es e f) {line : String} (htext : e.value.asString? = some line) :
    Plans (es ++ [e]) (plan.addDirective line) := by
  have hlines : directiveLines [e] = [line] := by simp [directiveLines_directive hkey, htext]
  have hseen : plan.directives.contains line = (directiveLines es).contains line := by
    rw [h.lines]
    simp
  unfold UseFieldPlan.addDirective
  by_cases hmem : line ∈ directiveLines es
  · rw [if_pos (by simpa [hmem] using hseen)]
    exact
      { fits := h.fits_append hfit
        declares := by simpa [variableEntries_directive hkey] using h.declares
        assigns := by simpa [variableEntries_directive hkey] using h.assigns
        lines := by
          rw [directiveLines_append, hlines, List.eraseDups_append, h.lines]
          simp [List.removeAll, hmem] }
  · rw [if_neg (by simpa [hmem] using hseen)]
    exact
      { fits := h.fits_append hfit
        declares := by simpa [variableEntries_directive hkey] using h.declares
        assigns := by simpa [variableEntries_directive hkey] using h.assigns
        lines := by
          rw [directiveLines_append, hlines, List.eraseDups_append, h.lines]
          simp [List.removeAll, hmem, List.eraseDups_cons] }

theorem Plans.addVariable (h : Plans es plan) (hkey : isDirectiveKey e.key = false)
    (hfit : ∀ f, ¬Misfit es e f) {own : NativeType} (hown : NativeType.of? e.value = some own)
    (hadd : plan.addVariable e own = .ok plan') : Plans (es ++ [e]) plan' := by
  have hvars : variableEntries (es ++ [e]) = variableEntries es ++ [e] := by
    rw [variableEntries_append, variableEntries_variable hkey]
  have hlines : directiveLines (es ++ [e]) = directiveLines es := by
    rw [directiveLines_append, directiveLines_variable hkey, List.append_nil]
  have hrel := h.declaration?_eq e.key
  unfold UseFieldPlan.addVariable at hadd
  cases hfirst : firstSetting (variableEntries es) e.key with
  | none =>
    rw [hfirst] at hrel
    cases hdecl : plan.declaration? e.key with
    | some d => rw [hdecl] at hrel; cases hrel
    | none =>
      rw [hdecl] at hadd
      cases hadd
      exact
        { fits := h.fits_append hfit
          declares := by
            rw [hvars, declaring_append_new hfirst]
            exact List.rel_append h.declares (.cons ⟨own, hown, rfl⟩ .nil)
          assigns := by rw [hvars, assigning_append_new hfirst]; exact h.assigns
          lines := by rw [hlines]; exact h.lines }
  | some first =>
    rw [hfirst] at hrel
    cases hdecl : plan.declaration? e.key with
    | none => rw [hdecl] at hrel; cases hrel
    | some d =>
      rw [hdecl] at hrel hadd
      cases hrel with
      | some hd =>
        obtain ⟨declared, hdeclared, rfl⟩ := hd
        by_cases hmeets : declared.accepts own = true
        · simp only [hmeets, if_true] at hadd
          cases hadd
          have hassigns : Assigns (variableEntries es) e ⟨e.key, declared, e.value, e.component⟩ :=
            ⟨first, declared, own, hfirst, hdeclared, hown, hmeets, rfl⟩
          exact
            { fits := h.fits_append hfit
              declares := by rw [hvars, declaring_append_again hfirst]; exact h.declares
              assigns := by
                rw [hvars, assigning_append_again hfirst]
                exact List.rel_append h.assigns (.cons hassigns .nil)
              lines := by rw [hlines]; exact h.lines }
        · simp [hmeets] at hadd

/-- **One step**: an entry that is taken is planned behind the others. -/
theorem Plans.add (h : Plans es plan) (hadd : plan.add e = .ok plan') :
    Plans (es ++ [e]) plan' := by
  have hfit : ∀ f, ¬Misfit es e f := by
    intro f hmisfit
    rw [(UseFieldPlan.add_eq_error_iff h).mpr hmisfit] at hadd
    cases hadd
  unfold UseFieldPlan.add at hadd
  cases hkey : isDirectiveKey e.key with
  | true =>
    cases htext : e.value.asString? with
    | none => simp [hkey, htext] at hadd
    | some line =>
      simp only [hkey, htext, if_true] at hadd
      cases hadd
      exact h.addDirective hkey hfit htext
  | false =>
    cases hname : isCIdentifier e.key with
    | false => simp [hkey, hname] at hadd
    | true =>
      cases hown : NativeType.of? e.value with
      | none => simp [hkey, hname, hown] at hadd
      | some own => exact h.addVariable hkey hfit hown (by simpa [hkey, hname, hown] using hadd)

end Step

/-- **A run**: the entries behind a plan are planned one by one, up to the first that does not
fit. -/
theorem foldlM_add {before : List UseFieldEntry} {plan : UseFieldPlan} (h : Plans before plan)
    (es : List UseFieldEntry) :
    match es.foldlM UseFieldPlan.add plan with
    | .ok plan' => Plans (before ++ es) plan'
    | .error f => FirstMisfit (before ++ es) f := by
  induction es generalizing before plan with
  | nil =>
    rw [List.append_nil]
    exact h
  | cons e es ih =>
    rw [List.foldlM_cons]
    cases hadd : plan.add e with
    | error f =>
      exact ⟨before, e, es, rfl, (UseFieldPlan.add_eq_error_iff h).mp hadd, h.fits⟩
    | ok plan' =>
      have hrest := ih (h.add hadd)
      rw [List.append_assoc, List.singleton_append] at hrest
      exact hrest

/-! ### What the variables hold -/

/-- What the variables of the generated code hold. -/
abbrev Memory := String → Option Json

/-- A declaration or an assignment puts its value into its variable. -/
def Memory.set (m : Memory) (u : UseField) : Memory :=
  fun symbol => if u.symbol = symbol then some u.value else m symbol

/-- What the variables hold when the declarations have run, and then the assignments. -/
def UseFieldPlan.run (plan : UseFieldPlan) : Memory :=
  plan.assignments.foldl Memory.set (plan.declarations.foldl Memory.set fun _ => none)

/-- The value that the last of the entries gives a variable. -/
def lastSetting (vs : List UseFieldEntry) (symbol : String) : Option Json :=
  (vs.filter fun e => e.key == symbol).getLast?.map (·.value)

/-- Only the last of the fields that set a variable counts. -/
theorem foldl_set (us : List UseField) (symbol : String) :
    us.foldl Memory.set (fun _ => none) symbol =
      (us.filter fun u => u.symbol == symbol).getLast?.map (·.value) := by
  induction us using List.reverseRecOn with
  | nil => rfl
  | append_singleton us u ih =>
    by_cases hkey : u.symbol = symbol
    · simp [Memory.set, hkey]
    · simp [Memory.set, hkey, ih]

/-- Each field of a plan carries the name and the value of its entry. -/
theorem Plans.settings {es : List UseFieldEntry} {plan : UseFieldPlan} (h : Plans es plan) :
    (plan.declarations ++ plan.assignments).map (fun u => (u.symbol, u.value)) =
      (declaring (variableEntries es) ++ (assigning (variableEntries es)).map Prod.snd).map
        fun e => (e.key, e.value) := by
  have hdecl : (declaring (variableEntries es)).map (fun e => (e.key, e.value)) =
      plan.declarations.map fun u => (u.symbol, u.value) := by
    refine map_eq_map_of_forall₂ ?_ h.declares
    rintro e d ⟨_, _, rfl⟩
    rfl
  have hasgn : (assigning (variableEntries es)).map (fun p => (p.2.key, p.2.value)) =
      plan.assignments.map fun u => (u.symbol, u.value) := by
    refine map_eq_map_of_forall₂ ?_ h.assigns
    rintro p a ⟨_, _, _, _, _, _, _, rfl⟩
    rfl
  rw [List.map_append, List.map_append, List.map_map, ← hdecl, ← hasgn]
  rfl

/-- **What counts is the last setting**: the declarations run ahead of all assignments, and still
each variable ends with the value that the last entry gives it. -/
theorem run_eq {es : List UseFieldEntry} {plan : UseFieldPlan} (h : Plans es plan)
    (symbol : String) : plan.run symbol = lastSetting (variableEntries es) symbol := by
  have hlast : ∀ {α : Type} (key : α → String) (value : α → Json) (xs : List α),
      ((xs.filter fun x => key x == symbol).getLast?.map value) =
        ((xs.map fun x => (key x, value x)).filter fun p => p.1 == symbol).getLast?.map
          Prod.snd := by
    intro α key value xs
    rw [List.filter_map, List.getLast?_map, Option.map_map]
    rfl
  calc plan.run symbol
      = (plan.declarations ++ plan.assignments).foldl Memory.set (fun _ => none) symbol := by
        rw [List.foldl_append]; rfl
    _ = ((plan.declarations ++ plan.assignments).filter fun u =>
          u.symbol == symbol).getLast?.map (·.value) := foldl_set _ symbol
    _ = ((declaring (variableEntries es) ++ (assigning (variableEntries es)).map
          Prod.snd).filter fun e => e.key == symbol).getLast?.map (·.value) := by
        rw [hlast UseField.symbol UseField.value, h.settings,
          ← hlast UseFieldEntry.key UseFieldEntry.value]
    _ = lastSetting (variableEntries es) symbol := by
        rw [filter_declaring_assigning]; rfl

theorem Plans.nodup_symbols {es : List UseFieldEntry} {plan : UseFieldPlan} (h : Plans es plan) :
    (plan.declarations.map (·.symbol)).Nodup := by
  have hkeys : (declaring (variableEntries es)).map (·.key) =
      plan.declarations.map (·.symbol) := by
    refine map_eq_map_of_forall₂ ?_ h.declares
    rintro e d ⟨_, _, rfl⟩
    rfl
  rw [← hkeys]
  exact nodup_declaring _

/-! ### The plan of a table -/

/-- The first misfit is what planning reports. -/
theorem planUseFields_eq_error_iff (rows : List DispatchEntry) (f : Failure) :
    planUseFields rows = .error f ↔ FirstMisfit (useFieldEntries rows) f := by
  constructor
  · intro herror
    have hrun := foldlM_add plans_nil (useFieldEntries rows)
    rw [planUseFields] at herror
    rw [herror] at hrun
    exact hrun
  · rintro ⟨before, e, after, hes, hmisfit, hfits⟩
    have hrun := foldlM_add plans_nil before
    rw [planUseFields, hes, List.foldlM_append]
    cases hbefore : before.foldlM UseFieldPlan.add {} with
    | error g =>
      rw [hbefore] at hrun
      obtain ⟨before', e', after', hpos, hmisfit', -⟩ := hrun
      exact absurd hmisfit' (hfits before' e' after' g hpos)
    | ok plan =>
      rw [hbefore] at hrun
      have hadd := (UseFieldPlan.add_eq_error_iff hrun).mpr hmisfit
      show (e :: after).foldlM UseFieldPlan.add plan = .error f
      rw [List.foldlM_cons, hadd]
      rfl

/-- **The plan of a table**: it declares each variable once, by the first entry that sets it, turns
each later one into an assignment of the declared type, and keeps the distinct preprocessor lines
in the order in which they are met; each variable ends with the value that was set last.  It is
refused exactly when some entry does not fit those before it, and the failure is that of the first
such entry. -/
theorem planUseFields_spec (rows : List DispatchEntry) :
    (∀ plan, planUseFields rows = .ok plan →
      Plans (useFieldEntries rows) plan ∧ (plan.declarations.map (·.symbol)).Nodup ∧
        ∀ symbol, plan.run symbol = lastSetting (variableEntries (useFieldEntries rows)) symbol) ∧
    ((∃ f, planUseFields rows = .error f) ↔
      ∃ before e after f, useFieldEntries rows = before ++ e :: after ∧ Misfit before e f) ∧
    ∀ f, planUseFields rows = .error f ↔ FirstMisfit (useFieldEntries rows) f := by
  have hplans : ∀ plan, planUseFields rows = .ok plan → Plans (useFieldEntries rows) plan := by
    intro plan hplan
    have hrun := foldlM_add plans_nil (useFieldEntries rows)
    rw [planUseFields] at hplan
    rw [hplan] at hrun
    exact hrun
  refine ⟨fun plan hplan => ?_, ⟨?_, ?_⟩, planUseFields_eq_error_iff rows⟩
  · have h := hplans plan hplan
    exact ⟨h, h.nodup_symbols, run_eq h⟩
  · rintro ⟨f, herror⟩
    obtain ⟨before, e, after, hes, hmisfit, -⟩ := (planUseFields_eq_error_iff rows f).mp herror
    exact ⟨before, e, after, f, hes, hmisfit⟩
  · rintro ⟨before, e, after, f, hes, hmisfit⟩
    cases hplan : planUseFields rows with
    | error g => exact ⟨g, rfl⟩
    | ok plan => exact absurd hmisfit ((hplans plan hplan).fits before e after f hes)

end DispatchTables
