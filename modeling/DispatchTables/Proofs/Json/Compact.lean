import DispatchTables.Proofs.Json.Equality
import DispatchTables.Proofs.Number.Written

/-!
# Compact texts

The compact text of a value says where it ends: a string at its closing quote, since quotes inside
it are escaped, an array or an object at its closing bracket, and a number where no character of a
number follows.  So whatever stands behind the text, value and rest are told apart in one way only.
In particular no two values have the same text.

## Main Definitions

* `Delimited`: the texts of some kind of thing are told apart from what stands behind them.
* `Json.opens`: the characters that the text of a value may begin with.

## Main Statements

* `escapeChar_unique`, `stringText_unique`: the end of a string is found.
* `listTexts_unique`: the end of an array or an object is found when those of its parts are.
* `Json.chars_delimited`: the end of a value is found.
* `Json.compact_injective`: no two values are written alike.
-/

namespace DispatchTables

open DispatchTables.Text

variable {α : Type} {r r' a b : List Char} {c d : Char}

/-! ### Strings -/

/-- The characters that are escaped. -/
def escapedChars : List Char := (List.range 0x20).map Char.ofNat ++ ['"', '\\']

/-- All other characters stand for themselves. -/
theorem escapeChar_of_not_mem (plain : c ∉ escapedChars) : Json.escapeChar c = [c] := by
  have other (mark : Char) (escaped : mark ∈ escapedChars) : c ≠ mark := by
    rintro rfl
    exact plain escaped
  have printed : ¬ c.toNat < 0x20 := fun control => plain (List.mem_append_left _
    (List.mem_map.mpr ⟨c.toNat, List.mem_range.mpr control, Char.ofNat_toNat c⟩))
  unfold Json.escapeChar
  rw [if_neg (other _ (by decide +kernel)), if_neg (other _ (by decide +kernel)),
    if_neg (other _ (by decide +kernel)), if_neg (other _ (by decide +kernel)),
    if_neg (other _ (by decide +kernel)), if_neg (other _ (by decide +kernel)),
    if_neg (other _ (by decide +kernel)), if_neg printed]

theorem escapedChars_prefixFree : ∀ c ∈ escapedChars, ∀ d ∈ escapedChars,
    Json.escapeChar c <+: Json.escapeChar d → c = d := by
  have each : ∀ c ∈ escapedChars, (escapedChars.all fun d =>
      decide (Json.escapeChar c <+: Json.escapeChar d → c = d)) = true :=
    forall_mem_of_all (by decide +kernel)
  exact fun c mem => forall_mem_of_all (each c mem)

theorem head?_escaped : ∀ c ∈ escapedChars, (Json.escapeChar c).head? = some '\\' :=
  forall_mem_of_all (by decide +kernel)

/-- **No escape begins another**, and no quote begins one. -/
theorem escapeChar_prefixFree (h : Json.escapeChar c <+: Json.escapeChar d) : c = d := by
  by_cases hc : c ∈ escapedChars <;> by_cases hd : d ∈ escapedChars
  · exact escapedChars_prefixFree c hc d hd h
  · -- a backslash would stand for itself
    obtain ⟨rest, same⟩ := h
    rw [escapeChar_of_not_mem hd] at same
    have head := congrArg List.head? same
    rw [List.head?_append, head?_escaped c hc] at head
    obtain rfl : '\\' = d := Option.some.inj head
    exact absurd (by decide +kernel) hd
  · obtain ⟨rest, same⟩ := h
    rw [escapeChar_of_not_mem hc] at same
    have head := congrArg List.head? same
    rw [head?_escaped d hd] at head
    obtain rfl : c = '\\' := Option.some.inj head
    exact absurd (by decide +kernel) hc
  · rw [escapeChar_of_not_mem hc, escapeChar_of_not_mem hd] at h
    simpa using h

/-- **An escape is told apart from what stands behind it.** -/
theorem escapeChar_unique (same : Json.escapeChar c ++ a = Json.escapeChar d ++ b) :
    c = d ∧ a = b := by
  have eq : c = d := by
    rcases Nat.le_total (Json.escapeChar c).length (Json.escapeChar d).length with le | le
    · exact escapeChar_prefixFree (List.prefix_of_prefix_length_le ⟨a, rfl⟩ ⟨b, same.symm⟩ le)
    · exact (escapeChar_prefixFree
        (List.prefix_of_prefix_length_le ⟨b, rfl⟩ ⟨a, same⟩ le)).symm
  subst eq
  exact ⟨rfl, List.append_cancel_left same⟩

theorem escapeChar_ne_quote (c : Char) (a b : List Char) : Json.escapeChar c ++ a ≠ '"' :: b := by
  intro same
  by_cases escaped : c ∈ escapedChars
  · have head := congrArg List.head? same
    rw [List.head?_append, head?_escaped c escaped] at head
    cases head
  · rw [escapeChar_of_not_mem escaped] at same
    obtain rfl : c = '"' := (List.cons.inj same).1
    exact escaped (by decide +kernel)

theorem escaped_unique {cs ds : List Char}
    (same : cs.flatMap Json.escapeChar ++ '"' :: a = ds.flatMap Json.escapeChar ++ '"' :: b) :
    cs = ds ∧ a = b := by
  induction cs generalizing ds with
  | nil =>
    cases ds with
    | nil => exact ⟨rfl, (List.cons.inj same).2⟩
    | cons d ds =>
      rw [List.flatMap_cons, List.append_assoc] at same
      exact absurd same.symm (escapeChar_ne_quote d _ _)
  | cons c cs ih =>
    cases ds with
    | nil =>
      rw [List.flatMap_cons, List.append_assoc] at same
      exact absurd same (escapeChar_ne_quote c _ _)
    | cons d ds =>
      rw [List.flatMap_cons, List.flatMap_cons, List.append_assoc, List.append_assoc] at same
      obtain ⟨rfl, rest⟩ := escapeChar_unique same
      obtain ⟨rfl, behind⟩ := ih rest
      exact ⟨rfl, behind⟩

theorem toList_stringText (s : String) :
    (Json.stringText s).toList = '"' :: (s.toList.flatMap Json.escapeChar ++ ['"']) := by
  rw [Json.stringText, String.toList_ofList]

/-- **A string is told apart from what stands behind it.** -/
theorem stringText_unique {s t : String}
    (same : (Json.stringText s).toList ++ a = (Json.stringText t).toList ++ b) : s = t ∧ a = b := by
  rw [toList_stringText, toList_stringText, List.cons_append, List.cons_append, List.append_assoc,
    List.append_assoc] at same
  obtain ⟨chars, rest⟩ := escaped_unique (List.cons.inj same).2
  exact ⟨String.toList_inj.mp chars, rest⟩

/-! ### Parts between brackets -/

/-- **A thing's text is told apart from what stands behind it**, as long as that is not more of a
number. -/
def Delimited (text : α → List Char) (x : α) : Prop := ∀ y r r', StopsAt isNumberChar r →
  StopsAt isNumberChar r' → text x ++ r = text y ++ r' → x = y ∧ r = r'

/-- The texts of things behind commas. -/
def commaTexts (text : α → List Char) (xs : List α) : List Char := xs.flatMap fun x => ',' :: text x

theorem commaTexts_cons (text : α → List Char) (x : α) (xs : List α) :
    commaTexts text (x :: xs) = ',' :: (text x ++ commaTexts text xs) := by
  rw [commaTexts, List.flatMap_cons, List.cons_append]
  rfl

/-- Texts with commas between them. -/
theorem intercalate_comma (first : List Char) (rest : List (List Char)) :
    [','].intercalate (first :: rest) = first ++ commaTexts id rest := by
  induction rest generalizing first with
  | nil => simp [commaTexts]
  | cons next rest ih =>
    rw [List.intercalate_cons_cons, ih next, commaTexts_cons]
    simp

theorem stops_comma (text : α → List Char) (xs : List α) {closing : Char}
    (closes : isNumberChar closing = false) (r : List Char) :
    StopsAt isNumberChar (commaTexts text xs ++ closing :: r) := by
  cases xs with
  | nil => exact stopsAt_cons closes r
  | cons x rest => exact stopsAt_cons rfl _

/-- Things behind commas are told apart from each other, up to a closing bracket. -/
theorem commaTexts_unique {text : α → List Char} {closing : Char} (other : closing ≠ ',')
    (closes : isNumberChar closing = false) {xs ys : List α}
    (delimited : ∀ x ∈ xs, Delimited text x)
    (same : commaTexts text xs ++ closing :: r = commaTexts text ys ++ closing :: r') :
    xs = ys ∧ r = r' := by
  induction xs generalizing ys with
  | nil =>
    cases ys with
    | nil => exact ⟨rfl, (List.cons.inj same).2⟩
    | cons y ys => exact absurd (List.cons.inj same).1 other
  | cons x xs ih =>
    cases ys with
    | nil => exact absurd (List.cons.inj same).1.symm other
    | cons y ys =>
      obtain ⟨first, rest⟩ := List.forall_mem_cons.mp delimited
      rw [commaTexts_cons, commaTexts_cons, List.cons_append, List.cons_append, List.append_assoc,
        List.append_assoc] at same
      obtain ⟨rfl, behind⟩ := first y _ _ (stops_comma text xs closes r)
        (stops_comma text ys closes r') (List.cons.inj same).2
      obtain ⟨rfl, tail⟩ := ih rest behind
      exact ⟨rfl, tail⟩

/-- The texts of things with commas between them. -/
def listTexts (text : α → List Char) : List α → List Char
  | [] => []
  | x :: rest => text x ++ commaTexts text rest

theorem listTexts_cons (text : α → List Char) (x : α) (xs : List α) :
    listTexts text (x :: xs) = text x ++ commaTexts text xs := rfl

/-- **Things between brackets are told apart** from each other and from what stands behind. -/
theorem listTexts_unique {text : α → List Char} {closing : Char} (other : closing ≠ ',')
    (closes : isNumberChar closing = false) {xs ys : List α}
    (opens : ∀ x r r', text x ++ r ≠ closing :: r') (delimited : ∀ x ∈ xs, Delimited text x)
    (same : listTexts text xs ++ closing :: r = listTexts text ys ++ closing :: r') :
    xs = ys ∧ r = r' := by
  cases xs with
  | nil =>
    cases ys with
    | nil => exact ⟨rfl, (List.cons.inj same).2⟩
    | cons y ys =>
      rw [listTexts_cons, List.append_assoc] at same
      exact absurd same.symm (opens y _ _)
  | cons x xs =>
    cases ys with
    | nil =>
      rw [listTexts_cons, List.append_assoc] at same
      exact absurd same (opens x _ _)
    | cons y ys =>
      obtain ⟨first, rest⟩ := List.forall_mem_cons.mp delimited
      rw [listTexts_cons, listTexts_cons, List.append_assoc, List.append_assoc] at same
      obtain ⟨rfl, behind⟩ := first y _ _ (stops_comma text xs closes r)
        (stops_comma text ys closes r') same
      obtain ⟨rfl, tail⟩ := commaTexts_unique other closes rest behind
      exact ⟨rfl, tail⟩

/-! ### Values -/

namespace Json

/-- The characters of the compact text of a value. -/
def chars (v : Json) : List Char := v.compact.toList

/-- The characters of a member in the compact text of an object. -/
def memberChars (m : String × Json) : List Char := (stringText m.1).toList ++ ':' :: m.2.chars

theorem compactItems_eq (items : List Json) : compactItems items = items.map compact := by
  induction items with
  | nil => rfl
  | cons v rest ih => rw [compactItems, ih, List.map_cons]

theorem toList_compactMembers (members : Members) :
    (compactMembers members).map String.toList = members.map memberChars := by
  induction members with
  | nil => rfl
  | cons m rest ih =>
    obtain ⟨key, v⟩ := m
    rw [compactMembers, List.map_cons, List.map_cons, ih]
    simp [memberChars, chars]

theorem intercalate_eq_listTexts (text : α → List Char) (xs : List α) :
    [','].intercalate (xs.map text) = listTexts text xs := by
  cases xs with
  | nil => rfl
  | cons x rest =>
    rw [List.map_cons, intercalate_comma, listTexts_cons, commaTexts, List.flatMap_map]
    rfl

theorem chars_array (items : List Json) :
    (array items).chars = '[' :: (listTexts chars items ++ [']']) := by
  rw [chars, compact, String.toList_append, String.toList_append, String.toList_intercalate,
    compactItems_eq, List.map_map, ← intercalate_eq_listTexts]
  rfl

theorem chars_object (members : Members) :
    (object members).chars = '\x7b' :: (listTexts memberChars members ++ ['\x7d']) := by
  rw [chars, compact, String.toList_append, String.toList_append, String.toList_intercalate,
    toList_compactMembers, ← intercalate_eq_listTexts]
  rfl

/-- What the text of a value may begin with. -/
def opens : Json → Char → Bool
  | .null, c => c == 'n'
  | .bool true, c => c == 't'
  | .bool false, c => c == 'f'
  | .number _, c => isNumberChar c
  | .string _, c => c == '"'
  | .array _, c => c == '['
  | .object _, c => c == '\x7b'

theorem chars_begins (v : Json) : ∃ c rest, v.chars = c :: rest ∧ v.opens c = true := by
  cases v with
  | null => exact ⟨'n', ['u', 'l', 'l'], rfl, rfl⟩
  | bool b => cases b with
    | true => exact ⟨'t', ['r', 'u', 'e'], rfl, rfl⟩
    | false => exact ⟨'f', ['a', 'l', 's', 'e'], rfl, rfl⟩
  | number n =>
    obtain ⟨run, some_⟩ := n.text_run
    obtain ⟨c, rest, text⟩ := List.exists_cons_of_ne_nil some_
    exact ⟨c, rest, text, run c (text ▸ List.mem_cons_self)⟩
  | string s => exact ⟨'"', _, toList_stringText s, rfl⟩
  | array items => exact ⟨'[', _, chars_array items, rfl⟩
  | object members => exact ⟨'\x7b', _, chars_object members, rfl⟩

theorem opens_of_begins {v : Json} {rest : List Char} (begins : v.chars ++ r = c :: rest) :
    v.opens c = true := by
  obtain ⟨first, more, text, opens⟩ := v.chars_begins
  rw [text, List.cons_append] at begins
  exact (List.cons.inj begins).1 ▸ opens

/-- **Values whose texts begin alike** may begin with the same character. -/
theorem exists_opening {v w : Json} (same : v.chars ++ r = w.chars ++ r') :
    ∃ c, v.opens c = true ∧ w.opens c = true := by
  obtain ⟨c, rest, text, opens⟩ := v.chars_begins
  rw [text, List.cons_append] at same
  exact ⟨c, opens, opens_of_begins same.symm⟩

theorem chars_ne_closing (v : Json) (r r' : List Char) : v.chars ++ r ≠ ']' :: r' := by
  intro same
  have opens := opens_of_begins same
  rcases v with _ | (_ | _) | n | t | items | members <;> cases opens

theorem memberChars_ne_closing (m : String × Json) (r r' : List Char) :
    memberChars m ++ r ≠ '\x7d' :: r' := by
  rw [memberChars, toList_stringText]
  intro same
  cases (List.cons.inj same).1

theorem memberChars_delimited {m : String × Json} (value : Delimited chars m.2) :
    Delimited memberChars m := by
  obtain ⟨key, v⟩ := m
  rintro ⟨key', v'⟩ r r' stops stops' same
  rw [memberChars, memberChars, List.append_assoc, List.append_assoc] at same
  obtain ⟨rfl, behind⟩ := stringText_unique same
  obtain ⟨same, rest⟩ := value v' r r' stops stops' (List.cons.inj behind).2
  exact ⟨Prod.ext rfl same, rest⟩

/-- **A value is told apart from what stands behind it.** -/
theorem chars_delimited (v : Json) : Delimited chars v := by
  induction v using Json.inductionOn with
  | null =>
    intro w r r' _ _ same
    obtain ⟨c, opens, opens'⟩ := exists_opening same
    obtain rfl : c = 'n' := beq_iff_eq.mp opens
    rcases w with _ | (_ | _) | n | t | items | members <;> try cases opens'
    exact ⟨rfl, List.append_cancel_left same⟩
  | bool b =>
    intro w r r' _ _ same
    obtain ⟨c, opens, opens'⟩ := exists_opening same
    cases b with
    | false =>
      obtain rfl : c = 'f' := beq_iff_eq.mp opens
      rcases w with _ | (_ | _) | n | t | items | members <;> try cases opens'
      exact ⟨rfl, List.append_cancel_left same⟩
    | true =>
      obtain rfl : c = 't' := beq_iff_eq.mp opens
      rcases w with _ | (_ | _) | n | t | items | members <;> try cases opens'
      exact ⟨rfl, List.append_cancel_left same⟩
  | number n =>
    intro w r r' stops stops' same
    obtain ⟨c, opens, opens'⟩ := exists_opening same
    rcases w with _ | (_ | _) | m | t | items | members <;>
      try (obtain rfl := beq_iff_eq.mp opens'; cases opens)
    obtain ⟨texts, rest⟩ := run_unique n.text_run.1 stops m.text_run.1 stops' same
    exact ⟨congrArg number (Number.text_injective (String.toList_inj.mp texts)), rest⟩
  | string s =>
    intro w r r' _ _ same
    obtain ⟨c, opens, opens'⟩ := exists_opening same
    obtain rfl : c = '"' := beq_iff_eq.mp opens
    rcases w with _ | (_ | _) | n | t | items | members <;> try cases opens'
    obtain ⟨rfl, rest⟩ := stringText_unique same
    exact ⟨rfl, rest⟩
  | array items ih =>
    intro w r r' _ _ same
    obtain ⟨c, opens, opens'⟩ := exists_opening same
    obtain rfl : c = '[' := beq_iff_eq.mp opens
    rcases w with _ | (_ | _) | n | t | others | members <;> try cases opens'
    rw [chars_array, chars_array, List.cons_append, List.cons_append, List.append_assoc,
      List.append_assoc] at same
    obtain ⟨rfl, rest⟩ := listTexts_unique (by decide) rfl chars_ne_closing ih
      (List.cons.inj same).2
    exact ⟨rfl, rest⟩
  | object members ih =>
    intro w r r' _ _ same
    obtain ⟨c, opens, opens'⟩ := exists_opening same
    obtain rfl : c = '\x7b' := beq_iff_eq.mp opens
    rcases w with _ | (_ | _) | n | t | items | others <;> try cases opens'
    rw [chars_object, chars_object, List.cons_append, List.cons_append, List.append_assoc,
      List.append_assoc] at same
    obtain ⟨rfl, rest⟩ := listTexts_unique (by decide) rfl memberChars_ne_closing
      (fun m mem => memberChars_delimited (ih m mem)) (List.cons.inj same).2
    exact ⟨rfl, rest⟩

/-- **No two values are written alike.** -/
theorem compact_injective : Function.Injective compact := by
  intro v w same
  have stops : StopsAt isNumberChar [] := nofun
  refine (chars_delimited v w [] [] stops stops ?_).1
  rw [chars, chars, same]

end Json

end DispatchTables
