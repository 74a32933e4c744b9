/-
**Documents read back.**

A document that has been written in some layout is read as that document, with every member in its
place, whatever it holds.  A value can be read back in front of anything that closes it, so the parts
of an array or object can be read one after the other.  The reader takes a step for each value,
item and member it begins, and each of these has characters of its own; so as many steps as the text
has characters are enough, and it is given twice as many.

Main definitions:

* `Json.Begins` — what a value may begin with;
* `Json.ReadsBack` — a document is read back in front of whatever may follow it.

Main results:

* `Json.readItems_render`, `Json.readMembers_render` — items and members are read back if the values
  in them are;
* `Json.readsBack` — every document is read back;
* `Json.parse_write` — **the text of a document in any layout is read as that document**;
* `Json.parse_indented` — so is its text over several lines.
-/

import HostRouting.Proofs.Json.Layout
import HostRouting.Proofs.Json.Literal

set_option autoImplicit false

namespace HostRouting.Json

/-! ### Gaps -/

theorem skipGap_append {gap : List Char} (h : ∀ c ∈ gap, isGap c = true) (cs : List Char) :
    skipGap (gap ++ cs) = skipGap cs :=
  List.dropWhile_append_of_pos h

theorem skipGap_of_not_gap {c : Char} (h : isGap c = false) (cs : List Char) :
    skipGap (c :: cs) = c :: cs := by
  rw [skipGap, List.dropWhile_cons_of_neg (by simp [h])]

/-! ### The first character -/

/-- Whether a value may begin with a character: neither a gap nor a closing bracket. -/
def Begins (c : Char) : Prop := isGap c = false ∧ c ≠ ']'

theorem exists_numeralText (n : Numeral) :
    ∃ c cs, numeralText n = c :: cs ∧ (c = '-' ∨ Text.isDigit 10 c = true) := by
  cases n with
  | integer n =>
      rw [numeralText, integerText]
      split
      · exact ⟨'-', _, rfl, .inl rfl⟩
      · obtain ⟨c, cs, hcs, hc⟩ := exists_decimal n.natAbs
        exact ⟨c, cs, hcs, .inr hc⟩
  | decimal negative significand e =>
      cases negative with
      | true => exact ⟨'-', _, rfl, .inl rfl⟩
      | false =>
          obtain ⟨c, cs, hcs, hc⟩ := exists_decimal significand
          refine ⟨c, cs ++ 'e' :: integerText e, ?_, .inr hc⟩
          simp [numeralText, hcs]

theorem begins_of_isDigit {c : Char} (h : Text.isDigit 10 c = true) : Begins c := by
  constructor
  · simp only [isGap, Bool.or_eq_false_iff, beq_eq_false_iff_ne]
    refine ⟨⟨⟨?_, ?_⟩, ?_⟩, ?_⟩ <;> (rintro rfl; exact absurd h (by decide))
  · rintro rfl
    exact absurd h (by decide)

variable {l : Layout}

/-- A value begins with a character of its own. -/
theorem exists_render (l : Layout) (level : Nat) (j : Json) :
    ∃ c cs, l.render level j = c :: cs ∧ Begins c := by
  cases j with
  | null => exact ⟨'n', _, rfl, by decide, by decide⟩
  | bool b =>
      cases b with
      | true => exact ⟨'t', _, rfl, by decide, by decide⟩
      | false => exact ⟨'f', _, rfl, by decide, by decide⟩
  | number n =>
      obtain ⟨c, cs, hcs, hc⟩ := exists_numeralText n
      refine ⟨c, cs, hcs, ?_⟩
      rcases hc with rfl | hc
      · exact ⟨by decide, by decide⟩
      · exact begins_of_isDigit hc
  | string text =>
      cases text with
      | none => exact ⟨'"', _, rfl, by decide, by decide⟩
      | some s => exact ⟨'"', _, rfl, by decide, by decide⟩
  | array items =>
      cases items with
      | nil => exact ⟨'[', _, rfl, by decide, by decide⟩
      | cons j js => exact ⟨'[', _, rfl, by decide, by decide⟩
  | object members =>
      cases members with
      | nil => exact ⟨'\x7b', _, rfl, by decide, by decide⟩
      | cons m ms => exact ⟨'\x7b', _, rfl, by decide, by decide⟩

/-- In front of a value a line only makes a gap. -/
theorem skipGap_line_render (l : Layout) (level : Nat) (j : Json) (cs : List Char) :
    skipGap (l.line level ++ (l.render level j ++ cs)) = l.render level j ++ cs := by
  obtain ⟨c, ds, hds, hbegins⟩ := exists_render l level j
  rw [skipGap_append (l.isGap_line level), hds, List.cons_append, skipGap_of_not_gap hbegins.1]

/-! ### Values -/

/-- A document in a layout is read back in front of whatever may follow it, as long as the reader has a
step for each of its characters. -/
def ReadsBack (l : Layout) (j : Json) : Prop :=
  ∀ level fuel rest, Closes rest → (l.render level j).length ≤ fuel →
    read fuel (l.render level j ++ rest) = some (j, rest)

/-- Every value has a character, so the reader has a step to take. -/
theorem readsBack_of_step {j : Json}
    (h : ∀ level fuel rest, Closes rest → (l.render level j).length ≤ fuel + 1 →
      read (fuel + 1) (l.render level j ++ rest) = some (j, rest)) : ReadsBack l j := by
  intro level fuel rest hrest hfuel
  obtain ⟨c, cs, hcs, -⟩ := exists_render l level j
  cases fuel with
  | zero =>
      rw [hcs] at hfuel
      exact absurd hfuel (Nat.not_succ_le_zero _)
  | succ fuel => exact h level fuel rest hrest hfuel

theorem readsBack_null : ReadsBack l .null := readsBack_of_step fun _ _ _ _ _ => rfl

theorem readsBack_bool (b : Bool) : ReadsBack l (.bool b) := by
  refine readsBack_of_step fun level fuel rest _ _ => ?_
  cases b with
  | true => rfl
  | false => rfl

/-- A text that begins with a digit or a minus sign can only be a number. -/
theorem read_number (fuel : Nat) {c : Char} (hc : c = '-' ∨ Text.isDigit 10 c = true)
    (cs : List Char) :
    read (fuel + 1) (c :: cs) = (readNumber (c :: cs)).map fun r => (.number r.1, r.2) := by
  have hne : ∀ d : Char, d ≠ '-' → Text.isDigit 10 d = false → c ≠ d := by
    rintro d hminus hdigit rfl
    rcases hc with hc | hc
    · exact hminus hc
    · exact absurd hc (by simp [hdigit])
  rw [read.eq_def]
  dsimp only
  split
  iterate 6
    · next h => exact absurd (List.head_eq_of_cons_eq h) (hne _ (by decide) (by decide))
  · rfl

theorem readsBack_number (n : Numeral) : ReadsBack l (.number n) := by
  refine readsBack_of_step fun level fuel rest hrest _ => ?_
  obtain ⟨c, cs, hcs, hc⟩ := exists_numeralText n
  have hread := readNumber_numeralText hrest n
  rw [hcs, List.cons_append] at hread
  rw [Layout.render, hcs, List.cons_append, read_number fuel hc, hread]
  rfl

theorem readsBack_string (text : Option String) : ReadsBack l (.string text) := by
  refine readsBack_of_step fun level fuel rest _ _ => ?_
  obtain ⟨cs, hcs, hread⟩ := readText_quoted text rest
  have hstep : read (fuel + 1) ('"' :: cs)
      = (readText cs).map fun r => (.string r.1, r.2) := rfl
  rw [Layout.render, hcs, hstep, hread]
  rfl

/-! ### Items -/

/-- The items of an array are read back up to its closing bracket. -/
theorem readItems_render (above level : Nat) (rest : List Char) (js : List Json) :
    ∀ (j : Json) (fuel : Nat), (∀ x ∈ j :: js, ReadsBack l x) →
      (l.render level j).length + (l.renderItems level js).length < fuel →
      readItems fuel (l.render level j ++ (l.renderItems level js
        ++ (l.line above ++ ']' :: rest))) = some (j :: js, rest) := by
  induction js with
  | nil =>
      intro j fuel hback hfuel
      obtain ⟨fuel, rfl⟩ : ∃ k, fuel = k + 1 := ⟨fuel - 1, by omega⟩
      have hread := hback j List.mem_cons_self level fuel (l.line above ++ ']' :: rest)
        ((closes_bracket rest).append (l.isGap_line above)) (by omega)
      have hgap : skipGap (l.line above ++ ']' :: rest) = ']' :: rest := by
        rw [skipGap_append (l.isGap_line above), skipGap_of_not_gap (by decide)]
      rw [Layout.renderItems, List.nil_append, readItems, hread]
      simp only [Option.bind_eq_bind, Option.bind_some, hgap]
  | cons k js ih =>
      intro j fuel hback hfuel
      obtain ⟨fuel, rfl⟩ : ∃ k, fuel = k + 1 := ⟨fuel - 1, by omega⟩
      have htext : l.renderItems level (k :: js) ++ (l.line above ++ ']' :: rest)
          = ',' :: (l.line level ++ (l.render level k ++ (l.renderItems level js
            ++ (l.line above ++ ']' :: rest)))) := by
        simp only [Layout.renderItems, List.append_assoc, List.cons_append, List.nil_append]
      have hlength : (l.renderItems level (k :: js)).length
          = 1 + (l.line level).length + (l.render level k).length
            + (l.renderItems level js).length := by
        simp only [Layout.renderItems, List.length_append, List.length_singleton]
      have hread := hback j List.mem_cons_self level fuel _
        (closes_comma (l.line level ++ (l.render level k ++ (l.renderItems level js
            ++ (l.line above ++ ']' :: rest))))) (by omega)
      have hrest := ih k fuel (fun x hx => hback x (List.mem_cons_of_mem _ hx)) (by omega)
      rw [htext, readItems, hread]
      simp only [Option.bind_eq_bind, Option.bind_some, skipGap_of_not_gap (c := ',') rfl,
        skipGap_line_render, hrest]

/-- An array whose first item is no closing bracket. -/
theorem read_bracket (fuel : Nat) {gap cs : List Char} {c : Char} (hgap : skipGap gap = c :: cs)
    (hne : c ≠ ']') :
    read (fuel + 1) ('[' :: gap)
      = (readItems fuel (c :: cs)).map fun r => (.array r.1, r.2) := by
  rw [read.eq_def]
  simp only [hgap]
  split
  · next h => exact absurd (List.head_eq_of_cons_eq h) hne
  · rfl

theorem readsBack_array (js : List Json) (hback : ∀ j ∈ js, ReadsBack l j) :
    ReadsBack l (.array js) := by
  refine readsBack_of_step fun level fuel rest _ hfuel => ?_
  cases js with
  | nil => rfl
  | cons j js =>
      have htext : l.render level (.array (j :: js)) ++ rest
          = '[' :: (l.line (level + 1) ++ (l.render (level + 1) j ++ (l.renderItems (level + 1) js
            ++ (l.line level ++ ']' :: rest)))) := by
        simp only [Layout.render, List.append_assoc, List.cons_append, List.nil_append]
      have hlength : (l.render level (.array (j :: js))).length
          = 2 + (l.line (level + 1)).length + (l.render (level + 1) j).length
            + (l.renderItems (level + 1) js).length + (l.line level).length := by
        simp only [Layout.render, List.length_append, List.length_singleton]
        omega
      have hitems := readItems_render level (level + 1) rest js j fuel hback (by omega)
      have hgap := skipGap_line_render l (level + 1) j
        (l.renderItems (level + 1) js ++ (l.line level ++ ']' :: rest))
      obtain ⟨c, cs, hcs, hbegins⟩ := exists_render l (level + 1) j
      rw [hcs, List.cons_append] at hgap hitems
      rw [htext, hcs, List.cons_append, read_bracket fuel hgap hbegins.2, hitems]
      rfl

/-! ### Members -/

/-- A member begins with a quote, and behind its key and colon its value is found. -/
theorem exists_member (l : Layout) (level : Nat) (key : Option String) (j : Json)
    (cs : List Char) :
    ∃ ds tail, l.member level key j ++ cs = '"' :: ds ∧ readText ds = some (key, tail) ∧
      skipColon tail = some (l.render level j ++ cs) := by
  obtain ⟨ds, hds, hkey⟩ := readText_quoted key (':' :: (l.space ++ (l.render level j ++ cs)))
  obtain ⟨c, es, hes, hbegins⟩ := exists_render l level j
  have htext : l.member level key j ++ cs
      = quoted key ++ (':' :: (l.space ++ (l.render level j ++ cs))) := by
    simp only [Layout.member, List.append_assoc, List.cons_append, List.nil_append]
  have hcolon : skipColon (':' :: (l.space ++ (l.render level j ++ cs)))
      = some (skipGap (l.space ++ (l.render level j ++ cs))) := rfl
  refine ⟨ds, _, htext.trans hds, hkey, ?_⟩
  rw [hcolon, skipGap_append l.isGap_space, hes, List.cons_append, skipGap_of_not_gap hbegins.1]

/-- In front of a member a line only makes a gap. -/
theorem skipGap_line_member (l : Layout) (level : Nat) (key : Option String) (j : Json)
    (cs : List Char) :
    skipGap (l.line level ++ (l.member level key j ++ cs)) = l.member level key j ++ cs := by
  obtain ⟨ds, tail, hds, -, -⟩ := exists_member l level key j cs
  rw [skipGap_append (l.isGap_line level), hds, skipGap_of_not_gap (by decide)]

section

variable {fuel level : Nat} {j : Json} {cs rest : List Char}
  (hread : read fuel (l.render level j ++ cs) = some (j, cs)) (key : Option String)

include hread

/-- A member with the closing brace behind it. -/
theorem readMembers_last (hgap : skipGap cs = '\x7d' :: rest) :
    readMembers (fuel + 1) (l.member level key j ++ cs) = some ([(key, j)], rest) := by
  obtain ⟨ds, tail, hds, hkey, hcolon⟩ := exists_member l level key j cs
  rw [hds, readMembers, hkey]
  simp only [Option.bind_eq_bind, Option.bind_some, hcolon, hread, hgap]

/-- A member with a comma behind it. -/
theorem readMembers_more (hgap : skipGap cs = ',' :: rest) :
    readMembers (fuel + 1) (l.member level key j ++ cs)
      = (readMembers fuel (skipGap rest)).bind fun r => some ((key, j) :: r.1, r.2) := by
  obtain ⟨ds, tail, hds, hkey, hcolon⟩ := exists_member l level key j cs
  rw [hds, readMembers, hkey]
  simp only [Option.bind_eq_bind, Option.bind_some, hcolon, hread, hgap]

end

/-- The members of an object are read back up to its closing brace. -/
theorem readMembers_render (above level : Nat) (rest : List Char)
    (ms : List (Option String × Json)) :
    ∀ (key : Option String) (j : Json) (fuel : Nat), ReadsBack l j → (∀ m ∈ ms, ReadsBack l m.2) →
      (l.render level j).length + (l.renderMembers level ms).length < fuel →
      readMembers fuel (l.member level key j ++ (l.renderMembers level ms
        ++ (l.line above ++ '\x7d' :: rest))) = some ((key, j) :: ms, rest) := by
  induction ms with
  | nil =>
      intro key j fuel hj hback hfuel
      obtain ⟨fuel, rfl⟩ : ∃ k, fuel = k + 1 := ⟨fuel - 1, by omega⟩
      have hread := hj level fuel (l.line above ++ '\x7d' :: rest)
        ((closes_brace rest).append (l.isGap_line above)) (by omega)
      have hgap : skipGap (l.line above ++ '\x7d' :: rest) = '\x7d' :: rest := by
        rw [skipGap_append (l.isGap_line above), skipGap_of_not_gap (by decide)]
      rw [Layout.renderMembers, List.nil_append, readMembers_last hread key hgap]
  | cons m ms ih =>
      obtain ⟨nextKey, k⟩ := m
      intro key j fuel hj hback hfuel
      obtain ⟨fuel, rfl⟩ : ∃ k, fuel = k + 1 := ⟨fuel - 1, by omega⟩
      have htext : l.renderMembers level ((nextKey, k) :: ms)
            ++ (l.line above ++ '\x7d' :: rest)
          = ',' :: (l.line level ++ (l.member level nextKey k ++ (l.renderMembers level ms
            ++ (l.line above ++ '\x7d' :: rest)))) := by
        simp only [Layout.renderMembers, Layout.member, List.append_assoc, List.cons_append,
          List.nil_append]
      have hlength : (l.renderMembers level ((nextKey, k) :: ms)).length
          = 2 + (l.line level).length + (quoted nextKey).length + l.space.length
            + (l.render level k).length + (l.renderMembers level ms).length := by
        simp only [Layout.renderMembers, List.length_append, List.length_singleton]
        omega
      have hread := hj level fuel _
        (closes_comma (l.line level ++ (l.member level nextKey k ++ (l.renderMembers level ms
          ++ (l.line above ++ '\x7d' :: rest))))) (by omega)
      have hrest := ih nextKey k fuel (hback (nextKey, k) List.mem_cons_self)
        (fun m hm => hback m (List.mem_cons_of_mem _ hm)) (by omega)
      rw [htext, readMembers_more hread key (skipGap_of_not_gap (by decide) _),
        skipGap_line_member, hrest, Option.bind_some]

/-- An object whose first member is no closing brace. -/
theorem read_brace (fuel : Nat) {gap cs : List Char} {c : Char} (hgap : skipGap gap = c :: cs)
    (hne : c ≠ '\x7d') :
    read (fuel + 1) ('\x7b' :: gap)
      = (readMembers fuel (c :: cs)).map fun r => (.object r.1, r.2) := by
  rw [read.eq_def]
  simp only [hgap]
  split
  · next h => exact absurd (List.head_eq_of_cons_eq h) hne
  · rfl

theorem readsBack_object (ms : List (Option String × Json)) (hback : ∀ m ∈ ms, ReadsBack l m.2) :
    ReadsBack l (.object ms) := by
  refine readsBack_of_step fun level fuel rest _ hfuel => ?_
  cases ms with
  | nil => rfl
  | cons m ms =>
      obtain ⟨key, j⟩ := m
      have htext : l.render level (.object ((key, j) :: ms)) ++ rest
          = '\x7b' :: (l.line (level + 1) ++ (l.member (level + 1) key j
            ++ (l.renderMembers (level + 1) ms ++ (l.line level ++ '\x7d' :: rest)))) := by
        simp only [Layout.render, Layout.member, List.append_assoc, List.cons_append,
          List.nil_append]
      have hlength : (l.render level (.object ((key, j) :: ms))).length
          = 3 + (l.line (level + 1)).length + (quoted key).length + l.space.length
            + (l.render (level + 1) j).length + (l.renderMembers (level + 1) ms).length
            + (l.line level).length := by
        simp only [Layout.render, List.length_append, List.length_singleton]
        omega
      have hmembers := readMembers_render level (level + 1) rest ms key j fuel
        (hback (key, j) List.mem_cons_self) (fun m hm => hback m (List.mem_cons_of_mem _ hm))
        (by omega)
      have hgap := skipGap_line_member l (level + 1) key j
        (l.renderMembers (level + 1) ms ++ (l.line level ++ '\x7d' :: rest))
      obtain ⟨ds, tail, hds, -, -⟩ := exists_member l (level + 1) key j
        (l.renderMembers (level + 1) ms ++ (l.line level ++ '\x7d' :: rest))
      rw [hds] at hgap hmembers
      rw [htext, hds, read_brace fuel hgap (by decide), hmembers]
      rfl

/-! ### Documents -/

/-- Every document is read back: the parts of an array or object are read back before it is. -/
theorem readsBack (l : Layout) : ∀ j : Json, ReadsBack l j
  | .null => readsBack_null
  | .bool b => readsBack_bool b
  | .number n => readsBack_number n
  | .string text => readsBack_string text
  | .array js => readsBack_array js fun j _ => readsBack l j
  | .object ms => readsBack_object ms fun (key, j) hm => by
      have hlt : sizeOf j < sizeOf ms := by
        have hmember := List.sizeOf_lt_of_mem hm
        rw [Prod.mk.sizeOf_spec] at hmember
        omega
      exact readsBack l j

/-- **The text of a document in any layout is read as that document.** -/
theorem parse_write (l : Layout) (j : Json) : parse (l.write j) = some j := by
  obtain ⟨c, cs, hcs, hbegins⟩ := exists_render l 0 j
  have hgap : skipGap (l.render 0 j) = l.render 0 j := by
    rw [hcs, skipGap_of_not_gap hbegins.1]
  have hread := readsBack l j 0 (2 * (l.render 0 j).length + 1) [] closes_nil (by omega)
  rw [List.append_nil] at hread
  rw [parse, Layout.write, String.toList_ofList, parseChars, hgap, hread]
  rfl

/-- **The text of a document over several lines is read as that document.** -/
theorem parse_indented (j : Json) : parse j.indented = some j := by
  rw [← Layout.write_indented, parse_write]

end HostRouting.Json
