/-
**Texts and numbers read back.**

A text is written character by character, and each character is read as one piece whatever follows
it: as itself, from an escape with a letter, or from the code unit of a control character.  The one
text that is no string is written as half of a surrogate pair and read as no string again.  A number
is read up to where its digits end, so it can be read back if nothing follows that would go on with
it; in a document there is a comma, a closing bracket or a gap behind it, or nothing.

Main definitions:

* `Json.Closes` — what may follow a value.

Main results:

* `Json.readText_quoted` — **what is written as a text is read as that text**;
* `Json.readNumber_numeralText` — **what is written as a number is read as that number**.
-/

import HostRouting.Json.Printer
import HostRouting.Json.Reader
import HostRouting.Proofs.Text.Decimal

set_option autoImplicit false

namespace HostRouting.Json

/-! ### Escapes -/

theorem number?_replicate_zero_append (count : Nat) (ds : List Char) :
    Text.number? 16 (List.replicate count '0' ++ ds) = Text.number? 16 ds := by
  induction count with
  | zero => rfl
  | succ count ih =>
      rw [List.replicate_succ, List.cons_append]
      exact ih

/-- The escape of a code unit has four digits, which are read as that unit. -/
theorem exists_codeEscape {n : Nat} (h : n < 0x10000) :
    ∃ a b c d, codeEscape n = ['\\', 'u', a, b, c, d] ∧
      Text.number? 16 [a, b, c, d] = some n := by
  have hlength : (Text.hex n).length ≤ 4 := by
    rw [Text.hex, Nat.length_toDigits_le_iff (by decide) (by decide)]
    exact h
  have hread : Text.number? 16 (List.replicate (4 - (Text.hex n).length) '0' ++ Text.hex n)
      = some n := by
    rw [number?_replicate_zero_append]
    exact Text.number?_toDigits (by decide) (by decide) n
  have hescape : codeEscape n
      = '\\' :: 'u' :: (List.replicate (4 - (Text.hex n).length) '0' ++ Text.hex n) := rfl
  have hfour : (List.replicate (4 - (Text.hex n).length) '0' ++ Text.hex n).length = 4 := by
    rw [List.length_append, List.length_replicate]
    omega
  rw [hescape]
  generalize List.replicate (4 - (Text.hex n).length) '0' ++ Text.hex n = ds at hread hfour
  obtain ⟨a, b, c, d, rfl⟩ : ∃ a b c d, ds = [a, b, c, d] := by
    match ds, hfour with
    | [a, b, c, d], _ => exact ⟨a, b, c, d, rfl⟩
  exact ⟨a, b, c, d, rfl, hread⟩

theorem units_codeEscape {n : Nat} (h : n < 0x10000) (rest : List Char) :
    units (codeEscape n ++ rest) = (units rest).map fun r => (.code n :: r.1, r.2) := by
  obtain ⟨a, b, c, d, hescape, hread⟩ := exists_codeEscape h
  rw [hescape]
  have hstep : units ('\\' :: 'u' :: a :: b :: c :: d :: rest)
      = (Text.number? 16 [a, b, c, d]).bind fun n =>
          (units rest).bind fun r => some (.code n :: r.1, r.2) := rfl
  refine hstep.trans ?_
  rw [hread, Option.bind_some]
  cases units rest <;> rfl

/-- A character that stands for itself. -/
theorem units_plain {c : Char} (hquote : c ≠ '"') (hback : c ≠ '\\') (hlow : ¬c.toNat < 0x20)
    (rest : List Char) :
    units (c :: rest) = (units rest).map fun r => (.char c :: r.1, r.2) := by
  rw [units.eq_def]
  split
  · next h => cases h
  · next h => exact absurd (List.head_eq_of_cons_eq h) hquote
  · next h => exact absurd (List.head_eq_of_cons_eq h) hback
  · next h => exact absurd (List.head_eq_of_cons_eq h) hback
  · next h =>
      obtain ⟨rfl, rfl⟩ := List.cons_eq_cons.1 h
      rw [if_neg (by simp [hback, hlow])]
      cases units rest <;> rfl

/-- An escape with a letter. -/
theorem units_letter {e c : Char} (hne : e ≠ 'u') (h : escape? e = some c) (rest : List Char) :
    units ('\\' :: e :: rest) = (units rest).map fun r => (.char c :: r.1, r.2) := by
  rw [units.eq_def]
  split
  · next heq => cases heq
  · next heq => exact absurd (List.head_eq_of_cons_eq heq) (by decide)
  · next heq =>
      exact absurd (List.head_eq_of_cons_eq (List.tail_eq_of_cons_eq heq)) hne
  · next heq =>
      obtain ⟨rfl, rfl⟩ := List.cons_eq_cons.1 (List.tail_eq_of_cons_eq heq)
      rw [h]
      cases units rest <;> rfl
  · next hno heq =>
      obtain ⟨rfl, rfl⟩ := List.cons_eq_cons.1 heq
      exact (hno e rest rfl rfl).elim

/-- **A character is written so that it is read as one piece**, whatever follows, and the piece
stands for that character. -/
theorem exists_piece (c : Char) :
    ∃ u : Piece, (∀ rest, units (escaped c ++ rest)
        = (units rest).map fun r => (u :: r.1, r.2)) ∧
      ∀ us, ofPieces (u :: us) = (ofPieces us).map (c :: ·) := by
  unfold escaped
  split
  · next h => exact ⟨.char '"', units_letter (by decide) rfl, fun us => h ▸ rfl⟩
  split
  · next h => exact ⟨.char '\\', units_letter (by decide) rfl, fun us => h ▸ rfl⟩
  split
  · next h => exact ⟨.char '\x08', units_letter (by decide) rfl, fun us => h ▸ rfl⟩
  split
  · next h => exact ⟨.char '\x0C', units_letter (by decide) rfl, fun us => h ▸ rfl⟩
  split
  · next h => exact ⟨.char '\n', units_letter (by decide) rfl, fun us => h ▸ rfl⟩
  split
  · next h => exact ⟨.char '\r', units_letter (by decide) rfl, fun us => h ▸ rfl⟩
  split
  · next h => exact ⟨.char '\t', units_letter (by decide) rfl, fun us => h ▸ rfl⟩
  split
  · next hlow =>
      refine ⟨.code c.toNat, units_codeEscape (by omega), ?_⟩
      intro us
      -- a control character is no half of a pair
      have hnoLow : isLowHalf c.toNat = false := by
        simp only [isLowHalf, Bool.and_eq_false_iff, decide_eq_false_iff_not]
        omega
      have hnoHigh : isHighHalf c.toNat = false := by
        simp only [isHighHalf, Bool.and_eq_false_iff, decide_eq_false_iff_not]
        omega
      rw [ofPieces.eq_def]
      simp only [hnoLow, hnoHigh, Bool.false_eq_true, ↓reduceIte, Char.ofNat_toNat]
  · next hquote hback _ _ _ _ _ hlow =>
      exact ⟨.char c, units_plain hquote hback hlow, fun us => rfl⟩

/-! ### Texts -/

theorem exists_pieces (cs : List Char) :
    ∃ us : List Piece, (∀ rest, units (cs.flatMap escaped ++ '"' :: rest) = some (us, rest)) ∧
      ofPieces us = some cs := by
  induction cs with
  | nil => exact ⟨[], fun rest => rfl, rfl⟩
  | cons c cs ih =>
      obtain ⟨u, hunits, hpiece⟩ := exists_piece c
      obtain ⟨us, hrest, hpieces⟩ := ih
      refine ⟨u :: us, ?_, ?_⟩
      · intro rest
        rw [List.flatMap_cons, List.append_assoc, hunits, hrest]
        rfl
      · rw [hpiece, hpieces]
        rfl

/-- **What is written as a text is read as that text**, a string or not. -/
theorem readText_quoted (text : Option String) (rest : List Char) :
    ∃ cs, quoted text ++ rest = '"' :: cs ∧ readText cs = some (text, rest) := by
  cases text with
  | none =>
      refine ⟨codeEscape 0xD800 ++ '"' :: rest, by simp [quoted], ?_⟩
      rw [readText, units_codeEscape (by decide)]
      rfl
  | some s =>
      obtain ⟨us, hunits, hpieces⟩ := exists_pieces s.toList
      refine ⟨s.toList.flatMap escaped ++ '"' :: rest, by simp [quoted], ?_⟩
      rw [readText, hunits]
      simp only [Option.map_some, hpieces, String.ofList_toList]

/-! ### Digits -/

/-- What may follow a value in a document: a comma, a closing bracket, a gap, or nothing. -/
def Closes (rest : List Char) : Prop :=
  ∀ c, rest.head? = some c → c = ',' ∨ c = ']' ∨ c = '\x7d' ∨ isGap c = true

theorem closes_nil : Closes [] := by
  intro c hc
  cases hc

theorem closes_comma (rest : List Char) : Closes (',' :: rest) := by
  intro c hc
  exact .inl (Option.some.inj hc).symm

theorem closes_bracket (rest : List Char) : Closes (']' :: rest) := by
  intro c hc
  exact .inr (.inl (Option.some.inj hc).symm)

theorem closes_brace (rest : List Char) : Closes ('\x7d' :: rest) := by
  intro c hc
  exact .inr (.inr (.inl (Option.some.inj hc).symm))

/-- A gap may be put in front of what closes a value. -/
theorem Closes.append {gap rest : List Char} (hgap : ∀ c ∈ gap, isGap c = true)
    (h : Closes rest) : Closes (gap ++ rest) := by
  cases gap with
  | nil => exact h
  | cons d gap =>
      intro c hc
      obtain rfl : d = c := Option.some.inj hc
      exact .inr (.inr (.inr (hgap d List.mem_cons_self)))

theorem not_closes_of_head? {rest : List Char} {c : Char} (hc : rest.head? = some c)
    (hmark : c ≠ ',' ∧ c ≠ ']' ∧ c ≠ '\x7d') (hgap : isGap c = false) : ¬Closes rest := by
  intro h
  rcases h c hc with h | h | h | h
  · exact hmark.1 h
  · exact hmark.2.1 h
  · exact hmark.2.2 h
  · rw [hgap] at h
    cases h

theorem Closes.isDigit {rest : List Char} (h : Closes rest) (c : Char)
    (hc : rest.head? = some c) : Text.isDigit 10 c = false := by
  rcases h c hc with rfl | rfl | rfl | hgap
  · decide
  · decide
  · decide
  · simp only [isGap, Bool.or_eq_true, beq_iff_eq] at hgap
    rcases hgap with ((rfl | rfl) | rfl) | rfl
    all_goals decide

/-- The digits of a number begin with a digit. -/
theorem exists_decimal (n : Nat) :
    ∃ c cs, Text.decimal n = c :: cs ∧ Text.isDigit 10 c = true := by
  cases hds : Text.decimal n with
  | nil => exact absurd hds Nat.toDigits_ne_nil
  | cons c cs =>
      refine ⟨c, cs, rfl, Text.isDigit_of_mem_toDigits (by decide) (by decide) (n := n) ?_⟩
      have hmem : c ∈ Text.decimal n := hds ▸ List.mem_cons_self
      exact hmem

theorem digitsValue_decimal (n : Nat) : digitsValue (Text.decimal n) = n := by
  have hread : Text.number? 10 (Text.decimal n) = some n :=
    Text.number?_toDigits (by decide) (by decide) n
  rw [digitsValue, hread]
  rfl

section

variable {rest : List Char} (hrest : ∀ c, rest.head? = some c → Text.isDigit 10 c = false)

include hrest

theorem digits_decimal_append (n : Nat) :
    digits (Text.decimal n ++ rest) = some (Text.decimal n, rest) := by
  have hall : ∀ c ∈ Text.decimal n, Text.isDigit 10 c = true :=
    fun c hc => Text.isDigit_of_mem_toDigits (by decide) (by decide) hc
  have hne : (Text.decimal n).isEmpty = false := List.isEmpty_eq_false_iff.2 Nat.toDigits_ne_nil
  rw [digits, Text.takeWhile_isDigit_append hall hrest, Text.dropWhile_isDigit_append hall hrest]
  simp only [hne, Bool.false_eq_true, ↓reduceIte]

/-- Only the number 0 begins with a zero, so its digits end there. -/
theorem wholeDigits_decimal_append (n : Nat) :
    wholeDigits (Text.decimal n ++ rest) = some (Text.decimal n, rest) := by
  unfold wholeDigits
  split
  · next tail h =>
      obtain ⟨c, cs, hcs, -⟩ := exists_decimal n
      rw [hcs] at h
      have hzero : n = 0 := by
        have hhead : (Nat.toDigits 10 n).head? = some '0' := by
          rw [← Text.decimal, hcs, ← List.head_eq_of_cons_eq h]
          rfl
        exact Text.eq_zero_of_head?_toDigits (by decide) n hhead
      subst hzero
      obtain ⟨rfl, rfl⟩ := List.cons_eq_cons.1 hcs
      rw [← List.tail_eq_of_cons_eq h]
      rfl
  · exact digits_decimal_append hrest n

theorem exponentAfterMark_integerText_append (n : Int) :
    exponentAfterMark (integerText n ++ rest) = some (n, rest) := by
  rw [integerText]
  split
  · next hneg =>
      have hdigits := digits_decimal_append hrest n.natAbs
      have hstep : exponentAfterMark ('-' :: (Text.decimal n.natAbs ++ rest))
          = (digits (Text.decimal n.natAbs ++ rest)).map fun r =>
              (-(digitsValue r.1 : Int), r.2) := rfl
      rw [List.cons_append, hstep, hdigits, Option.map_some, digitsValue_decimal]
      congr 2
      omega
  · next hpos =>
      have hdigits := digits_decimal_append hrest n.natAbs
      obtain ⟨c, cs, hcs, hc⟩ := exists_decimal n.natAbs
      rw [exponentAfterMark.eq_def]
      split
      · next h =>
          rw [hcs] at h
          rw [List.head_eq_of_cons_eq h] at hc
          exact absurd hc (by decide)
      · next h =>
          rw [hcs] at h
          rw [List.head_eq_of_cons_eq h] at hc
          exact absurd hc (by decide)
      · rw [hdigits]
        simp only [Option.map_some, digitsValue_decimal]
        congr 2
        omega

end

/-! ### Numbers -/

section

variable {rest : List Char} (h : Closes rest)

include h

theorem fractionDigits_of_closes : fractionDigits rest = some ([], rest) := by
  unfold fractionDigits
  split
  · exact absurd h (not_closes_of_head? rfl (by decide) (by decide))
  · rfl

theorem exponent_of_closes : exponent rest = some (none, rest) := by
  unfold exponent
  split
  · exact absurd h (not_closes_of_head? rfl (by decide) (by decide))
  · exact absurd h (not_closes_of_head? rfl (by decide) (by decide))
  · rfl

/-- A number without fraction and exponent. -/
theorem readUnsigned_decimal_append (negative : Bool) (n : Nat) :
    readUnsigned negative (Text.decimal n ++ rest)
      = some (numeral negative (Text.decimal n) [] none, rest) := by
  rw [readUnsigned, wholeDigits_decimal_append h.isDigit]
  simp only [Option.bind_eq_bind, Option.bind_some, fractionDigits_of_closes h,
    exponent_of_closes h]

/-- A number with an exponent. -/
theorem readUnsigned_exponent_append (negative : Bool) (significand : Nat) (e : Int) :
    readUnsigned negative (Text.decimal significand ++ ('e' :: (integerText e ++ rest)))
      = some (numeral negative (Text.decimal significand) [] (some e), rest) := by
  have hmark : ∀ c, ('e' :: (integerText e ++ rest)).head? = some c → Text.isDigit 10 c = false := by
    intro c hc
    rw [← Option.some.inj hc]
    decide
  have hfraction : fractionDigits ('e' :: (integerText e ++ rest))
      = some ([], 'e' :: (integerText e ++ rest)) := rfl
  have hexponent : exponent ('e' :: (integerText e ++ rest)) = some (some e, rest) := by
    have hstep : exponent ('e' :: (integerText e ++ rest))
        = (exponentAfterMark (integerText e ++ rest)).map fun r => (some r.1, r.2) := rfl
    rw [hstep, exponentAfterMark_integerText_append h.isDigit]
    rfl
  rw [readUnsigned, wholeDigits_decimal_append hmark]
  simp only [Option.bind_eq_bind, Option.bind_some, hfraction, hexponent]

end

theorem numeral_decimal_none (negative : Bool) (n : Nat) (h : ¬(negative = true ∧ n = 0)) :
    numeral negative (Text.decimal n) [] none = .integer (if negative then -(n : Int) else n) := by
  rw [numeral, List.append_nil, digitsValue_decimal]
  exact if_pos ⟨rfl, rfl, h⟩

theorem numeral_decimal_some (negative : Bool) (n : Nat) (e : Int) :
    numeral negative (Text.decimal n) [] (some e) = .decimal negative n e := by
  rw [numeral, List.append_nil, digitsValue_decimal]
  simp

/-- A number that does not begin with a sign. -/
theorem readNumber_decimal_append (n : Nat) (rest : List Char) :
    readNumber (Text.decimal n ++ rest) = readUnsigned false (Text.decimal n ++ rest) := by
  obtain ⟨c, cs, hcs, hc⟩ := exists_decimal n
  rw [hcs, List.cons_append]
  unfold readNumber
  split
  · next heq =>
      rw [List.head_eq_of_cons_eq heq] at hc
      exact absurd hc (by decide)
  · rfl

/-- **What is written as a number is read as that number.** -/
theorem readNumber_numeralText {rest : List Char} (h : Closes rest) (n : Numeral) :
    readNumber (numeralText n ++ rest) = some (n, rest) := by
  cases n with
  | integer n =>
      rw [numeralText, integerText]
      split
      · next hneg =>
          have hminus : readNumber ('-' :: (Text.decimal n.natAbs ++ rest))
              = readUnsigned true (Text.decimal n.natAbs ++ rest) := rfl
          rw [List.cons_append, hminus, readUnsigned_decimal_append h,
            numeral_decimal_none true _ (by omega)]
          congr 3
          simp only [↓reduceIte]
          omega
      · next hpos =>
          rw [readNumber_decimal_append, readUnsigned_decimal_append h,
            numeral_decimal_none false _ (by simp)]
          congr 3
          simp only [Bool.false_eq_true, ↓reduceIte]
          omega
  | decimal negative significand e =>
      have htext : numeralText (.decimal negative significand e) ++ rest
          = (if negative then ['-'] else [])
            ++ (Text.decimal significand ++ ('e' :: (integerText e ++ rest))) := by
        simp [numeralText]
      rw [htext]
      cases negative with
      | true =>
          have hminus : readNumber ('-' :: (Text.decimal significand ++
                ('e' :: (integerText e ++ rest))))
              = readUnsigned true (Text.decimal significand ++ ('e' :: (integerText e ++ rest))) := rfl
          exact hminus.trans ((readUnsigned_exponent_append h true significand e).trans
            (by rw [numeral_decimal_some]))
      | false =>
          simp only [Bool.false_eq_true, ↓reduceIte, List.nil_append]
          rw [readNumber_decimal_append, readUnsigned_exponent_append h, numeral_decimal_some]

end HostRouting.Json
