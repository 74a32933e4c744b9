/-
**Digits read back.**

The digits of a number are read as that number, in every base that has digits.  Where digits are
followed by something else, the reader has to know where they end; it does if what follows is no
digit.

Main results:

* `Text.number?_toDigits` — **the digits of a number are read as that number**;
* `Text.isDigit_of_mem_toDigits` — they are digits;
* `Text.eq_zero_of_head?_toDigits` — only the number 0 is written with a zero in front;
* `Text.takeWhile_isDigit_append`, `Text.dropWhile_isDigit_append` — digits end where something else
  follows.
-/

import HostRouting.Text.Decimal

set_option autoImplicit false

namespace HostRouting.Text

/-! ### Single digits -/

theorem digitValue?_digitChar {base d : Nat} (hd : d < base) (hbase : base ≤ 16) :
    digitValue? base d.digitChar = some d := by
  have hall : ∀ base ≤ 16, ∀ d < base, digitValue? base d.digitChar = some d := by decide
  exact hall base hbase d hd

theorem lt_of_digitValue? {base d : Nat} {c : Char} (h : digitValue? base c = some d) : d < base :=
  of_decide_eq_true (Option.filter_eq_some_iff.1 h).2

theorem numberFrom?_append (base : Nat) (cs ds : List Char) (sum : Nat) :
    numberFrom? base sum (cs ++ ds)
      = (numberFrom? base sum cs).bind fun sum => numberFrom? base sum ds := by
  induction cs generalizing sum with
  | nil => rfl
  | cons c cs ih =>
      rw [List.cons_append, numberFrom?, numberFrom?]
      cases digitValue? base c with
      | none => rfl
      | some d =>
          simp only [Option.bind_some]
          exact ih (sum * base + d)

/-- What is read as a number consists of digits. -/
theorem isDigit_of_numberFrom? {base : Nat} {cs : List Char} {sum n : Nat}
    (h : numberFrom? base sum cs = some n) : ∀ c ∈ cs, isDigit base c = true := by
  induction cs generalizing sum with
  | nil =>
      intro c hc
      cases hc
  | cons c cs ih =>
      rw [numberFrom?, Option.bind_eq_some_iff] at h
      obtain ⟨d, hd, hrest⟩ := h
      refine List.forall_mem_cons.2 ⟨?_, ih hrest⟩
      rw [isDigit, hd]
      rfl

/-! ### Digits of a number -/

section

variable {base : Nat} (hlow : 1 < base) (hhigh : base ≤ 16)

include hlow hhigh

/-- **The digits of a number are read as that number.** -/
theorem number?_toDigits (n : Nat) : number? base (Nat.toDigits base n) = some n := by
  induction n using Nat.strongRecOn with
  | ind n ih =>
      by_cases hn : n < base
      · rw [Nat.toDigits_of_lt_base hn, number?, numberFrom?, digitValue?_digitChar hn hhigh]
        simp [numberFrom?]
      · have hle : base ≤ n := Nat.not_lt.1 hn
        have hdigit : n % base < base := Nat.mod_lt n (by omega)
        have hfront := ih (n / base) (Nat.div_lt_self (by omega) hlow)
        rw [number?] at hfront
        rw [Nat.toDigits_of_base_le hlow hle, number?, numberFrom?_append, hfront,
          Option.bind_some, numberFrom?, digitValue?_digitChar hdigit hhigh]
        simp [numberFrom?, Nat.div_add_mod']

theorem isDigit_of_mem_toDigits {n : Nat} {c : Char} (hc : c ∈ Nat.toDigits base n) :
    isDigit base c = true :=
  isDigit_of_numberFrom? (number?_toDigits hlow hhigh n) c hc

omit hhigh in
/-- Only the number 0 is written with a zero in front. -/
theorem eq_zero_of_head?_toDigits (n : Nat) (h : (Nat.toDigits base n).head? = some '0') :
    n = 0 := by
  induction n using Nat.strongRecOn with
  | ind n ih =>
      by_cases hn : n < base
      · rw [Nat.toDigits_of_lt_base hn] at h
        exact Nat.digitChar_eq_zero.1 (Option.some.inj h)
      · have hle : base ≤ n := Nat.not_lt.1 hn
        -- the first digit is the one of a quotient, which is not 0
        have hfront : (Nat.toDigits base (n / base)).head? = some '0' := by
          rw [Nat.toDigits_of_base_le hlow hle, List.head?_append] at h
          cases hds : Nat.toDigits base (n / base) with
          | nil => exact absurd hds Nat.toDigits_ne_nil
          | cons d ds =>
              rw [hds] at h
              exact h
        have hzero := ih (n / base) (Nat.div_lt_self (by omega) hlow) hfront
        exact absurd ((Nat.div_eq_zero_iff_lt (by omega)).1 hzero) hn

end

/-! ### Where digits end -/

section

variable {base : Nat} {ds rest : List Char} (hds : ∀ c ∈ ds, isDigit base c = true)
  (hrest : ∀ c, rest.head? = some c → isDigit base c = false)

include hds hrest

/-- Digits end where something else follows. -/
theorem takeWhile_isDigit_append : (ds ++ rest).takeWhile (isDigit base) = ds := by
  rw [List.takeWhile_append_of_pos hds]
  cases rest with
  | nil => simp
  | cons c rest => simp [hrest c rfl]

theorem dropWhile_isDigit_append : (ds ++ rest).dropWhile (isDigit base) = rest := by
  rw [List.dropWhile_append_of_pos hds]
  cases rest with
  | nil => rfl
  | cons c rest => simp [hrest c rfl]

end

end HostRouting.Text
