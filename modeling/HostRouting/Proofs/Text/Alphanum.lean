/-
**Letters and digits.**

Letters and digits of ASCII are printable, and they are none of the characters that mean something
in a format; which of these they differ from is settled by listing them.

Main results:

* `Text.toNat_of_isAlphanum` — letters and digits are printable;
* `Text.not_mem_of_isAlphanum` — they differ from listed characters of other kinds.
-/

set_option autoImplicit false

namespace HostRouting.Text

variable {c : Char} (h : c.isAlphanum = true)

include h

theorem toNat_of_isAlphanum : 0x20 ≤ c.toNat ∧ c.toNat ≤ 0x7E := by
  have hranges : ((decide (65 ≤ c.val ∧ c.val ≤ 90) || (97 ≤ c.val && c.val ≤ 122))
      || (48 ≤ c.val && c.val ≤ 57)) = true := h
  simp only [Bool.or_eq_true, Bool.and_eq_true, decide_eq_true_eq,
    UInt32.le_iff_toNat_le] at hranges
  change (((65 ≤ c.toNat ∧ c.toNat ≤ 90) ∨ (97 ≤ c.toNat ∧ c.toNat ≤ 122)) ∨
    (48 ≤ c.toNat ∧ c.toNat ≤ 57)) at hranges
  omega

theorem ne_of_isAlphanum {d : Char} (hd : d.isAlphanum = false) : c ≠ d := by
  rintro rfl
  rw [h] at hd
  cases hd

theorem not_mem_of_isAlphanum {l : List Char} (hl : l.any Char.isAlphanum = false) : c ∉ l :=
  fun hmem => List.any_eq_false.1 hl c hmem h

end HostRouting.Text
