/-
**Numbers in text.**

Main definitions:

* `Text.decimal` — the decimal digits of a number, without leading zeros;
* `Text.hex` — its hexadecimal digits, small letters, without leading zeros;
* `Text.digitValue?` — the value of a digit in a base up to sixteen;
* `Text.number?` — the number that a text of digits stands for.
-/

set_option autoImplicit false

namespace HostRouting.Text

/-- The decimal digits of a number. -/
def decimal (n : Nat) : List Char := Nat.toDigits 10 n

/-- The hexadecimal digits of a number, in small letters. -/
def hex (n : Nat) : List Char := Nat.toDigits 16 n

/-- The value of a digit of the given base, in either letter case. -/
def digitValue? (base : Nat) (c : Char) : Option Nat :=
  let v :=
    if '0' ≤ c ∧ c ≤ '9' then some (c.toNat - 0x30)
    else if 'a' ≤ c ∧ c ≤ 'f' then some (c.toNat - 0x61 + 10)
    else if 'A' ≤ c ∧ c ≤ 'F' then some (c.toNat - 0x41 + 10)
    else none
  v.filter (· < base)

/-- Whether `c` is a digit of the given base. -/
def isDigit (base : Nat) (c : Char) : Bool := (digitValue? base c).isSome

/-- The number that digits stand for, read after `sum`; `none` if one of them is no digit. -/
def numberFrom? (base sum : Nat) : List Char → Option Nat
  | [] => some sum
  | c :: cs => (digitValue? base c).bind fun d => numberFrom? base (sum * base + d) cs

/-- The number that a text of digits stands for; no digits stand for 0. -/
def number? (base : Nat) (cs : List Char) : Option Nat := numberFrom? base 0 cs

@[simp] theorem number?_nil (base : Nat) : number? base [] = some 0 := rfl

end HostRouting.Text
