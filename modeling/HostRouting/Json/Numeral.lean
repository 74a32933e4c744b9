/-
**Numbers of documents.**

A document writes a number in decimals, of any length.  Where it is held as data it has to be an
integer of 64 bits or a binary floating-point number of 64 bits, and the latter is not found exactly:
only as many leading digits are used as fit 64 bits, the integer that they make is rounded to a
floating-point number, and this is multiplied with, or divided by, a power of ten that is rounded as
well.  A number is refused if the product is too large.  Near the greatest floating-point number the
roundings decide about that: a number below the limit may be refused, and one above it taken.

Main definitions:

* `Json.Numeral` — a number as a document writes it;
* `Json.leading` — the leading digits of a number that fit 64 bits;
* `Json.rounded` — a number rounded to the precision of a floating-point number;
* `Json.Numeral.isFinite` — whether a number can be held as data.
-/

import HostRouting.Text.Decimal

set_option autoImplicit false

namespace HostRouting.Json

/-- A number as a document writes it. -/
inductive Numeral where
  /-- An integer, written without fraction and exponent. -/
  | integer (n : Int)
  /-- A signed multiple of a power of ten; minus zero is one, too. -/
  | decimal (negative : Bool) (significand : Nat) (exponent : Int)
  deriving DecidableEq, Repr

/-! ### Leading digits -/

/-- The least integer that does not fit 64 bits. -/
def wordLimit : Nat := Nat.pow 2 64

/-- The leading digits of a number as an integer, and how many digits are left out behind them. -/
structure Leading where
  value : Nat
  omitted : Nat
  deriving DecidableEq, Repr

/-- One digit more: it is used if none is left out so far and the integer still fits 64 bits. -/
def Leading.push (l : Leading) (d : Nat) : Leading :=
  if l.omitted = 0 ∧ l.value * 10 + d < wordLimit then ⟨l.value * 10 + d, 0⟩
  else ⟨l.value, l.omitted + 1⟩

/-- The decimal digits of a number. -/
def digitValues (n : Nat) : List Nat := (Text.decimal n).filterMap (Text.digitValue? 10)

/-- The leading digits of a number that fit 64 bits. -/
def leading (n : Nat) : Leading := (digitValues n).foldl Leading.push ⟨0, 0⟩

/-! ### Rounding -/

/-- A number rounded to 53 binary places, to the even one of two multiples of the unit in the last
place that are equally near. -/
def rounded (n : Nat) : Nat :=
  let unit := Nat.pow 2 (n.log2 - 52)
  let below := n / unit
  -- up if more than half a unit is left, or half a unit above an odd multiple
  if unit < 2 * (n % unit) + below % 2 then (below + 1) * unit else below * unit

/-- The least magnitude that is too large for a binary floating-point number of 64 bits: half a
unit in the last place above the greatest such number. -/
def magnitudeLimit : Nat := Nat.pow 2 1024 - Nat.pow 2 970

/-- The exponent of the greatest power of ten that is a floating-point number. -/
def greatestPower : Nat := 308

/-- Whether a multiple of a power of ten comes to a floating-point number.  Division makes no number
too large, and neither does a significand of zero. -/
def comesToFinite (significand : Nat) (exponent : Int) : Bool :=
  -- Digits behind a point may still be used when some in front of it are left out.  The used ones
  -- are then 1844674407370955161 and one more, far from the limit whatever the exponent is.
  let used := leading significand
  let power := exponent + used.omitted
  used.value == 0 || power < 0 || (power ≤ greatestPower &&
    rounded used.value * rounded (Nat.pow 10 power.toNat) < magnitudeLimit)

/-- Whether a number can be held as data.  Its digits are taken to be less than two billion, so that
they can be counted in 32 bits. -/
def Numeral.isFinite : Numeral → Bool
  | .integer n => comesToFinite n.natAbs 0
  | .decimal _ significand exponent => comesToFinite significand exponent

end HostRouting.Json
