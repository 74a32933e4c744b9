/-
**Numbers that can be held as data.**

Whether a number can be held as data is decided on its leading digits, after two roundings.  All
this changes the magnitude by less than one part in 2 ^ 51, so it matters only close to the limit: a
number that is farther away can be held if and only if its magnitude is below the limit.

Main definitions:

* `Json.Leading.Leads` — whether a number has the given leading digits;
* `Json.leadingProduct` — the exact product of the leading digits and their power of ten;
* `Json.Numeral.magnitude` — the exact magnitude of a number;
* `Json.Numeral.IsFarFromLimit` — numbers on which the roundings do not decide.

Main results:

* `Json.leads_leading` — a number has the leading digits that are used of it;
* `Json.rounded_near` — rounding changes a number by at most one part in 2 ^ 53;
* `Json.comesToFinite_of_lt`, `Json.not_comesToFinite_of_le` — what roundings cannot change;
* `Json.Numeral.isFinite_iff` — **which numbers far from the limit can be held as data**.
-/

import Mathlib.Algebra.Order.Field.Power
import Mathlib.Tactic.Linarith
import Mathlib.Tactic.Ring
import HostRouting.Json.Numeral
import HostRouting.Proofs.Text.Decimal

set_option autoImplicit false

namespace HostRouting.Json

/-! ### Leading digits -/

namespace Leading

/-- Whether `n` has the leading digits `l`. -/
structure Leads (l : Leading) (n : Nat) : Prop where
  /-- With zeros for what is left out they are not above `n`. -/
  lower : l.value * 10 ^ l.omitted ≤ n
  /-- The next integer is above `n` in the same way. -/
  upper : n < (l.value + 1) * 10 ^ l.omitted
  fits : l.value < wordLimit
  /-- Digits are left out only where one more would not fit. -/
  full : l.omitted ≠ 0 → wordLimit ≤ l.value * 10 + 9

variable {l : Leading} {n : Nat}

theorem leads_zero : Leads ⟨0, 0⟩ 0 where
  lower := Nat.le_refl 0
  upper := Nat.one_pos
  fits := by decide
  full h := absurd rfl h

/-- If no digits are left out, the leading ones are all there are. -/
theorem Leads.value_eq (h : l.Leads n) (hall : l.omitted = 0) : l.value = n := by
  have hlower := h.lower
  have hupper := h.upper
  rw [hall, pow_zero, mul_one] at hlower hupper
  omega

theorem Leads.push (h : l.Leads n) {d : Nat} (hd : d < 10) : (l.push d).Leads (n * 10 + d) := by
  rw [Leading.push]
  split
  · next hused =>
      obtain ⟨hall, hfits⟩ := hused
      rw [h.value_eq hall] at hfits ⊢
      exact ⟨by simp, by simp, hfits, fun h => absurd rfl h⟩
  · next hleft =>
      have hlower : l.value * 10 ^ l.omitted ≤ n := h.lower
      have hupper : n + 1 ≤ (l.value + 1) * 10 ^ l.omitted := h.upper
      have hfull : wordLimit ≤ l.value * 10 + 9 := by
        by_cases hall : l.omitted = 0
        · have hlarge : wordLimit ≤ l.value * 10 + d :=
            Nat.le_of_not_lt fun hfits => hleft ⟨hall, hfits⟩
          omega
        · exact h.full hall
      refine ⟨?_, ?_, h.fits, fun _ => hfull⟩
      · rw [pow_succ, ← mul_assoc]
        exact Nat.le_add_right_of_le (Nat.mul_le_mul_right 10 hlower)
      · rw [pow_succ, ← mul_assoc]
        have hnext := Nat.mul_le_mul_right 10 hupper
        exact Nat.lt_of_lt_of_le (by omega) hnext

/-- What is left out is at most one part in 2 ^ 60. -/
theorem Leads.near (h : l.Leads n) :
    2 ^ 60 * n ≤ (2 ^ 60 + 1) * (l.value * 10 ^ l.omitted) := by
  by_cases hall : l.omitted = 0
  · rw [hall, pow_zero, mul_one, h.value_eq hall]
    omega
  · have hfull : 2 ^ 64 ≤ l.value * 10 + 9 := h.full hall
    calc 2 ^ 60 * n
      _ ≤ 2 ^ 60 * ((l.value + 1) * 10 ^ l.omitted) := Nat.mul_le_mul_left _ h.upper.le
      _ = 2 ^ 60 * (l.value + 1) * 10 ^ l.omitted := (mul_assoc ..).symm
      _ ≤ (2 ^ 60 + 1) * l.value * 10 ^ l.omitted := Nat.mul_le_mul_right _ (by omega)
      _ = (2 ^ 60 + 1) * (l.value * 10 ^ l.omitted) := mul_assoc ..

end Leading

/-- A number that has its leading digits still has them when more digits are read. -/
theorem leads_of_numberFrom? {cs : List Char} {l : Leading} {sum n : Nat} (hl : l.Leads sum)
    (h : Text.numberFrom? 10 sum cs = some n) :
    ((cs.filterMap (Text.digitValue? 10)).foldl Leading.push l).Leads n := by
  induction cs generalizing l sum with
  | nil => exact Option.some.inj h ▸ hl
  | cons c cs ih =>
      obtain ⟨d, hd, hrest⟩ := Option.bind_eq_some_iff.1 h
      rw [List.filterMap_cons_some hd, List.foldl_cons]
      exact ih (hl.push (Text.lt_of_digitValue? hd)) hrest

theorem leads_leading (n : Nat) : (leading n).Leads n :=
  leads_of_numberFrom? Leading.leads_zero (Text.number?_toDigits (by decide) (by decide) n)

/-! ### Rounding -/

/-- A number is rounded by at most half a unit in the last place. -/
theorem rounded_within_unit (n : Nat) :
    2 * rounded n ≤ 2 * n + 2 ^ (n.log2 - 52) ∧ 2 * n ≤ 2 * rounded n + 2 ^ (n.log2 - 52) := by
  have hpos : 0 < 2 ^ (n.log2 - 52) := Nat.two_pow_pos _
  have hunit : Nat.pow 2 (n.log2 - 52) = 2 ^ (n.log2 - 52) := rfl
  simp only [rounded, hunit]
  generalize 2 ^ (n.log2 - 52) = unit at hpos
  have hdivision : n / unit * unit + n % unit = n := Nat.div_add_mod' n unit
  have hrest : n % unit < unit := Nat.mod_lt n hpos
  split
  · have hnext : (n / unit + 1) * unit = n / unit * unit + unit := Nat.succ_mul _ _
    omega
  · omega

/-- Rounding changes a number by at most one part in 2 ^ 53. -/
theorem rounded_near (n : Nat) :
    rounded n * 2 ^ 53 ≤ n * (2 ^ 53 + 1) ∧ n * (2 ^ 53 - 1) ≤ rounded n * 2 ^ 53 := by
  obtain ⟨hupper, hlower⟩ := rounded_within_unit n
  rcases Nat.lt_or_ge n.log2 53 with hlog | hlog
  · -- the unit is 1, so nothing is rounded off
    have hunit : n.log2 - 52 = 0 := by omega
    rw [hunit, pow_zero] at hupper hlower
    omega
  · have hn : n ≠ 0 := by
      rintro rfl
      rw [Nat.log2_zero] at hlog
      omega
    have hunit : 2 ^ 52 * 2 ^ (n.log2 - 52) ≤ n := by
      rw [← pow_add, Nat.add_sub_cancel' (by omega)]
      exact Nat.log2_self_le hn
    omega

/-- A product of two rounded numbers. -/
theorem rounded_mul_near (m n : Nat) :
    rounded m * rounded n * 2 ^ 106 ≤ m * n * (2 ^ 53 + 1) ^ 2 ∧
      m * n * (2 ^ 53 - 1) ^ 2 ≤ rounded m * rounded n * 2 ^ 106 := by
  obtain ⟨hupper, hlower⟩ := rounded_near m
  obtain ⟨hupper', hlower'⟩ := rounded_near n
  constructor
  · calc rounded m * rounded n * 2 ^ 106 = rounded m * 2 ^ 53 * (rounded n * 2 ^ 53) := by ring
      _ ≤ m * (2 ^ 53 + 1) * (n * (2 ^ 53 + 1)) := Nat.mul_le_mul hupper hupper'
      _ = m * n * (2 ^ 53 + 1) ^ 2 := by ring
  · calc m * n * (2 ^ 53 - 1) ^ 2 = m * (2 ^ 53 - 1) * (n * (2 ^ 53 - 1)) := by ring
      _ ≤ rounded m * 2 ^ 53 * (rounded n * 2 ^ 53) := Nat.mul_le_mul hlower hlower'
      _ = rounded m * rounded n * 2 ^ 106 := by ring

/-! ### What leading digits come to -/

/-- The exact product of the leading digits of a number and their power of ten. -/
def leadingProduct (significand : Nat) (exponent : Int) : ℚ :=
  (leading significand).value * 10 ^ (exponent + (leading significand).omitted)

/-- The product is the number itself up to one part in 2 ^ 60. -/
theorem leadingProduct_near (s : Nat) (e : Int) :
    leadingProduct s e ≤ s * 10 ^ e ∧
      2 ^ 60 * ((s : ℚ) * 10 ^ e) ≤ (2 ^ 60 + 1) * leadingProduct s e := by
  have hleads := leads_leading s
  have hpow : (0 : ℚ) ≤ 10 ^ e := zpow_nonneg (by norm_num) e
  have hsplit : leadingProduct s e
      = ((leading s).value * 10 ^ (leading s).omitted : Nat) * 10 ^ e := by
    rw [leadingProduct, zpow_add₀ (by norm_num), zpow_natCast]
    push_cast
    ring
  rw [hsplit]
  constructor
  · exact mul_le_mul_of_nonneg_right (by exact_mod_cast hleads.lower) hpow
  · have hnear : (2 ^ 60 : ℚ) * s
        ≤ (2 ^ 60 + 1) * ((leading s).value * 10 ^ (leading s).omitted : Nat) := by
      exact_mod_cast hleads.near
    rw [← mul_assoc, ← mul_assoc]
    exact mul_le_mul_of_nonneg_right hnear hpow

theorem magnitudeLimit_lt : magnitudeLimit < 10 ^ (greatestPower + 1) := by
  decide +kernel

theorem le_magnitudeLimit : wordLimit ≤ magnitudeLimit := by
  decide +kernel

/-- Division makes nothing too large. -/
theorem leadingProduct_lt_of_neg {s : Nat} {e : Int} (h : e + (leading s).omitted < 0) :
    leadingProduct s e < wordLimit := by
  have hpow : (10 : ℚ) ^ (e + (leading s).omitted) ≤ 1 :=
    zpow_le_one_of_nonpos₀ (by norm_num) h.le
  calc leadingProduct s e ≤ (leading s).value := mul_le_of_le_one_right (Nat.cast_nonneg _) hpow
    _ < wordLimit := Nat.cast_lt.2 (leads_leading s).fits

section

variable {s k : Nat} {e : Int} (hk : e + (leading s).omitted = k)

include hk

theorem leadingProduct_of_nonneg : leadingProduct s e = ((leading s).value * 10 ^ k : Nat) := by
  rw [leadingProduct, hk, zpow_natCast]
  push_cast
  rfl

theorem comesToFinite_iff_of_nonneg : comesToFinite s e = true ↔ (leading s).value = 0 ∨
    k ≤ greatestPower ∧ rounded (leading s).value * rounded (10 ^ k) < magnitudeLimit := by
  have hneg : ¬(k : Int) < 0 := by omega
  simp [comesToFinite, hk, hneg]

end

/-- A product that is below the limit even if two roundings make it larger. -/
theorem comesToFinite_of_lt {s : Nat} {e : Int}
    (h : leadingProduct s e * (2 ^ 53 + 1) ^ 2 < magnitudeLimit * 2 ^ 106) :
    comesToFinite s e = true := by
  rcases lt_or_ge (e + (leading s).omitted) 0 with hneg | hpos
  · simp [comesToFinite, hneg]
  obtain ⟨k, hk⟩ := Int.eq_ofNat_of_zero_le hpos
  rw [leadingProduct_of_nonneg hk] at h
  rw [comesToFinite_iff_of_nonneg hk]
  generalize (leading s).value = v at h
  have hproduct : v * 10 ^ k * (2 ^ 53 + 1) ^ 2 < magnitudeLimit * 2 ^ 106 := by exact_mod_cast h
  refine or_iff_not_imp_left.2 fun hzero => ⟨?_, ?_⟩
  · -- the power of ten is not above the product, so it is below the limit as well
    have hle : 10 ^ k * 2 ^ 106 ≤ v * 10 ^ k * (2 ^ 53 + 1) ^ 2 :=
      Nat.mul_le_mul (Nat.le_mul_of_pos_left _ (Nat.pos_of_ne_zero hzero)) (by norm_num)
    have hlt : 10 ^ k < 10 ^ (greatestPower + 1) :=
      (Nat.lt_of_mul_lt_mul_right (hle.trans_lt hproduct)).trans magnitudeLimit_lt
    have hexponent : k < greatestPower + 1 := (pow_lt_pow_iff_right₀ (by norm_num)).1 hlt
    omega
  · exact Nat.lt_of_mul_lt_mul_right ((rounded_mul_near v (10 ^ k)).1.trans_lt hproduct)

/-- A product that is not below the limit even if two roundings make it smaller. -/
theorem not_comesToFinite_of_le {s : Nat} {e : Int}
    (h : magnitudeLimit * 2 ^ 106 ≤ leadingProduct s e * (2 ^ 53 - 1) ^ 2) :
    comesToFinite s e ≠ true := by
  rcases lt_or_ge (e + (leading s).omitted) 0 with hneg | hpos
  · have hlimit : (wordLimit : ℚ) ≤ magnitudeLimit := Nat.cast_le.2 le_magnitudeLimit
    have hsmall := leadingProduct_lt_of_neg hneg
    linarith
  obtain ⟨k, hk⟩ := Int.eq_ofNat_of_zero_le hpos
  rw [leadingProduct_of_nonneg hk] at h
  rw [Ne, comesToFinite_iff_of_nonneg hk]
  generalize (leading s).value = v at h
  have hproduct : magnitudeLimit * 2 ^ 106 ≤ v * 10 ^ k * (2 ^ 53 - 1) ^ 2 := by
    have hcast : (2 ^ 53 - 1 : ℚ) = (2 ^ 53 - 1 : Nat) := by norm_num
    rw [hcast] at h
    exact_mod_cast h
  rintro (rfl | ⟨-, hlt⟩)
  · have hpos : 0 < magnitudeLimit := lt_of_lt_of_le (by decide) le_magnitudeLimit
    omega
  · have hle : magnitudeLimit ≤ rounded v * rounded (10 ^ k) :=
      Nat.le_of_mul_le_mul_right (hproduct.trans (rounded_mul_near v (10 ^ k)).2) (by norm_num)
    exact absurd hlt (Nat.not_lt.2 hle)

/-! ### Magnitudes -/

namespace Numeral

/-- The exact magnitude of a number. -/
def magnitude : Numeral → ℚ
  | .integer n => |(n : ℚ)|
  | .decimal _ significand exponent => significand * 10 ^ exponent

/-- A number whose magnitude differs from the limit by at least one part in 2 ^ 51. -/
def IsFarFromLimit (n : Numeral) : Prop :=
  (magnitudeLimit : ℚ) ≤ 2 ^ 51 * |n.magnitude - magnitudeLimit|

instance (n : Numeral) : Decidable n.IsFarFromLimit :=
  inferInstanceAs (Decidable ((magnitudeLimit : ℚ) ≤ 2 ^ 51 * |n.magnitude - magnitudeLimit|))

/-- A number can be held as data if what its digits and its exponent say can be. -/
theorem exists_comesToFinite (n : Numeral) :
    ∃ (significand : Nat) (exponent : Int), n.magnitude = significand * 10 ^ exponent ∧
      n.isFinite = comesToFinite significand exponent := by
  cases n with
  | integer n => exact ⟨n.natAbs, 0, by simp [magnitude, Nat.cast_natAbs], rfl⟩
  | decimal negative significand exponent => exact ⟨significand, exponent, rfl, rfl⟩

/-- **Which numbers can be held as data.**  Far from the limit the roundings do not decide. -/
theorem isFinite_iff {n : Numeral} (hfar : n.IsFarFromLimit) :
    n.isFinite = true ↔ n.magnitude < magnitudeLimit := by
  obtain ⟨s, e, hmagnitude, hfinite⟩ := n.exists_comesToFinite
  obtain ⟨hlower, hupper⟩ := leadingProduct_near s e
  rw [IsFarFromLimit] at hfar
  rw [← hmagnitude] at hlower hupper
  rw [hfinite]
  -- the distance from the limit is more than what the leading digits and two roundings lose
  rcases lt_or_ge n.magnitude magnitudeLimit with hlt | hge
  · rw [abs_of_neg (sub_neg.2 hlt)] at hfar
    exact iff_of_true (comesToFinite_of_lt (by linarith)) hlt
  · rw [abs_of_nonneg (sub_nonneg.2 hge)] at hfar
    exact iff_of_false (not_comesToFinite_of_le (by linarith)) (not_lt.2 hge)

end Numeral

end HostRouting.Json
