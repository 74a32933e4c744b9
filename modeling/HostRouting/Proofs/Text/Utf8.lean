/-
**Octets of a text read back.**

The octets of a character take the reader of UTF-8 from one character to the next and give it that
character: the first octet says how many follow and holds the highest bits, and each octet after it
adds six.  The bounds for the second octet, which keep out what no character is written as, let
through what a character is written as.  So the octets of a text are read as that text.  Where the
reader comes to a character, it has passed that character's octets and no others, so octets that are
read as a text are the octets of that text.

Main results:

* `Utf8.scan_utf8EncodeChar` — the octets of a character are read as that character;
* `Utf8.exists_of_scan_eq_cons` — what is read as a character are its octets;
* `Utf8.decode?_encode`, `Utf8.decode?_eq_some_iff` — **the octets of a text, and no others, are read
  as that text**;
* `Utf8.isValidUTF8_iff` — they are what the standard library calls valid.
-/

import HostRouting.Text.Utf8

set_option autoImplicit false

namespace HostRouting

/-- If each of some things is read exactly from what it is written as, so are all of them. -/
theorem mapM_eq_some_iff_eq_map {α β : Type} {read : α → Option β} {write : β → α}
    (h : ∀ a b, read a = some b ↔ a = write b) {as : List α} {bs : List β} :
    as.mapM read = some bs ↔ as = bs.map write := by
  induction as generalizing bs with
  | nil => cases bs <;> simp
  | cons a as ih =>
      rw [List.mapM_cons]
      simp only [Option.bind_eq_bind, Option.pure_def, Option.bind_eq_some_iff, Option.some.injEq,
        h, ih]
      constructor
      · rintro ⟨b, rfl, bs, rfl, rfl⟩
        rfl
      · intro hcons
        cases bs with
        | nil => cases hcons
        | cons b bs =>
            obtain ⟨rfl, rfl⟩ := List.cons_eq_cons.1 hcons
            exact ⟨b, rfl, bs, rfl, rfl⟩

namespace Utf8

/-! ### Single octets -/

-- the library's bound is the name of a number, which arithmetic does not see through
theorem toNat_ofNat {n : Nat} (h : n < 256) : (UInt8.ofNat n).toNat = n :=
  UInt8.toNat_ofNat_of_lt' h

theorem opening_one {n : Nat} (h : n ≤ 0x7F) :
    opening (UInt8.ofNat n) = .char (Char.ofNat n) := by
  unfold opening
  rw [toNat_ofNat (by omega)]
  exact if_pos h

theorem opening_two {x : Nat} (hlow : 2 ≤ x) (hhigh : x < 0x20) :
    opening (UInt8.ofNat (x + 0xC0)) = .attempt ⟨0, 0x80, 0xBF, x⟩ := by
  unfold opening
  rw [toNat_ofNat (by omega)]
  simp only
  rw [if_neg (by omega), if_neg (by omega), if_pos (by omega), Nat.add_sub_cancel]

/-- The first of three octets; the bounds keep out short forms and surrogates. -/
theorem opening_three {x : Nat} (hx : x < 0x10) :
    opening (UInt8.ofNat (x + 0xE0))
      = .attempt ⟨1, if x = 0 then 0xA0 else 0x80, if x = 0xD then 0x9F else 0xBF, x⟩ := by
  unfold opening
  rw [toNat_ofNat (by omega)]
  simp only
  rw [if_neg (by omega), if_neg (by omega), if_neg (by omega)]
  by_cases hzero : x = 0
  · subst hzero
    rfl
  · by_cases hd : x = 0xD
    · subst hd
      rfl
    · rw [if_neg (by omega), if_neg (by omega), if_pos (by omega), if_neg hzero, if_neg hd,
        Nat.add_sub_cancel]

/-- The first of four octets; the bounds keep out short forms and what is beyond the last
character. -/
theorem opening_four {x : Nat} (hx : x ≤ 4) :
    opening (UInt8.ofNat (x + 0xF0))
      = .attempt ⟨2, if x = 0 then 0x90 else 0x80, if x = 4 then 0x8F else 0xBF, x⟩ := by
  unfold opening
  rw [toNat_ofNat (by omega)]
  simp only
  rw [if_neg (by omega), if_neg (by omega), if_neg (by omega), if_neg (by omega),
    if_neg (by omega), if_neg (by omega)]
  by_cases hzero : x = 0
  · subst hzero
    rfl
  · by_cases hfour : x = 4
    · subst hfour
      rfl
    · rw [if_neg (by omega), if_pos (by omega), if_neg hzero, if_neg hfour, Nat.add_sub_cancel]

section

variable {low high bits x : Nat} (hx : x < 0x40) (hlow : low ≤ x + 0x80) (hhigh : x + 0x80 ≤ high)

include hx hlow hhigh

theorem takes_trailing (owed : Nat) :
    Attempt.takes ⟨owed, low, high, bits⟩ (UInt8.ofNat (x + 0x80)) = true := by
  rw [Attempt.takes, toNat_ofNat (by omega), Bool.and_eq_true, decide_eq_true_eq,
    decide_eq_true_eq]
  exact ⟨hlow, hhigh⟩

omit hlow hhigh in
theorem bitsWith_trailing (owed : Nat) :
    Attempt.bitsWith ⟨owed, low, high, bits⟩ (UInt8.ofNat (x + 0x80)) = bits * 64 + x := by
  have hnat : (UInt8.ofNat (x + 0x80)).toNat = x + 0x80 := toNat_ofNat (by omega)
  unfold Attempt.bitsWith
  rw [hnat]
  simp only
  omega

/-- The last octet of a character. -/
theorem scan_last (bs : List UInt8) :
    scan (some ⟨0, low, high, bits⟩) (UInt8.ofNat (x + 0x80) :: bs)
      = some (Char.ofNat (bits * 64 + x)) :: scan none bs := by
  rw [scan, if_pos (takes_trailing hx hlow hhigh 0)]
  simp only [bitsWith_trailing hx]

/-- An octet of a character after which more follow. -/
theorem scan_more (owed : Nat) (bs : List UInt8) :
    scan (some ⟨owed + 1, low, high, bits⟩) (UInt8.ofNat (x + 0x80) :: bs)
      = scan (some ⟨owed, 0x80, 0xBF, bits * 64 + x⟩) bs := by
  rw [scan, if_pos (takes_trailing hx hlow hhigh (owed + 1))]
  simp only [bitsWith_trailing hx]

end

/-! ### Characters -/

/-- **The octets of a character are read as that character.** -/
theorem scan_utf8EncodeChar (c : Char) (bs : List UInt8) :
    scan none (String.utf8EncodeChar c ++ bs) = some c :: scan none bs := by
  have hvalid : c.toNat < 0xD800 ∨ 0xDFFF < c.toNat ∧ c.toNat < 0x110000 := c.valid
  have hback : Char.ofNat c.toNat = c := Char.ofNat_toNat c
  have hval : c.val.toNat = c.toNat := rfl
  unfold String.utf8EncodeChar
  simp only [hval]
  generalize c.toNat = v at hvalid hback
  split
  · next hone =>
      rw [List.singleton_append, scan, opening_one hone, hback]
  · next hone =>
      split
      · next htwo =>
          simp only [List.cons_append, List.nil_append]
          rw [scan, opening_two (by omega) (by omega)]
          simp only
          rw [scan_last (by omega) (by omega) (by omega)]
          have hsum : v / 64 % 0x20 * 64 + v % 0x40 = v := by omega
          rw [hsum, hback]
      · next htwo =>
          split
          · next hthree =>
              simp only [List.cons_append, List.nil_append]
              rw [scan, opening_three (by omega)]
              simp only
              rw [scan_more (by omega) (by split <;> omega) (by split <;> omega),
                scan_last (by omega) (by omega) (by omega)]
              have hsum : (v / 4096 % 0x10 * 64 + v / 64 % 0x40) * 64 + v % 0x40 = v := by omega
              rw [hsum, hback]
          · next hthree =>
              simp only [List.cons_append, List.nil_append]
              rw [scan, opening_four (by omega)]
              simp only
              rw [scan_more (by omega) (by split <;> omega) (by split <;> omega),
                scan_more (by omega) (by omega) (by omega),
                scan_last (by omega) (by omega) (by omega)]
              have hsum : ((v / 262144 % 0x08 * 64 + v / 4096 % 0x40) * 64 + v / 64 % 0x40) * 64
                  + v % 0x40 = v := by omega
              rw [hsum, hback]

theorem scan_encode_append (cs : List Char) (bs : List UInt8) :
    scan none (encode cs ++ bs) = cs.map some ++ scan none bs := by
  induction cs with
  | nil => rfl
  | cons c cs ih =>
      have hcons : encode (c :: cs) = String.utf8EncodeChar c ++ encode cs := List.flatMap_cons
      rw [hcons, List.append_assoc, scan_utf8EncodeChar, ih, List.map_cons, List.cons_append]

theorem scan_encode (cs : List Char) : scan none (encode cs) = cs.map some := by
  have happend := scan_encode_append cs []
  rwa [List.append_nil, scan, List.append_nil] at happend

/-- The octets of a text are read as that text, whatever stands behind them. -/
theorem decodeLossy_encode_append (cs : List Char) (bs : List UInt8) :
    decodeLossy (encode cs ++ bs) = cs ++ decodeLossy bs := by
  have hself : (cs.map some).map (·.getD '\uFFFD') = cs := by
    rw [List.map_map]
    exact List.map_id cs
  rw [decodeLossy, scan_encode_append, List.map_append, hself]
  rfl

theorem decodeLossy_encode (cs : List Char) : decodeLossy (encode cs) = cs := by
  have hnone : decodeLossy [] = [] := rfl
  have happend := decodeLossy_encode_append cs []
  rwa [List.append_nil, hnone, List.append_nil] at happend

/-- **The octets of a text are read as that text.** -/
theorem decode?_encode (cs : List Char) : decode? (encode cs) = some cs := by
  exact (mapM_eq_some_iff_eq_map fun _ _ => Iff.rfl).2 (scan_encode cs)

/-- A character of ASCII is one octet. -/
theorem utf8EncodeChar_of_ascii {c : Char} (h : c.toNat ≤ 0x7F) :
    String.utf8EncodeChar c = [UInt8.ofNat c.toNat] :=
  if_pos h

/-- All octets of any other character are marked by their highest bit. -/
theorem marked_of_not_ascii {c : Char} (h : 0x7F < c.toNat) {b : UInt8}
    (hb : b ∈ String.utf8EncodeChar c) : 0x7F < b.toNat := by
  have hval : c.val.toNat = c.toNat := rfl
  have hlast (v : Nat) : 0x7F < (UInt8.ofNat (v % 0x40 + 0x80)).toNat := by
    rw [toNat_ofNat (by omega)]
    omega
  unfold String.utf8EncodeChar at hb
  simp only [hval] at hb
  rw [if_neg (by omega)] at hb
  split at hb
  · simp only [List.mem_cons, List.not_mem_nil, or_false] at hb
    obtain rfl | rfl := hb
    · rw [toNat_ofNat (by omega)]
      omega
    · exact hlast _
  · split at hb
    · simp only [List.mem_cons, List.not_mem_nil, or_false] at hb
      obtain rfl | rfl | rfl := hb
      · rw [toNat_ofNat (by omega)]
        omega
      · exact hlast _
      · exact hlast _
    · simp only [List.mem_cons, List.not_mem_nil, or_false] at hb
      obtain rfl | rfl | rfl | rfl := hb
      · rw [toNat_ofNat (by omega)]
        omega
      · exact hlast _
      · exact hlast _
      · exact hlast _

/-- An octet of ASCII stands for its own character only. -/
theorem mem_utf8EncodeChar_iff {c d : Char} (hd : d.toNat ≤ 0x7F) :
    UInt8.ofNat d.toNat ∈ String.utf8EncodeChar c ↔ c = d := by
  constructor
  · intro h
    have hc : c.toNat ≤ 0x7F := by
      refine Nat.le_of_not_lt fun hlt => ?_
      have hmarked := marked_of_not_ascii hlt h
      rw [toNat_ofNat (by omega)] at hmarked
      omega
    rw [utf8EncodeChar_of_ascii hc, List.mem_singleton, ← UInt8.toNat_inj, toNat_ofNat (by omega),
      toNat_ofNat (by omega)] at h
    exact (Char.toNat_inj.1 h).symm
  · rintro rfl
    rw [utf8EncodeChar_of_ascii hd]
    exact List.mem_singleton_self _

/-! ### What is read as a character -/

theorem val_ofNat {v : Nat} (h : v < 0xD800 ∨ 0xDFFF < v ∧ v < 0x110000) :
    (Char.ofNat v).val.toNat = v := by
  unfold Char.ofNat
  rw [dif_pos h]
  rfl

/-- The octets of a character of two octets. -/
theorem utf8EncodeChar_two {x y : Nat} (hlow : 2 ≤ x) (hx : x < 0x20) (hy : y < 0x40) :
    String.utf8EncodeChar (Char.ofNat (x * 64 + y))
      = [UInt8.ofNat (x + 0xC0), UInt8.ofNat (y + 0x80)] := by
  have hfirst : (x * 64 + y) / 64 % 0x20 = x := by omega
  have hlast : (x * 64 + y) % 0x40 = y := by omega
  unfold String.utf8EncodeChar
  rw [val_ofNat (by omega)]
  simp only
  rw [if_neg (by omega), if_pos (by omega), hfirst, hlast]

/-- The octets of a character of three octets. -/
theorem utf8EncodeChar_three {x y z : Nat} (hx : x < 0x10) (hy : y < 0x40) (hz : z < 0x40)
    (hlow : x = 0 → 0x20 ≤ y) (hhigh : x = 0xD → y < 0x20) :
    String.utf8EncodeChar (Char.ofNat ((x * 64 + y) * 64 + z))
      = [UInt8.ofNat (x + 0xE0), UInt8.ofNat (y + 0x80), UInt8.ofNat (z + 0x80)] := by
  have hfirst : ((x * 64 + y) * 64 + z) / 4096 % 0x10 = x := by omega
  have hmiddle : ((x * 64 + y) * 64 + z) / 64 % 0x40 = y := by omega
  have hlast : ((x * 64 + y) * 64 + z) % 0x40 = z := by omega
  unfold String.utf8EncodeChar
  rw [val_ofNat (by omega)]
  simp only
  rw [if_neg (by omega), if_neg (by omega), if_pos (by omega), hfirst, hmiddle, hlast]

/-- The octets of a character of four octets. -/
theorem utf8EncodeChar_four {w x y z : Nat} (hw : w ≤ 4) (hx : x < 0x40) (hy : y < 0x40)
    (hz : z < 0x40) (hlow : w = 0 → 0x10 ≤ x) (hhigh : w = 4 → x < 0x10) :
    String.utf8EncodeChar (Char.ofNat (((w * 64 + x) * 64 + y) * 64 + z))
      = [UInt8.ofNat (w + 0xF0), UInt8.ofNat (x + 0x80), UInt8.ofNat (y + 0x80),
          UInt8.ofNat (z + 0x80)] := by
  have hfirst : (((w * 64 + x) * 64 + y) * 64 + z) / 262144 % 0x08 = w := by omega
  have hsecond : (((w * 64 + x) * 64 + y) * 64 + z) / 4096 % 0x40 = x := by omega
  have hthird : (((w * 64 + x) * 64 + y) * 64 + z) / 64 % 0x40 = y := by omega
  have hlast : (((w * 64 + x) * 64 + y) * 64 + z) % 0x40 = z := by omega
  unfold String.utf8EncodeChar
  rw [val_ofNat (by omega)]
  simp only
  rw [if_neg (by omega), if_neg (by omega), if_neg (by omega), hfirst, hsecond, hthird, hlast]

/-- Octets by how far they are above some number. -/
theorem exists_ofNat_add {b : UInt8} {base : Nat} (h : base ≤ b.toNat) :
    ∃ x, b = UInt8.ofNat (x + base) ∧ x + base = b.toNat := by
  refine ⟨b.toNat - base, ?_, Nat.sub_add_cancel h⟩
  rw [Nat.sub_add_cancel h, UInt8.ofNat_toNat]

theorem opening_refused {b : UInt8} (h : 0x80 ≤ b.toNat ∧ b.toNat ≤ 0xC1 ∨ 0xF5 ≤ b.toNat) :
    opening b = .refused := by
  unfold opening
  simp only
  rw [if_neg (by omega)]
  by_cases hlow : b.toNat ≤ 0xC1
  · rw [if_pos hlow]
  · rw [if_neg hlow, if_neg (by omega), if_neg (by omega), if_neg (by omega), if_neg (by omega),
      if_neg (by omega), if_neg (by omega), if_neg (by omega)]

section

variable {low high bits : Nat} {bs : List UInt8} {c : Char} {rest : List (Option Char)}
  (hlow : 0x80 ≤ low) (hhigh : high ≤ 0xBF)

include hlow hhigh

/-- An attempt that comes to a character takes the next octet. -/
theorem exists_trailing {owed : Nat}
    (h : scan (some ⟨owed, low, high, bits⟩) bs = some c :: rest) :
    ∃ x tail, bs = UInt8.ofNat (x + 0x80) :: tail ∧ x < 0x40 ∧ low ≤ x + 0x80 ∧
      x + 0x80 ≤ high := by
  cases bs with
  | nil => cases h
  | cons b tail =>
      by_cases htakes : Attempt.takes ⟨owed, low, high, bits⟩ b = true
      · have hbounds : low ≤ b.toNat ∧ b.toNat ≤ high := by
          simpa only [Attempt.takes, Bool.and_eq_true, decide_eq_true_eq] using htakes
        obtain ⟨x, rfl, hx⟩ := exists_ofNat_add (Nat.le_trans hlow hbounds.1)
        exact ⟨x, tail, rfl, by omega, by omega, by omega⟩
      · -- a refused octet leaves an ill-formed sequence behind
        rw [scan, if_neg htakes] at h
        split at h <;> cases h

/-- What follows the last octet of a character. -/
theorem exists_of_scan_last (h : scan (some ⟨0, low, high, bits⟩) bs = some c :: rest) :
    ∃ x tail, bs = UInt8.ofNat (x + 0x80) :: tail ∧ x < 0x40 ∧ low ≤ x + 0x80 ∧ x + 0x80 ≤ high ∧
      c = Char.ofNat (bits * 64 + x) ∧ rest = scan none tail := by
  obtain ⟨x, tail, rfl, hx, hxlow, hxhigh⟩ := exists_trailing hlow hhigh h
  rw [scan_last hx hxlow hxhigh] at h
  obtain ⟨hc, hrest⟩ := List.cons.inj h
  exact ⟨x, tail, rfl, hx, hxlow, hxhigh, (Option.some.inj hc).symm, hrest.symm⟩

/-- What follows an octet of a character after which more follow. -/
theorem exists_of_scan_more {owed : Nat}
    (h : scan (some ⟨owed + 1, low, high, bits⟩) bs = some c :: rest) :
    ∃ x tail, bs = UInt8.ofNat (x + 0x80) :: tail ∧ x < 0x40 ∧ low ≤ x + 0x80 ∧ x + 0x80 ≤ high ∧
      scan (some ⟨owed, 0x80, 0xBF, bits * 64 + x⟩) tail = some c :: rest := by
  obtain ⟨x, tail, rfl, hx, hxlow, hxhigh⟩ := exists_trailing hlow hhigh h
  rw [scan_more hx hxlow hxhigh] at h
  exact ⟨x, tail, rfl, hx, hxlow, hxhigh, h⟩

end

/-- **What is read as a character are its octets.** -/
theorem exists_of_scan_eq_cons {bs : List UInt8} {c : Char} {rest : List (Option Char)}
    (h : scan none bs = some c :: rest) :
    ∃ tail, bs = String.utf8EncodeChar c ++ tail ∧ rest = scan none tail := by
  cases bs with
  | nil => cases h
  | cons b bs =>
      rw [scan] at h
      have hranges : b.toNat ≤ 0x7F ∨ (0x80 ≤ b.toNat ∧ b.toNat ≤ 0xC1 ∨ 0xF5 ≤ b.toNat) ∨
          (0xC2 ≤ b.toNat ∧ b.toNat ≤ 0xDF) ∨ (0xE0 ≤ b.toNat ∧ b.toNat ≤ 0xEF) ∨
          (0xF0 ≤ b.toNat ∧ b.toNat ≤ 0xF4) := by
        omega
      obtain hone | hnone | ⟨hlow, hhigh⟩ | ⟨hlow, hhigh⟩ | ⟨hlow, hhigh⟩ := hranges
      case inl =>
        have hval := val_ofNat (v := b.toNat) (by omega)
        have hown : String.utf8EncodeChar (Char.ofNat b.toNat) = [b] := by
          unfold String.utf8EncodeChar
          rw [hval]
          simp only
          rw [if_pos hone, UInt8.ofNat_toNat]
        have hopening := opening_one hone
        rw [UInt8.ofNat_toNat] at hopening
        rw [hopening] at h
        obtain ⟨hc, hrest⟩ := List.cons.inj h
        obtain rfl := Option.some.inj hc
        exact ⟨bs, by rw [hown]; rfl, hrest.symm⟩
      case inr.inl =>
        rw [opening_refused hnone] at h
        cases h
      case inr.inr.inl =>
        have hbase : 0xC0 ≤ b.toNat := by omega
        obtain ⟨x, rfl, hx⟩ := exists_ofNat_add hbase
        rw [opening_two (by omega) (by omega)] at h
        obtain ⟨y, tail, rfl, hy, -, -, rfl, hrest⟩ :=
          exists_of_scan_last (Nat.le_refl _) (Nat.le_refl _) h
        refine ⟨tail, ?_, hrest⟩
        rw [utf8EncodeChar_two (by omega) (by omega) hy]
        rfl
      case inr.inr.inr.inl =>
        obtain ⟨x, rfl, hx⟩ := exists_ofNat_add hlow
        rw [opening_three (by omega)] at h
        obtain ⟨y, bs, rfl, hy, hylow, hyhigh, h⟩ :=
          exists_of_scan_more (by split <;> omega) (by split <;> omega) h
        obtain ⟨z, tail, rfl, hz, -, -, rfl, hrest⟩ :=
          exists_of_scan_last (Nat.le_refl _) (Nat.le_refl _) h
        refine ⟨tail, ?_, hrest⟩
        rw [utf8EncodeChar_three (by omega) hy hz (by intro h0; rw [if_pos h0] at hylow; omega)
          (by intro hd; rw [if_pos hd] at hyhigh; omega)]
        rfl
      case inr.inr.inr.inr =>
        obtain ⟨w, rfl, hw⟩ := exists_ofNat_add hlow
        rw [opening_four (by omega)] at h
        obtain ⟨x, bs, rfl, hx, hxlow, hxhigh, h⟩ :=
          exists_of_scan_more (by split <;> omega) (by split <;> omega) h
        obtain ⟨y, bs, rfl, hy, -, -, h⟩ :=
          exists_of_scan_more (Nat.le_refl _) (Nat.le_refl _) h
        obtain ⟨z, tail, rfl, hz, -, -, rfl, hrest⟩ :=
          exists_of_scan_last (Nat.le_refl _) (Nat.le_refl _) h
        refine ⟨tail, ?_, hrest⟩
        rw [utf8EncodeChar_four (by omega) hx hy hz
          (by intro h0; rw [if_pos h0] at hxlow; omega)
          (by intro h4; rw [if_pos h4] at hxhigh; omega)]
        rfl

theorem scan_ne_nil {a : Option Attempt} {bs : List UInt8} (h : a ≠ none ∨ bs ≠ []) :
    scan a bs ≠ [] := by
  fun_induction scan a bs <;> simp_all

theorem decodeLossy_eq_nil_iff {bs : List UInt8} : decodeLossy bs = [] ↔ bs = [] := by
  constructor
  · intro h
    by_cases hbs : bs = []
    · exact hbs
    · exact absurd (List.map_eq_nil_iff.1 h) (scan_ne_nil (.inr hbs))
  · rintro rfl
    rfl

theorem eq_encode_of_scan {cs : List Char} :
    ∀ {bs : List UInt8}, scan none bs = cs.map some → bs = encode cs := by
  induction cs with
  | nil =>
      intro bs h
      by_cases hbs : bs = []
      · exact hbs
      · exact absurd h (scan_ne_nil (.inr hbs))
  | cons c cs ih =>
      intro bs h
      obtain ⟨tail, rfl, hrest⟩ := exists_of_scan_eq_cons h
      rw [ih hrest.symm]
      rfl

/-- **Octets are read as a text exactly if they are the octets of that text.** -/
theorem decode?_eq_some_iff {bs : List UInt8} {cs : List Char} :
    decode? bs = some cs ↔ bs = encode cs := by
  constructor
  · intro h
    exact eq_encode_of_scan ((mapM_eq_some_iff_eq_map fun _ _ => Iff.rfl).1 h)
  · rintro rfl
    exact decode?_encode cs

/-- The octets of texts are what the standard library calls valid. -/
theorem isValidUTF8_iff {bs : List UInt8} :
    bs.toByteArray.IsValidUTF8 ↔ ∃ cs, bs = encode cs := by
  constructor
  · rintro ⟨cs, hcs⟩
    refine ⟨cs, ?_⟩
    rw [← List.toList_data_toByteArray (l := bs), hcs, List.utf8Encode,
      List.toList_data_toByteArray]
    rfl
  · rintro ⟨cs, rfl⟩
    exact ⟨cs, rfl⟩

end Utf8

end HostRouting
