/-
**IPv4 addresses read back.**

The dotted text of an address has four parts, each the digits of one byte without a zero in front of
them, so each is read in base ten and the four bytes make up the address again.  Whatever way an
address is written in, its characters are digits, full stops and the marks of the bases, all of them
in ASCII.

Main results:

* `Url.Ipv4.ofName?_text` — **the dotted text of an address is read as that address**;
* `Url.Ipv4.endsInNumber_text` — it has to be read as one;
* `Url.Ipv4.isAscii_of_ofName?` — a name that stands for an address is in ASCII.
-/

import HostRouting.Proofs.Domain.Ascii
import HostRouting.Proofs.Text.Decimal
import HostRouting.Url.Ipv4

set_option autoImplicit false

namespace HostRouting.Url

/-! ### Parts -/

theorem decimal_ne_nil (n : Nat) : Text.decimal n ≠ [] := Nat.toDigits_ne_nil

theorem isDigit_of_mem_decimal {n : Nat} {c : Char} (hc : c ∈ Text.decimal n) :
    Text.isDigit 10 c = true :=
  Text.isDigit_of_mem_toDigits (by decide) (by decide) hc

/-- The digits of a number are a part that says this number. -/
theorem AddressPart.ofText_decimal (n : Nat) :
    AddressPart.ofText (Text.decimal n) = .number n := by
  have hread : AddressPart.ofDigits 10 (Text.decimal n) = .number n := by
    rw [AddressPart.ofDigits, Text.decimal, Text.number?_toDigits (by decide) (by decide)]
  by_cases hzero : n = 0
  · subst hzero
    rfl
  · have hhead : (Text.decimal n).head? ≠ some '0' := fun h =>
      hzero (Text.eq_zero_of_head?_toDigits (by decide) n h)
    cases hdigits : Text.decimal n with
    | nil => exact absurd hdigits (decimal_ne_nil n)
    | cons c cs =>
        rw [hdigits] at hhead hread
        have hne : c ≠ '0' := fun he => hhead (by rw [he]; rfl)
        rw [AddressPart.ofText.eq_def]
        split
        · next h => cases h
        iterate 4
          · next h => exact absurd (List.head_eq_of_cons_eq h) hne
        · exact hread

namespace Ipv4

variable (a : Ipv4)

theorem pieces_text : Text.pieces '.' a.text.toList = a.bytes.map Text.decimal := by
  rw [text, String.toList_ofList, Text.pieces_eq_splitOn, List.splitOn_intercalate]
  · intro l hl hdot
    obtain ⟨n, -, rfl⟩ := List.mem_map.1 hl
    exact absurd (isDigit_of_mem_decimal hdot) (by decide)
  · exact List.cons_ne_nil _ _

theorem getLast?_bytes :
    (a.bytes.map Text.decimal).getLast? = some (Text.decimal (a.bits % 0x100)) := rfl

theorem addressParts_text : addressParts a.text.toList = a.bytes.map Text.decimal := by
  rw [addressParts, pieces_text, getLast?_bytes, if_neg]
  intro hnil
  exact decimal_ne_nil _ (Option.some.inj hnil)

/-- The bytes of an address make it up again. -/
theorem ofNumbers?_bytes :
    ofNumbers? [a.bits / 0x1000000, a.bits / 0x10000 % 0x100, a.bits / 0x100 % 0x100]
      (a.bits % 0x100) = some a := by
  obtain ⟨bits, hbits⟩ := a
  have hlast : bits % 0x100 < Nat.pow 256 1 := Nat.mod_lt _ (by decide)
  have hlead : [bits / 0x1000000, bits / 0x10000 % 0x100, bits / 0x100 % 0x100].all (· ≤ 255)
      = true := by
    simp only [List.all_cons, List.all_nil, Bool.and_true, Bool.and_eq_true, decide_eq_true_eq]
    omega
  have hsum : [bits / 0x1000000, bits / 0x10000 % 0x100, bits / 0x100 % 0x100].foldl
      (fun n b => n * 256 + b) 0 * Nat.pow 256 1 + bits % 0x100 = bits := by
    change (((0 * 256 + bits / 0x1000000) * 256 + bits / 0x10000 % 0x100) * 256
      + bits / 0x100 % 0x100) * 256 + bits % 0x100 = bits
    omega
  rw [ofNumbers?, if_pos ⟨Nat.le_refl 3, hlead, hlast⟩]
  simp only [List.length_cons, List.length_nil, Nat.reduceAdd, Nat.reduceSub, hsum, hbits,
    ↓reduceDIte]

/-- **The dotted text of an address is read as that address.** -/
theorem ofName?_text : ofName? a.text.toList = some a := by
  have hnumbers : (a.bytes.map Text.decimal).mapM (fun part => (AddressPart.ofText part).number?)
      = some a.bytes := by
    rw [List.mapM_map]
    simp only [Function.comp_def, AddressPart.ofText_decimal, AddressPart.number?]
    rfl
  rw [ofName?, addressParts_text, hnumbers]
  exact ofNumbers?_bytes a

/-- The last part of the text is a number. -/
theorem endsInNumber_text : endsInNumber a.text.toList = true := by
  rw [endsInNumber, addressParts_text, getLast?_bytes]
  simp only [AddressPart.ofText_decimal, Bool.or_eq_true]
  exact .inr rfl

/-- The text of an address has digits and full stops only. -/
theorem eq_or_isDigit_of_mem_text {c : Char} (hc : c ∈ a.text.toList) :
    c = '.' ∨ Text.isDigit 10 c = true := by
  by_cases hdot : c = '.'
  · exact .inl hdot
  · obtain ⟨part, hpart, hmem⟩ := (Text.mem_pieces_iff hdot).2 hc
    rw [pieces_text] at hpart
    obtain ⟨n, -, rfl⟩ := List.mem_map.1 hpart
    exact .inr (isDigit_of_mem_decimal hmem)

end Ipv4

/-! ### Characters of addresses -/

theorem ascii_of_isDigit {base : Nat} {c : Char} (h : Text.isDigit base c = true) :
    c.toNat < 0x80 := by
  have hle : ∀ d : Char, c ≤ d → d.toNat < 0x80 → c.toNat < 0x80 := fun d hcd hd =>
    Nat.lt_of_le_of_lt (show c.val.toNat ≤ d.val.toNat from hcd) hd
  rw [Text.isDigit, Text.digitValue?] at h
  split at h
  · next hrange => exact hle '9' hrange.2 (by decide)
  · split at h
    · next hrange => exact hle 'f' hrange.2 (by decide)
    · split at h
      · next hrange => exact hle 'F' hrange.2 (by decide)
      · cases h

/-- A part that is a number is in ASCII. -/
theorem AddressPart.ascii_of_number? {part : List Char} {n : Nat}
    (h : (AddressPart.ofText part).number? = some n) : ∀ c ∈ part, c.toNat < 0x80 := by
  have hdigits : ∀ {base : Nat} {ds : List Char} {n : Nat},
      (AddressPart.ofDigits base ds).number? = some n → ∀ c ∈ ds, c.toNat < 0x80 := by
    intro base ds n h c hc
    rw [AddressPart.ofDigits] at h
    split at h
    · next hread => exact ascii_of_isDigit (Text.isDigit_of_numberFrom? hread c hc)
    · cases h
  rw [AddressPart.ofText.eq_def] at h
  split at h
  · simp
  · simpa using hdigits h
  · simpa using hdigits h
  · simp
  · simpa using hdigits h
  · exact hdigits h

/-- Every member of a list that is read throughout is read. -/
theorem exists_of_mapM {α β : Type} {f : α → Option β} {xs : List α} {ys : List β}
    (h : xs.mapM f = some ys) : ∀ x ∈ xs, ∃ y, f x = some y := by
  induction xs generalizing ys with
  | nil => simp
  | cons x xs ih =>
      simp only [List.mapM_cons, Option.bind_eq_bind, Option.bind_eq_some_iff] at h
      obtain ⟨y, hy, zs, hzs, -⟩ := h
      exact List.forall_mem_cons.2 ⟨⟨y, hy⟩, ih hzs⟩

/-- Only a piece with nothing in it is no part of an address. -/
theorem mem_addressParts {name piece : List Char} (hpiece : piece ∈ Text.pieces '.' name)
    (hne : piece ≠ []) : piece ∈ addressParts name := by
  rw [addressParts]
  split
  · next hlast =>
      obtain ⟨lead, hlead⟩ := List.getLast?_eq_some_iff.1 hlast
      rw [hlead, List.mem_append, List.mem_singleton] at hpiece
      rw [hlead, List.dropLast_concat]
      exact hpiece.resolve_right hne
  · exact hpiece

/-- **A name that stands for an address is in ASCII.** -/
theorem Ipv4.isAscii_of_ofName? {name : List Char} {a : Ipv4} (h : ofName? name = some a) :
    Domain.Label.isAscii name = true := by
  rw [Domain.isAscii_iff]
  intro c hc
  simp only [ofName?, Option.bind_eq_bind, Option.bind_eq_some_iff] at h
  obtain ⟨numbers, hnumbers, -⟩ := h
  by_cases hdot : c = '.'
  · subst hdot
    decide
  · obtain ⟨piece, hpiece, hmem⟩ := (Text.mem_pieces_iff hdot).2 hc
    obtain ⟨n, hn⟩ :=
      exists_of_mapM hnumbers piece (mem_addressParts hpiece (List.ne_nil_of_mem hmem))
    exact AddressPart.ascii_of_number? hn c hmem

end HostRouting.Url
