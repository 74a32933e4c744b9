/-
**Endings of encoded texts.**

Patterns compare octets and scripts compare 16-bit units, while both mean characters.  The two
encodings agree with the characters on endings because each shows where a character begins: one of
its units, and only the first, is marked as an opening one.  So no ending of an encoded text can
start in the middle of a character.

Main definitions:

* `SelfMarking` — a code whose words show where they begin;
* `Utf16.units` — the 16-bit units of a text.

Main results:

* `SelfMarking.flatMap_suffix_iff` — one encoded text ends another iff the texts do;
* `Utf8.encode_suffix_iff`, `Utf16.units_suffix_iff` — this for octets and for 16-bit units.
-/

import HostRouting.Text.Utf8
import Mathlib.Data.List.Induction

set_option autoImplicit false

namespace HostRouting

/-! ### Codes that show where a word begins -/

section

variable {α β : Type}

/-- Different symbols have different words, and the first unit of a word, and no other, is an
opening one. -/
structure SelfMarking (code : α → List β) (opens : β → Prop) : Prop where
  injective : ∀ a b, code a = code b → a = b
  word : ∀ a, ∃ x xs, code a = x :: xs ∧ opens x ∧ ∀ y ∈ xs, ¬ opens y

namespace SelfMarking

variable {code : α → List β} {opens : β → Prop}

theorem ne_nil (h : SelfMarking code opens) (a : α) : code a ≠ [] := by
  obtain ⟨x, xs, hx, -, -⟩ := h.word a
  rw [hx]
  exact List.cons_ne_nil x xs

/-- **No word ends in another one.** -/
theorem eq_of_suffix (h : SelfMarking code opens) {a b : α} (hab : code a <:+ code b) : a = b := by
  obtain ⟨x, xs, hx, hopen, -⟩ := h.word a
  obtain ⟨y, ys, hy, -, hrest⟩ := h.word b
  rw [hx, hy, List.suffix_cons_iff] at hab
  -- if the first word lay inside the second, a unit that opens a word would stand within it
  cases hab with
  | inl same => exact h.injective a b (by rw [hx, hy, same])
  | inr inside => exact absurd hopen (hrest x (inside.subset List.mem_cons_self))

theorem flatMap_suffix (h : SelfMarking code opens) (l : List α) :
    ∀ m : List α, l.flatMap code <:+ m.flatMap code → l <:+ m := by
  induction l using List.reverseRecOn with
  | nil =>
      intro m _
      exact List.nil_suffix
  | append_singleton l a ih =>
      intro m hm
      rcases List.eq_nil_or_concat m with rfl | ⟨m, b, rfl⟩
      · have hnil := List.flatMap_eq_nil_iff.1 (List.suffix_nil.1 hm) a (by simp)
        exact absurd hnil (h.ne_nil a)
      · simp only [List.concat_eq_append, List.flatMap_append, List.flatMap_singleton] at hm ⊢
        -- the two last words end the same text, so one of them ends the other
        have hends : code a <:+ m.flatMap code ++ code b := (List.suffix_append _ _).trans hm
        have hab : a = b := by
          rcases List.suffix_or_suffix_of_suffix hends (List.suffix_append _ _) with hs | hs
          · exact h.eq_of_suffix hs
          · exact (h.eq_of_suffix hs).symm
        subst hab
        rw [List.suffix_append_self_iff] at hm ⊢
        exact ih m hm

/-- **Endings are the same before and after encoding.** -/
theorem flatMap_suffix_iff (h : SelfMarking code opens) {l m : List α} :
    l.flatMap code <:+ m.flatMap code ↔ l <:+ m := by
  constructor
  · exact h.flatMap_suffix l m
  · rintro ⟨before, rfl⟩
    rw [List.flatMap_append]
    exact List.suffix_append _ _

end SelfMarking

end

/-! ### Octets -/

namespace Utf8

theorem utf8EncodeChar_injective (a b : Char)
    (h : String.utf8EncodeChar a = String.utf8EncodeChar b) : a = b := by
  have ha := ByteArray.utf8DecodeChar?_utf8EncodeChar_append (b := .empty) (c := a)
  rw [h, ByteArray.utf8DecodeChar?_utf8EncodeChar_append] at ha
  exact (Option.some.inj ha).symm

/-- UTF-8 shows where a character begins: only its first octet has one of the leading forms. -/
theorem selfMarking : SelfMarking String.utf8EncodeChar UInt8.IsUTF8FirstByte where
  injective := utf8EncodeChar_injective
  word c := by
    have hopens := @UInt8.isUTF8FirstByte_getElem_utf8EncodeChar c
    cases hw : String.utf8EncodeChar c with
    | nil =>
        have hlen := String.length_utf8EncodeChar c
        have hpos := c.utf8Size_pos
        rw [hw, List.length_nil] at hlen
        omega
    | cons x xs =>
        simp only [hw] at hopens
        refine ⟨x, xs, rfl, (@hopens 0 (by simp)).2 rfl, ?_⟩
        intro y hy hopen
        obtain ⟨i, hi, rfl⟩ := List.getElem_of_mem hy
        have hlate := (@hopens (i + 1) (by simp only [List.length_cons]; omega)).1 hopen
        omega

/-- One text ends another iff its octets end the octets of the other. -/
theorem encode_suffix_iff {l m : List Char} : encode l <:+ encode m ↔ l <:+ m :=
  selfMarking.flatMap_suffix_iff

end Utf8

/-! ### 16-bit units -/

namespace Utf16

/-- The 16-bit units of a character: one, or a high and a low surrogate. -/
def ofChar (c : Char) : List Nat :=
  if c.toNat < 0x10000 then [c.toNat]
  else [0xD800 + (c.toNat - 0x10000) / 0x400, 0xDC00 + (c.toNat - 0x10000) % 0x400]

/-- The 16-bit units of a text. -/
def units (cs : List Char) : List Nat := cs.flatMap ofChar

/-- Whether a unit is no low surrogate. -/
def Opens (u : Nat) : Prop := u < 0xDC00 ∨ 0xDFFF < u

theorem ofChar_injective (a b : Char) (h : ofChar a = ofChar b) : a = b := by
  have hn : a.toNat = b.toNat := by
    unfold ofChar at h
    split at h <;> split at h
    · exact (List.cons.inj h).1
    · simp at h
    · simp at h
    · simp only [List.cons.injEq, and_true] at h
      omega
  exact Char.toNat_inj.1 hn

/-- 16-bit units show where a character begins: only its first unit is no low surrogate. -/
theorem selfMarking : SelfMarking ofChar Opens where
  injective := ofChar_injective
  word c := by
    have hvalid : c.toNat < 0xD800 ∨ 0xDFFF < c.toNat ∧ c.toNat < 0x110000 := c.valid
    unfold ofChar Opens
    split
    · exact ⟨_, [], rfl, by omega, by simp⟩
    · refine ⟨_, _, rfl, by omega, ?_⟩
      intro y hy
      rw [List.mem_singleton] at hy
      omega

/-- One text ends another iff its units end the units of the other. -/
theorem units_suffix_iff {l m : List Char} : units l <:+ units m ↔ l <:+ m :=
  selfMarking.flatMap_suffix_iff

end Utf16

end HostRouting
