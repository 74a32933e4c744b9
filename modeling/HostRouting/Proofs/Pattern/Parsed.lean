/-
**What a parsed pattern is.**

Parsing keeps the text: the pattern of a text has that text, and the text is valid, so every
character of it may stand in a pattern.  The octet comparison behind `.base` and `*.base` means what
it says about characters: the host ends in a full stop and the base.

Main results:

* `Pattern.parse_of_isValid` — every valid text parses;
* `Pattern.text_of_parse`, `Pattern.isValid_of_parse` — the text of a parsed pattern;
* `Pattern.admits_of_isValid` — the characters of a valid text, none of which ends a line;
* `Pattern.visible_of_admits` — they are visible, so none of them is blank;
* `Pattern.isSubdomain_iff` — the hosts below a base, in characters.
-/

import HostRouting.Pattern.Basic
import HostRouting.Proofs.Text.Alphanum
import HostRouting.Proofs.Text.SuffixCode

set_option autoImplicit false

namespace HostRouting.Pattern

/-! ### Texts -/

theorem eq_of_afterDot? {cs base : List Char} (h : afterDot? cs = some base) :
    cs = '.' :: base := by
  unfold afterDot? at h
  split at h
  · rw [Option.some.inj h]
  · simp at h

theorem eq_of_afterStarDot? {cs base : List Char} (h : afterStarDot? cs = some base) :
    cs = '*' :: '.' :: base := by
  unfold afterStarDot? at h
  split at h
  · rw [Option.some.inj h]
  · simp at h

/-- Every form is written the way it was read. -/
theorem text_ofValid (text : String) (h : isValid text = true) : (ofValid text h).text = text := by
  unfold ofValid
  split
  · rename_i base hd
    rw [text_dotted, ← String.toList_inj, String.toList_append, eq_of_afterDot? hd]
    simp
  · split
    · rename_i base hs
      rw [text_starred, ← String.toList_inj, String.toList_append, eq_of_afterStarDot? hs]
      simp
    · rfl

/-- A text that parses is valid, and what it parses to is the form of that text. -/
theorem parse_eq_ok {text : String} {p : Pattern} (h : parse text = .ok p) :
    ∃ hv : isValid text = true, ofValid text hv = p := by
  unfold parse at h
  split at h
  · cases h
  · rename_i hf
    exact ⟨isValid_iff.2 hf, Except.ok.inj h⟩

/-- A valid text parses. -/
theorem parse_of_isValid {text : String} (h : isValid text = true) :
    parse text = .ok (ofValid text h) := by
  unfold parse
  split
  · next fault hfault =>
      rw [isValid_iff, hfault] at h
      cases h
  · rfl

/-- **Parsing keeps the text.** -/
theorem text_of_parse {text : String} {p : Pattern} (h : parse text = .ok p) : p.text = text := by
  obtain ⟨hv, rfl⟩ := parse_eq_ok h
  exact text_ofValid text hv

theorem isValid_of_parse {text : String} {p : Pattern} (h : parse text = .ok p) :
    isValid p.text = true := by
  rw [text_of_parse h]
  exact (parse_eq_ok h).1

/-- Every character of a valid text may stand in a pattern. -/
theorem admits_of_isValid {text : String} (h : isValid text = true) :
    ∀ c ∈ text.toList, admits c = true := by
  rw [isValid_iff, fault?] at h
  split at h
  · cases h
  · split at h
    · cases h
    · rw [Option.map_eq_none_iff, List.find?_eq_none] at h
      intro c hc
      simpa using h c hc

/-! ### Characters -/

theorem ne_of_admits {c d : Char} (hc : admits c = true) (hd : admits d = false) : c ≠ d := by
  rintro rfl
  rw [hc] at hd
  exact absurd hd (by decide)

/-- No character of a pattern ends a line. -/
theorem isLineTerminator_of_admits {c : Char} (h : admits c = true) :
    Glob.isLineTerminator c = false := by
  have h₁ : c ≠ '\n' := ne_of_admits h (by decide)
  have h₂ : c ≠ '\r' := ne_of_admits h (by decide)
  have h₃ : c ≠ '\u2028' := ne_of_admits h (by decide)
  have h₄ : c ≠ '\u2029' := ne_of_admits h (by decide)
  simp [Glob.isLineTerminator, h₁, h₂, h₃, h₄]

/-- Every character of a pattern is visible and in ASCII. -/
theorem visible_of_admits {c : Char} (h : admits c = true) :
    0x20 < c.toNat ∧ c.toNat ≤ 0x7E := by
  simp only [admits, Bool.or_eq_true, beq_iff_eq] at h
  rcases h with (((h | rfl) | rfl) | rfl) | rfl
  · have hprintable := Text.toNat_of_isAlphanum h
    have hspace : c.toNat ≠ 0x20 := fun hc =>
      Text.ne_of_isAlphanum h (d := ' ') (by decide) (Char.toNat_inj.1 hc)
    omega
  all_goals decide

theorem admits_of_isDigit {c : Char} (h : c.isDigit = true) : admits c = true := by
  simp [admits, Char.isAlphanum, h]

/-! ### Hosts below a base -/

/-- The octets of a host end in a full stop and the octets of a base. -/
theorem isBelow_iff (host base : List UInt8) :
    isBelow host base = true ↔ 0x2E :: base <:+ host := by
  rw [isBelow, Bool.and_eq_true, Bool.and_eq_true, decide_eq_true_eq, List.isSuffixOf_iff_suffix,
    beq_iff_eq]
  constructor
  · rintro ⟨⟨hlen, before, rfl⟩, hdot⟩
    rcases List.eq_nil_or_concat before with rfl | ⟨before, b, rfl⟩
    · rw [List.nil_append] at hlen
      omega
    · rw [List.concat_eq_append, List.append_assoc, List.singleton_append] at hdot ⊢
      have hindex : (before ++ b :: base).length - base.length - 1 = before.length := by
        rw [List.length_append, List.length_cons]
        omega
      rw [hindex, List.getElem?_append_right (Nat.le_refl _), Nat.sub_self] at hdot
      obtain rfl : b = 0x2E := Option.some.inj hdot
      exact List.suffix_append _ _
  · rintro ⟨before, rfl⟩
    have hindex : (before ++ 0x2E :: base).length - base.length - 1 = before.length := by
      rw [List.length_append, List.length_cons]
      omega
    refine ⟨⟨?_, ?_⟩, ?_⟩
    · rw [List.length_append, List.length_cons]
      omega
    · exact (List.suffix_cons _ _).trans (List.suffix_append _ _)
    · rw [hindex, List.getElem?_append_right (Nat.le_refl _), Nat.sub_self]
      rfl

/-- **A host lies below a base iff it ends in a full stop and the base.** -/
theorem isSubdomain_iff (host base : String) :
    isSubdomain host base = true ↔ '.' :: base.toList <:+ host.toList := by
  have hdot : 0x2E :: Utf8.encode base.toList = Utf8.encode ('.' :: base.toList) := rfl
  rw [isSubdomain, isBelow_iff, Utf8.encodeText, Utf8.encodeText, hdot, Utf8.encode_suffix_iff]

end HostRouting.Pattern
