/-
**Patterns and their texts.**

A text is a pattern by its length and its characters alone.  The length is tested in octets, but
before the characters are looked at; as every character that may stand in a pattern is one octet,
the test comes to the same as one in characters.  The form of a pattern is decided by how its text
begins, and each form is written with its own beginning, so a text is parsed to the one pattern that
is written as that text.  A pattern that was put together by hand may hold any text; a condition is
made of it exactly if it could have been parsed.

Main definitions:

* `Pattern.IsPatternChar`, `Pattern.IsPatternText` — the characters and the texts of patterns.

Main results:

* `Pattern.isValid_iff_isPatternText` — what the test of a text comes to;
* `Pattern.ofValid_text` — the text of a pattern has the form of that pattern;
* `Pattern.parse_eq_ok_iff` — a text is parsed to the pattern that is written as that text;
* `Pattern.parse_corresponds` — **patterns and texts, one for one**.
-/

import HostRouting.Proofs.Pattern.Parsed
import HostRouting.Script.Expr

set_option autoImplicit false

namespace HostRouting.Pattern

/-! ### Texts of patterns -/

/-- The characters that may stand in a pattern. -/
def IsPatternChar (c : Char) : Prop :=
  ('a' ≤ c ∧ c ≤ 'z') ∨ ('A' ≤ c ∧ c ≤ 'Z') ∨ ('0' ≤ c ∧ c ≤ '9') ∨
    c = '*' ∨ c = '.' ∨ c = '?' ∨ c = '-'

/-- The texts of patterns. -/
structure IsPatternText (text : String) : Prop where
  length_pos : 1 ≤ text.length
  length_le : text.length ≤ 255
  isPatternChar : ∀ c ∈ text.toList, IsPatternChar c

instance (c : Char) : Decidable (IsPatternChar c) := inferInstanceAs (Decidable (_ ∨ _))

theorem admits_iff {c : Char} : admits c = true ↔ IsPatternChar c := by
  have halphanum : c.isAlphanum
      = ((decide (65 ≤ c.val ∧ c.val ≤ 90) || (97 ≤ c.val && c.val ≤ 122))
        || (48 ≤ c.val && c.val ≤ 57)) := rfl
  have hranges : c.isAlphanum = true ↔
      ('a' ≤ c ∧ c ≤ 'z') ∨ ('A' ≤ c ∧ c ≤ 'Z') ∨ ('0' ≤ c ∧ c ≤ '9') := by
    rw [halphanum, or_left_comm, ← or_assoc]
    simp only [Bool.or_eq_true, Bool.and_eq_true, decide_eq_true_eq]
    rfl
  simp only [admits, IsPatternChar, Bool.or_eq_true, beq_iff_eq, hranges, or_assoc]

/-- Characters of ASCII are one octet each. -/
theorem utf8ByteSize_of_ascii {cs : List Char} (h : ∀ c ∈ cs, c.toNat ≤ 0x7F) :
    (String.ofList cs).utf8ByteSize = cs.length := by
  induction cs with
  | nil => rfl
  | cons c cs ih =>
      have hc : c.utf8Size = 1 := if_pos (h c List.mem_cons_self)
      have hcons : String.ofList (c :: cs) = String.singleton c ++ String.ofList cs := by
        rw [← String.toList_inj]
        simp
      rw [hcons, String.utf8ByteSize_append, String.utf8ByteSize_singleton, hc,
        ih fun d hd => h d (List.mem_cons_of_mem c hd), List.length_cons, Nat.add_comm]

/-- The octets of a text of admitted characters are as many as its characters. -/
theorem utf8ByteSize_of_admits {text : String} (h : ∀ c ∈ text.toList, admits c = true) :
    text.utf8ByteSize = text.length := by
  have hascii : ∀ c ∈ text.toList, c.toNat ≤ 0x7F := by
    intro c hc
    have hvisible := visible_of_admits (h c hc)
    omega
  have hsize := utf8ByteSize_of_ascii hascii
  rwa [String.ofList_toList, String.length_toList] at hsize

theorem isValid_iff_admits {text : String} :
    isValid text = true ↔
      text ≠ "" ∧ text.utf8ByteSize ≤ maxLength ∧ ∀ c ∈ text.toList, admits c = true := by
  rw [isValid_iff, fault?]
  split
  · next hempty => simp [String.isEmpty_iff.1 hempty]
  · next hempty =>
      have hne : text ≠ "" := fun h => hempty (String.isEmpty_iff.2 h)
      split
      · next hlong => simp [Nat.not_le.2 hlong]
      · next hshort => simp [hne, Nat.le_of_not_lt hshort]

/-- **A valid text has 1 to 255 characters, all of which may stand in a pattern.** -/
theorem isValid_iff_isPatternText {text : String} :
    isValid text = true ↔ IsPatternText text := by
  rw [isValid_iff_admits]
  constructor
  · rintro ⟨hne, hsize, hadmits⟩
    rw [utf8ByteSize_of_admits hadmits] at hsize
    refine ⟨?_, hsize, fun c hc => admits_iff.1 (hadmits c hc)⟩
    rw [Nat.one_le_iff_ne_zero, ne_eq, ← String.length_toList, List.length_eq_zero_iff,
      String.toList_eq_nil_iff]
    exact hne
  · rintro ⟨hpos, hle, hchars⟩
    have hadmits : ∀ c ∈ text.toList, admits c = true := fun c hc => admits_iff.2 (hchars c hc)
    refine ⟨?_, ?_, hadmits⟩
    · rintro rfl
      exact absurd hpos (by decide)
    · rw [utf8ByteSize_of_admits hadmits]
      exact hle

/-! ### Forms -/

/-- Each form begins in its own way, so the text of a pattern has the form of that pattern. -/
theorem ofValid_text (p : Pattern) (h : isValid p.text = true) : ofValid p.text h = p := by
  cases p with
  | dotted base =>
      have hd : afterDot? (dotted base).text.toList = some base.toList := by
        rw [text_dotted, String.toList_append]
        rfl
      unfold ofValid
      split
      · next found hfound =>
          obtain rfl := Option.some.inj (hd.symm.trans hfound)
          rw [String.ofList_toList]
      · next hnone => exact absurd (hd.symm.trans hnone) (Option.some_ne_none _)
  | starred base =>
      have htext : (starred base).text.toList = '*' :: '.' :: base.toList := by
        rw [text_starred, String.toList_append]
        rfl
      have hd : afterDot? (starred base).text.toList = none := by
        rw [htext]
        rfl
      have hs : afterStarDot? (starred base).text.toList = some base.toList := by
        rw [htext]
        rfl
      unfold ofValid
      split
      · next found hfound => exact absurd (hfound.symm.trans hd) (Option.some_ne_none _)
      · split
        · next found hfound =>
            obtain rfl := Option.some.inj (hs.symm.trans hfound)
            rw [String.ofList_toList]
        · next hnone => exact absurd (hs.symm.trans hnone) (Option.some_ne_none _)
  | glob g =>
      have hglob := g.isGlob_source
      simp only [isGlob, Bool.and_eq_true, Option.isNone_iff_eq_none] at hglob
      obtain ⟨⟨-, hd⟩, hs⟩ := hglob
      unfold ofValid
      split
      · next found hfound => exact absurd (hfound.symm.trans hd) (Option.some_ne_none _)
      · split
        · next found hfound => exact absurd (hfound.symm.trans hs) (Option.some_ne_none _)
        · rfl

/-- **A text is parsed to the pattern that is written as that text**, if it is valid. -/
theorem parse_eq_ok_iff {text : String} {p : Pattern} :
    parse text = .ok p ↔ IsPatternText text ∧ p.text = text := by
  constructor
  · intro h
    have hvalid := isValid_of_parse h
    rw [text_of_parse h] at hvalid
    exact ⟨isValid_iff_isPatternText.1 hvalid, text_of_parse h⟩
  · rintro ⟨htext, rfl⟩
    have hvalid := isValid_iff_isPatternText.2 htext
    rw [parse_of_isValid hvalid, ofValid_text p hvalid]

theorem exists_parse_iff {text : String} :
    (∃ p, parse text = .ok p) ↔ IsPatternText text := by
  constructor
  · rintro ⟨p, hp⟩
    exact (parse_eq_ok_iff.1 hp).1
  · intro h
    have hvalid := isValid_iff_isPatternText.2 h
    exact ⟨ofValid text hvalid, parse_of_isValid hvalid⟩

/-- Valid texts that are parsed to the same are the same. -/
theorem parse_inj {a b : String} (ha : IsPatternText a) : parse a = parse b ↔ a = b := by
  constructor
  · intro h
    obtain ⟨p, hp⟩ := exists_parse_iff.2 ha
    rw [← text_of_parse hp, text_of_parse (h ▸ hp)]
  · rintro rfl
    rfl

/-- A condition is made of a pattern exactly if its text is parsed to it. -/
theorem condition?_eq (p : Pattern) :
    Script.condition? p = if parse p.text = .ok p then some (Script.condition p) else none := by
  have hparse : parse p.text = .ok p ↔ isValid p.text = true := by
    rw [parse_eq_ok_iff, isValid_iff_isPatternText]
    exact and_iff_left rfl
  simp only [Script.condition?, hparse]

/-- **Patterns and texts correspond one for one.**  A text is parsed if and only if it has 1 to 255
characters that may all stand in a pattern, and what it is parsed to is the one pattern that is
written as that text.  So two such texts are parsed to the same only if they are the same.  Of a
pattern, however it came about, there is a condition if and only if its text is parsed to that very
pattern, and it is the condition of what the text is parsed to. -/
theorem parse_corresponds :
    (∀ text, (∃ p, parse text = .ok p) ↔ IsPatternText text) ∧
      (∀ text p, parse text = .ok p ↔ IsPatternText text ∧ p.text = text) ∧
      (∀ a b, IsPatternText a → IsPatternText b → (parse a = parse b ↔ a = b)) ∧
      ∀ p, ((Script.condition? p).isSome = true ↔ parse p.text = .ok p) ∧
        ∀ q, parse p.text = .ok q → Script.condition? p = some (Script.condition q) := by
  refine ⟨fun _ => exists_parse_iff, fun _ _ => parse_eq_ok_iff, fun _ _ ha _ => parse_inj ha, ?_⟩
  intro p
  constructor
  · rw [condition?_eq]
    split
    · next h => simp [h]
    · next h => simp [h]
  · intro q hq
    -- what a text is parsed to is written as that text, and so is `p`
    have hsame : parse q.text = parse p.text := by rw [text_of_parse hq]
    have hp : parse p.text = .ok p := parse_eq_ok_iff.2 ⟨(parse_eq_ok_iff.1 hq).1, rfl⟩
    obtain rfl : p = q := Except.ok.inj (hp.symm.trans hq)
    rw [condition?_eq, if_pos hp]

/-- A text that begins with a full stop is the form with a base, even if the base looks like another
form, star and all.  A base with a quotation mark in it could end the text that it is written into;
no condition is made of it. -/
theorem parse_corresponds_stars :
    IsPatternText ".*.cn" ∧ IsPatternText "*.cn" ∧ parse ".*.cn" ≠ parse "*.cn" ∧
      parse (dotted "*.cn").text = .ok (dotted "*.cn") ∧
      Script.condition? (dotted "*.cn") = some (Script.condition (dotted "*.cn")) ∧
      Script.condition? (starred "cn\") || (\"") = none := by
  obtain ⟨-, hparse, hinj, hcondition⟩ := parse_corresponds
  have hdot : IsPatternText ".*.cn" := isValid_iff_isPatternText.1 rfl
  have hstar : IsPatternText "*.cn" := isValid_iff_isPatternText.1 rfl
  have hform : parse (dotted "*.cn").text = .ok (dotted "*.cn") := (hparse _ _).2 ⟨hdot, rfl⟩
  have hquoted : ¬IsPatternText (starred "cn\") || (\"").text := by
    intro h
    exact absurd (h.isPatternChar '"' (by decide)) (by decide)
  refine ⟨hdot, hstar, ?_, hform, (hcondition _).2 _ hform, ?_⟩
  · intro hsame
    exact absurd ((hinj _ _ hdot hstar).1 hsame) (by decide)
  · rw [Option.eq_none_iff_forall_not_mem]
    intro e he
    have hsome := (hcondition _).1.1 (Option.isSome_iff_exists.2 ⟨e, he⟩)
    exact hquoted ((hparse _ _).1 hsome).1

end HostRouting.Pattern
