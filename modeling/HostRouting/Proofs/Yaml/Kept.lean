/-
**Texts that YAML keeps.**

Of a text that JSON writes, YAML keeps every character unless it is not allowed or stands where
lines are folded.  Folding never makes a text longer, and it loses something exactly where a space
stands beside a line end; so whether a text is kept shows in each pair of neighbouring characters,
apart from the mark of a document that begins a line.

Main definitions:

* `Yaml.reread?` — what YAML makes of a text that JSON writes, if it allows the text at all;
* `Yaml.isKept` — whether that is the text itself, told from neighbouring characters.

Main results:

* `Yaml.length_le_of_refolded?` — folding makes no text longer;
* `Yaml.isToldByNeighbours` — what decides whether a text stays as it is behind a gap;
* `Yaml.reread?_eq_some_iff` — **a text is kept iff it is told so from neighbouring characters**.
-/

import HostRouting.Proofs.Yaml.Refolding

set_option autoImplicit false

namespace HostRouting.Yaml

/-! ### Neighbouring characters -/

/-- Whether `c` can be kept at all: JSON writes it so that YAML allows it, and it is no next-line
character. -/
def isKeptCharacter (c : Char) : Bool :=
  c.toNat < 0x7F || (0xA0 ≤ c.toNat && c.toNat ≤ 0xFFFD) || 0x10000 ≤ c.toNat

/-- Whether `c` is kept in front of a text.  A line end takes a space on either side of it away, and
no line may begin with the mark of a document. -/
def isKeptBefore (c : Char) (cs : List Char) : Bool :=
  if isSeparator c then cs.head? != some ' ' && !beginsWithDocumentMark (written cs)
  else if c = ' ' then !cs.head?.any isSeparator
  else true

/-- Whether YAML makes of a text that JSON writes the text itself. -/
def isKept : List Char → Bool
  | [] => true
  | c :: cs => isKeptCharacter c && isKeptBefore c cs && isKept cs

/-! ### What gets lost -/

/-- What was passed in a gap. -/
def Gap.characters : Gap → List Char
  | .none | .escaping => []
  | .blanks cs | .breaks cs | .escaped cs => cs

/-- Whether the text of a gap is what was passed in it. -/
def Gap.IsWhole : Gap → Prop
  | .none => True
  | .blanks cs => cs ≠ []
  | .breaks cs => '\n' ∉ cs
  | .escaping | .escaped _ => False

/-- Whether all of a gap is kept in front of a text. -/
def Gap.isKeptBefore (g : Gap) (cs : List Char) : Bool :=
  match g with
  | .blanks _ => !cs.head?.any isSeparator
  | .breaks _ => cs.head? != some ' '
  | _ => true

theorem Gap.IsWhole.text_eq {g : Gap} (h : g.IsWhole) : g.text = g.characters := by
  cases g with
  | breaks cs =>
      have hnot : '\n' ∉ cs := h
      change folded cs = cs
      unfold folded
      split
      · exact absurd List.mem_cons_self hnot
      · exact absurd List.mem_cons_self hnot
      · rfl
  | none | blanks | escaping | escaped => rfl

theorem Gap.length_text_le (g : Gap) : g.text.length ≤ g.characters.length := by
  cases g with
  | breaks cs =>
      change (folded cs).length ≤ cs.length
      unfold folded
      split
      · exact Nat.le_refl _
      · exact Nat.le_succ _
      · exact Nat.le_refl _
  | none | blanks | escaping | escaped => exact Nat.le_refl _

theorem Gap.mem_text {g : Gap} {x : Char} (h : x ∈ g.text) : x = ' ' ∨ x ∈ g.characters := by
  cases g with
  | breaks cs =>
      change x ∈ folded cs at h
      unfold folded at h
      split at h
      · exact .inl (List.mem_singleton.1 h)
      · exact .inr (List.mem_cons_of_mem _ h)
      · exact .inr h
  | none | blanks | escaping | escaped => exact .inr h

/-- A text gets no longer. -/
theorem length_le_of_refolded? (cs : List Char) : ∀ {g : Gap} {atStart : Bool} {text : List Char},
    refolded? g atStart cs = some text → text.length ≤ g.characters.length + cs.length := by
  induction cs with
  | nil =>
      rintro g atStart text ⟨⟩
      exact g.length_text_le
  | cons c cs ih =>
      intro g atStart text h
      rw [refolded?] at h
      split at h
      · have hgap : (g.lineEnd c).characters.length ≤ g.characters.length + 1 := by
          cases g <;> simp [Gap.lineEnd, Gap.characters]
        have hle := ih h
        rw [List.length_cons]
        omega
      split at h
      · have hgap : (g.blank c).characters.length ≤ g.characters.length + 1 := by
          cases g <;> simp [Gap.blank, Gap.characters]
        have hle := ih h
        rw [List.length_cons]
        omega
      split at h
      · cases h
      · obtain ⟨rest, hrest, rfl⟩ := Option.map_eq_some_iff.1 h
        have hle : rest.length ≤ 0 + cs.length := ih hrest
        have hgap := g.length_text_le
        simp only [List.length_append, List.length_cons, List.length_nil]
        omega

/-- No next-line character is left. -/
theorem not_mem_of_refolded? (cs : List Char) : ∀ {g : Gap} {atStart : Bool} {text : List Char},
    '\u0085' ∉ g.characters → refolded? g atStart cs = some text → '\u0085' ∉ text := by
  induction cs with
  | nil =>
      rintro g atStart text hnot ⟨⟩ hmem
      rcases Gap.mem_text hmem with h | h
      · exact absurd h (by decide)
      · exact hnot h
  | cons c cs ih =>
      intro g atStart text hnot h
      rw [refolded?] at h
      split at h
      · refine ih ?_ h
        have hbreak : '\u0085' ≠ breakText c := by
          unfold breakText
          split
          · next hc =>
              rintro rfl
              exact absurd hc (by decide)
          · decide
        cases g <;> simp_all [Gap.lineEnd, Gap.characters]
      split at h
      · next hc =>
          refine ih ?_ h
          subst hc
          cases g <;> simp_all [Gap.blank, Gap.characters]
      split at h
      · cases h
      · next hseparator _ _ =>
          obtain ⟨rest, hrest, rfl⟩ := Option.map_eq_some_iff.1 h
          have hne : '\u0085' ≠ c := by
            rintro rfl
            exact hseparator rfl
          have htext : '\u0085' ∉ g.text := fun hmem =>
            (Gap.mem_text hmem).elim (fun h => absurd h (by decide)) hnot
          simp only [List.mem_append, List.mem_singleton, not_or]
          exact ⟨⟨htext, hne⟩, ih (by simp [Gap.characters]) hrest⟩

/-! ### Texts that are kept -/

theorem allowed_escaped (c : Char) :
    (Json.escaped c).all isAllowed = (isKeptCharacter c || c == '\u0085') := by
  by_cases hlow : c.toNat < 0x20
  · have hall : ∀ n < 0x20, (Json.escaped (Char.ofNat n)).all isAllowed = true := by
      decide +kernel
    have hkept : isKeptCharacter c = true := by
      have hlt : c.toNat < 0x7F := by omega
      simp [isKeptCharacter, hlt]
    have hescaped := hall c.toNat hlow
    rw [Char.ofNat_toNat] at hescaped
    rw [hescaped, hkept, Bool.true_or]
  by_cases hquote : c = '"'
  · rw [hquote]
    decide
  by_cases hback : c = '\\'
  · rw [hback]
    decide
  by_cases hnext : c = '\u0085'
  · rw [hnext]
    decide
  · have hne (d : Char) (hd : d.toNat < 0x20) : c ≠ d := by
      rintro rfl
      exact hlow hd
    have hescaped : Json.escaped c = [c] := by
      simp [Json.escaped, hquote, hback, hlow, hne '\x08' (by decide), hne '\x0C' (by decide),
        hne '\n' (by decide), hne '\r' (by decide), hne '\t' (by decide)]
    rw [hescaped, Bool.eq_iff_iff]
    simp only [List.all_cons, List.all_nil, isAllowed, isKeptCharacter, Bool.and_true,
      Bool.or_eq_true, Bool.and_eq_true, beq_iff_eq, decide_eq_true_eq, hne '\n' (by decide),
      hne '\r' (by decide), hne '\t' (by decide), hnext, false_or, or_false]
    omega

theorem beginsWithDocumentMark_written_blank {c : Char} (h : isSeparator c = true ∨ c = ' ')
    (cs : List Char) : beginsWithDocumentMark (written (c :: cs)) = false := by
  obtain ⟨hdash, hdot, hescaped⟩ : c ≠ '-' ∧ c ≠ '.' ∧ Json.escaped c = [c] := by
    simp only [isSeparator, Bool.or_eq_true, beq_iff_eq] at h
    rcases h with ((rfl | rfl) | rfl) | rfl <;> decide
  rw [written_cons, hescaped, List.singleton_append, beginsWithDocumentMark,
    beginsWithMark_of_ne hdash, beginsWithMark_of_ne hdot]
  rfl

/-- What decides whether a text stays as it is behind a gap that has done so: it has to be kept, and
so have the gap in front of it and the line that it begins. -/
def IsToldByNeighbours (cs : List Char) : Prop :=
  ∀ {g : Gap} {atStart : Bool}, g.IsWhole →
    (refolded? g atStart cs = some (g.characters ++ cs) ↔
      g.isKeptBefore cs = true ∧ (atStart && beginsWithDocumentMark (written cs)) = false ∧
        isKept cs = true)

section

variable {c : Char} {cs : List Char}

/-- What is lost in a gap makes the text shorter. -/
theorem refolded?_ne_of_shorter {g k : Gap} (hlt : k.characters.length ≤ g.characters.length)
    (atStart : Bool) : refolded? k atStart cs ≠ some (g.characters ++ c :: cs) := by
  intro h
  have hle := length_le_of_refolded? cs h
  simp only [List.length_append, List.length_cons] at hle
  omega

/-- A space stays behind others, and behind no line end. -/
theorem isToldByNeighbours_space (ih : IsToldByNeighbours cs) :
    IsToldByNeighbours (' ' :: cs) := by
  intro g atStart hwhole
  have hseparator : ¬isSeparator ' ' = true := by decide
  have hkept : isKeptCharacter ' ' = true := by decide
  rw [refolded?, isKept, isKeptBefore, hkept, Bool.true_and, if_neg hseparator, if_pos rfl,
    if_neg hseparator, if_pos rfl, beginsWithDocumentMark_written_blank (.inr rfl),
    Bool.and_false]
  cases g with
  | none =>
      have hiff := @ih (.blanks [' ']) false (by simp [Gap.IsWhole])
      simpa [Gap.blank, Gap.characters, Gap.isKeptBefore] using hiff
  | blanks bs =>
      have hiff := @ih (.blanks (bs ++ [' '])) false (by simp [Gap.IsWhole])
      simpa [Gap.blank, Gap.characters, Gap.isKeptBefore, hseparator] using hiff
  | breaks bs =>
      simpa [Gap.isKeptBefore, Gap.blank] using
        refolded?_ne_of_shorter (g := .breaks bs) (Nat.le_refl _) false
  | escaping | escaped => exact hwhole.elim

variable (hc : isKeptCharacter c = true) (ih : IsToldByNeighbours cs)

include hc ih

/-- A line end stays behind others, and behind no blank. -/
theorem isToldByNeighbours_separator (h : isSeparator c = true) :
    IsToldByNeighbours (c :: cs) := by
  intro g atStart hwhole
  obtain ⟨htext, hnot, hhead⟩ : breakText c = c ∧ '\n' ≠ c ∧ c ≠ ' ' := by
    simp only [isSeparator, Bool.or_eq_true, beq_iff_eq] at h
    rcases h with (rfl | rfl) | rfl
    · exact absurd hc (by decide)
    · decide
    · decide
  rw [refolded?, isKept, isKeptBefore, hc, Bool.true_and, if_pos h, if_pos h,
    beginsWithDocumentMark_written_blank (.inl h), Bool.and_false]
  cases g with
  | none =>
      have hiff := @ih (.breaks [c]) true (by simpa [Gap.IsWhole] using hnot)
      simpa [Gap.lineEnd, htext, Gap.characters, Gap.isKeptBefore, and_assoc] using hiff
  | blanks bs =>
      have hpos : 0 < bs.length := List.length_pos_iff.2 hwhole
      simpa [Gap.isKeptBefore, h, Gap.lineEnd] using
        refolded?_ne_of_shorter (g := .blanks bs) (k := .breaks [breakText c]) hpos true
  | breaks bs =>
      have hiff := @ih (.breaks (bs ++ [c])) true (by simpa [Gap.IsWhole, hnot] using hwhole)
      simpa [Gap.lineEnd, htext, Gap.characters, Gap.isKeptBefore, and_assoc, hhead] using hiff
  | escaping | escaped => exact hwhole.elim

/-- Any other character stays unless it begins the mark of a document. -/
theorem isToldByNeighbours_other (hseparator : ¬isSeparator c = true) (hspace : c ≠ ' ') :
    IsToldByNeighbours (c :: cs) := by
  intro g atStart hwhole
  have hiff := @ih .none false trivial
  have hgap : g.isKeptBefore (c :: cs) = true := by
    cases g <;> simp [Gap.isKeptBefore, hseparator, hspace]
  rw [refolded?, isKept, isKeptBefore, hc, Bool.true_and, if_neg hseparator, if_neg hspace,
    if_neg hseparator, if_neg hspace, hwhole.text_eq, hgap]
  split
  · next hmark => simp [hmark]
  · next hmark => simpa [hmark, Gap.characters, Gap.isKeptBefore] using hiff

end

theorem isToldByNeighbours (cs : List Char) (hkept : ∀ c ∈ cs, isKeptCharacter c = true) :
    IsToldByNeighbours cs := by
  induction cs with
  | nil =>
      intro g atStart hwhole
      have hmark : beginsWithDocumentMark (written []) = false := rfl
      rw [refolded?, hwhole.text_eq, List.append_nil, hmark, Bool.and_false]
      cases g <;> simp [Gap.isKeptBefore, isKept]
  | cons c cs ih =>
      obtain ⟨hc, hcs⟩ := List.forall_mem_cons.1 hkept
      by_cases hseparator : isSeparator c = true
      · exact isToldByNeighbours_separator hc (ih hcs) hseparator
      by_cases hspace : c = ' '
      · subst hspace
        exact isToldByNeighbours_space (ih hcs)
      · exact isToldByNeighbours_other hc (ih hcs) hseparator hspace

/-- What YAML makes of a text that JSON writes. -/
def reread? (cs : List Char) : Option (List Char) :=
  if (written cs).all isAllowed then refolded? .none false cs else none

theorem allowed_written (cs : List Char) :
    (written cs).all isAllowed = true ↔ ∀ c ∈ cs, isKeptCharacter c = true ∨ c = '\u0085' := by
  have hquote : isAllowed '"' = true := by decide
  simp only [written, List.all_append, List.all_flatMap, List.all_cons, List.all_nil, hquote,
    Bool.and_true, allowed_escaped]
  simp only [List.all_eq_true, Bool.or_eq_true, beq_iff_eq]

theorem isKeptCharacter_of_isKept {cs : List Char} (h : isKept cs = true) :
    ∀ c ∈ cs, isKeptCharacter c = true := by
  induction cs with
  | nil => simp
  | cons c cs ih =>
      simp only [isKept, Bool.and_eq_true] at h
      exact List.forall_mem_cons.2 ⟨h.1.1, ih h.2⟩

/-- **A text is kept iff it is told so from neighbouring characters.** -/
theorem reread?_eq_some_iff (cs : List Char) : reread? cs = some cs ↔ isKept cs = true := by
  have hiff (hkept : ∀ c ∈ cs, isKeptCharacter c = true) :
      refolded? .none false cs = some cs ↔ isKept cs = true := by
    have hwhole := @isToldByNeighbours cs hkept .none false trivial
    simpa [Gap.characters, Gap.isKeptBefore] using hwhole
  rw [reread?]
  constructor
  · intro h
    split at h
    · next hallowed =>
        refine (hiff fun c hc => ?_).1 h
        have hnot : '\u0085' ∉ cs := not_mem_of_refolded? cs (by simp [Gap.characters]) h
        exact ((allowed_written cs).1 hallowed c hc).resolve_right fun he => hnot (he ▸ hc)
    · cases h
  · intro h
    have hkept := isKeptCharacter_of_isKept h
    rw [if_pos ((allowed_written cs).2 fun c hc => .inl (hkept c hc)), hiff hkept]
    exact h

end HostRouting.Yaml
