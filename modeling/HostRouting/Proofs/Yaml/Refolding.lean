/-
**What YAML makes of a text in JSON quotes.**

JSON and YAML agree on the escapes that JSON writes, and on nearly every character that it leaves
as it is.  They disagree on three characters that end a line in YAML only.  Between double quotes
YAML folds lines: blanks around a line end are dropped, the next-line character becomes a line feed
and that becomes a space, and a line that begins with the mark of a document is refused.

Main definitions:

* `Yaml.isSeparator` — the characters that end a line in YAML and stand for themselves in JSON;
* `Yaml.written` — what JSON writes for a text;
* `Yaml.refolded?` — what YAML makes of it.

Main results:

* `Yaml.scanQuotedFrom?_written` — **scanning what JSON writes gives the refolded text**.
-/

import HostRouting.Proofs.Json.Literal
import HostRouting.Yaml.Scalar.Quoted

set_option autoImplicit false

namespace HostRouting.Yaml

/-! ### Escapes -/

/-- Whether `c` ends a line in YAML and is left as it is in JSON. -/
def isSeparator (c : Char) : Bool := c == '\u0085' || c == '\u2028' || c == '\u2029'

/-- A code unit below the space is read from its escape. -/
theorem escape?_codeEscape {c : Char} (h : c.toNat < 0x20) :
    ∃ es, Json.codeEscape c.toNat = '\\' :: 'u' :: es ∧
      ∀ rest, escape? ('u' :: (es ++ rest)) = some (c, es.length + 1) := by
  obtain ⟨d₁, d₂, d₃, d₄, hescape, hread⟩ := Json.exists_codeEscape (n := c.toNat) (by omega)
  refine ⟨[d₁, d₂, d₃, d₄], hescape, fun rest => ?_⟩
  have hchar : charOfDigits? [d₁, d₂, d₃, d₄] = some c := by
    rw [charOfDigits?, hread, Option.bind_some, charOfCode?, if_pos (.inl (by omega)),
      Char.ofNat_toNat]
  have htake : ([d₁, d₂, d₃, d₄] ++ rest).take 4 = [d₁, d₂, d₃, d₄] := rfl
  have hlength : ¬([d₁, d₂, d₃, d₄] ++ rest).length < 4 := by simp
  unfold escape?
  simp only [show simpleEscape? 'u' = none from rfl, show codeLength? 'u' = some 4 from rfl]
  rw [if_neg hlength, htake, hchar]
  rfl

/-- What JSON writes for a character is the character itself or an escape that YAML reads. -/
theorem escaped_eq_or (c : Char) :
    (Json.escaped c = [c] ∧ c ≠ '"' ∧ c ≠ '\\' ∧ 0x20 ≤ c.toNat) ∨
      ∃ e es, Json.escaped c = '\\' :: e :: es ∧ isBreak e = false ∧
        ∀ rest, escape? (e :: (es ++ rest)) = some (c, es.length + 1) := by
  have hletter {e : Char} (hread : simpleEscape? e = some c) (rest : List Char) :
      escape? (e :: ([] ++ rest)) = some (c, ([] : List Char).length + 1) := by
    unfold escape?
    simp only [hread]
    rfl
  unfold Json.escaped
  split
  · next h => exact .inr ⟨'"', [], rfl, rfl, hletter (by rw [h]; rfl)⟩
  split
  · next h => exact .inr ⟨'\\', [], rfl, rfl, hletter (by rw [h]; rfl)⟩
  split
  · next h => exact .inr ⟨'b', [], rfl, rfl, hletter (by rw [h]; rfl)⟩
  split
  · next h => exact .inr ⟨'f', [], rfl, rfl, hletter (by rw [h]; rfl)⟩
  split
  · next h => exact .inr ⟨'n', [], rfl, rfl, hletter (by rw [h]; rfl)⟩
  split
  · next h => exact .inr ⟨'r', [], rfl, rfl, hletter (by rw [h]; rfl)⟩
  split
  · next h => exact .inr ⟨'t', [], rfl, rfl, hletter (by rw [h]; rfl)⟩
  split
  · next h =>
      obtain ⟨es, hescape, hread⟩ := escape?_codeEscape h
      exact .inr ⟨'u', es, hescape, rfl, hread⟩
  · next hquote hback _ _ _ _ _ h => exact .inl ⟨rfl, hquote, hback, Nat.le_of_not_lt h⟩

/-! ### Marks of documents -/

theorem beginsWithMark_of_ne {mark c : Char} (h : c ≠ mark) (cs : List Char) :
    beginsWithMark mark (c :: cs) = false := by
  rcases cs with _ | ⟨a, _ | ⟨b, cs⟩⟩
  · rfl
  · rfl
  · simp [beginsWithMark, h]

/-- Only what stands in front of a closing quote decides whether the mark of a document does. -/
theorem beginsWithMark_quote {mark : Char} (h : '"' ≠ mark) (cs rest : List Char) :
    beginsWithMark mark (cs ++ '"' :: rest) = beginsWithMark mark (cs ++ ['"']) := by
  have hbeq : ('"' == mark) = false := by simpa using h
  rcases cs with _ | ⟨a, _ | ⟨b, _ | ⟨c, _ | ⟨d, cs⟩⟩⟩⟩
  · rw [List.nil_append, List.nil_append, beginsWithMark_of_ne h, beginsWithMark_of_ne h]
  · rcases rest with _ | ⟨r, rest⟩ <;> simp [beginsWithMark, hbeq]
  · simp [beginsWithMark, hbeq]
  · rfl
  · rfl

theorem beginsWithDocumentMark_quote (cs rest : List Char) :
    beginsWithDocumentMark (cs ++ '"' :: rest) = beginsWithDocumentMark (cs ++ ['"']) := by
  rw [beginsWithDocumentMark, beginsWithDocumentMark,
    beginsWithMark_quote (show '"' ≠ '-' by decide) cs rest,
    beginsWithMark_quote (show '"' ≠ '.' by decide) cs rest]

/-! ### Steps of the scanner -/

theorem scanQuotedFrom?_skip (single : Bool) (g : Gap) (es rest : List Char) : ∀ p : Pos,
    scanQuotedFrom? single es.length g p (es ++ rest)
      = scanQuotedFrom? single 0 g (p.right es.length) rest := by
  induction es with
  | nil => intro p; rfl
  | cons e es ih =>
      intro p
      have hright : (p.right 1).right es.length = p.right (e :: es).length := by
        simp only [Pos.right, List.length_cons, Pos.mk.injEq, true_and]
        omega
      exact (ih (p.right 1)).trans (by rw [hright])

/-- A separator ends a line. -/
theorem scanQuotedFrom?_separator {c : Char} (h : isSeparator c = true) (g : Gap) (p : Pos)
    (rest : List Char) :
    scanQuotedFrom? false 0 g p (Json.escaped c ++ rest)
      = scanQuotedFrom? false 0 (g.lineEnd c) (p.down 1) rest := by
  simp only [isSeparator, Bool.or_eq_true, beq_iff_eq] at h
  rcases h with (rfl | rfl) | rfl <;> rfl

theorem scanQuotedFrom?_space (g : Gap) (p : Pos) (rest : List Char) :
    scanQuotedFrom? false 0 g p (Json.escaped ' ' ++ rest)
      = scanQuotedFrom? false 0 (g.blank ' ') (p.right 1) rest := rfl

theorem scanQuotedFrom?_quote (g : Gap) (p : Pos) (rest : List Char) :
    scanQuotedFrom? false 0 g p ('"' :: rest) = some (g.text, ⟨p.right 1, rest⟩) := by
  have hmark : beginsWithDocumentMark ('"' :: rest) = false := by
    rw [beginsWithDocumentMark, beginsWithMark_of_ne (by decide), beginsWithMark_of_ne (by decide)]
    rfl
  unfold scanQuotedFrom?
  simp [hmark, isBreak, isBlank, atClosingQuote]

/-- Any other character stands for itself, unless the mark of a document begins a line with it. -/
theorem scanQuotedFrom?_other {c : Char} (hseparator : isSeparator c = false) (hspace : c ≠ ' ')
    (g : Gap) (p : Pos) (rest : List Char) :
    scanQuotedFrom? false 0 g p (Json.escaped c ++ rest) =
      if p.column == 0 && beginsWithDocumentMark (Json.escaped c ++ rest) then none
      else withText (g.text ++ [c])
        (scanQuotedFrom? false 0 .none (p.right (Json.escaped c).length) rest) := by
  rcases escaped_eq_or c with ⟨hescaped, hquote, hback, hlow⟩ | ⟨e, es, hescaped, he, hread⟩
  · have hne (d : Char) (hd : d.toNat < 0x20) : c ≠ d := by
      rintro rfl
      omega
    have hbreak : isBreak c = false := by
      simp only [isSeparator, Bool.or_eq_false_iff, beq_eq_false_iff_ne] at hseparator
      simp [isBreak, hne '\n' (by decide), hne '\r' (by decide), hseparator]
    have hblank : isBlank c = false := by simp [isBlank, hspace, hne '\t' (by decide)]
    have hclosing : atClosingQuote false (c :: rest) = false := by
      unfold atClosingQuote
      split
      · rfl
      · next heq => simpa [← List.head_eq_of_cons_eq heq] using hquote
      · rfl
    rw [hescaped, List.singleton_append, List.length_singleton]
    conv => lhs; unfold scanQuotedFrom?
    simp [hne '\r' (by decide), hbreak, hblank, hclosing, hback, character?]
  · have hmark : beginsWithDocumentMark ('\\' :: e :: es ++ rest) = false := by
      rw [List.cons_append, beginsWithDocumentMark, beginsWithMark_of_ne (by decide),
        beginsWithMark_of_ne (by decide)]
      rfl
    have hskip := scanQuotedFrom?_skip false .none (e :: es) rest (p.right 1)
    have hright : (p.right 1).right (e :: es).length = p.right ('\\' :: e :: es).length := by
      simp only [Pos.right, List.length_cons, Pos.mk.injEq, true_and]
      omega
    rw [hescaped, hmark, Bool.and_false, ← hright, ← hskip]
    simp only [List.cons_append] at hmark ⊢
    conv => lhs; unfold scanQuotedFrom?
    simp [hmark, show isBreak '\\' = false from rfl, isBlank, atClosingQuote, he, character?, hread]

/-! ### Whole texts -/

/-- What JSON writes for a text up to its closing quote. -/
def written (cs : List Char) : List Char := cs.flatMap Json.escaped ++ ['"']

/-- What YAML makes of the text `cs` that JSON writes, behind the gap `g`; `atStart` says whether it
begins a line. -/
def refolded? (g : Gap) (atStart : Bool) : List Char → Option (List Char)
  | [] => some g.text
  | c :: cs =>
      if isSeparator c then refolded? (g.lineEnd c) true cs
      else if c = ' ' then refolded? (g.blank c) false cs
      else if atStart && beginsWithDocumentMark (written (c :: cs)) then none
      else (refolded? .none false cs).map (g.text ++ [c] ++ ·)

theorem written_cons (c : Char) (cs : List Char) :
    written (c :: cs) = Json.escaped c ++ written cs := by
  rw [written, List.flatMap_cons, List.append_assoc, written]

theorem beginsWithDocumentMark_written (cs rest : List Char) :
    beginsWithDocumentMark (written cs ++ rest) = beginsWithDocumentMark (written cs) := by
  rw [written, List.append_assoc, List.singleton_append, beginsWithDocumentMark_quote]

/-- An escape has a character. -/
theorem length_escaped_pos (c : Char) : 0 < (Json.escaped c).length := by
  rcases escaped_eq_or c with ⟨hescaped, -⟩ | ⟨e, es, hescaped, -⟩
  · rw [hescaped]
    exact Nat.one_pos
  · rw [hescaped]
    exact Nat.succ_pos _

theorem Pos.column_right_beq (p : Pos) {n : Nat} (h : 0 < n) :
    ((p.right n).column == 0) = false := by
  rw [beq_eq_false_iff_ne]
  exact Nat.ne_of_gt (Nat.lt_of_lt_of_le h (Nat.le_add_left n p.column))

/-- **Scanning what JSON writes gives the refolded text**, and the cursor stands behind the
quote. -/
theorem scanQuotedFrom?_written (rest : List Char) (cs : List Char) : ∀ (g : Gap) (p : Pos),
    ∃ after, scanQuotedFrom? false 0 g p (written cs ++ rest)
      = (refolded? g (p.column == 0) cs).map fun text => (text, ⟨after, rest⟩) := by
  induction cs with
  | nil => exact fun g p => ⟨p.right 1, scanQuotedFrom?_quote g p rest⟩
  | cons c cs ih =>
      intro g p
      rw [written_cons, List.append_assoc, refolded?, written_cons]
      by_cases hseparator : isSeparator c = true
      · obtain ⟨after, hscan⟩ := ih (g.lineEnd c) (p.down 1)
        refine ⟨after, ?_⟩
        rw [scanQuotedFrom?_separator hseparator, hscan, if_pos hseparator]
        rfl
      by_cases hspace : c = ' '
      · subst hspace
        obtain ⟨after, hscan⟩ := ih (g.blank ' ') (p.right 1)
        refine ⟨after, ?_⟩
        rw [scanQuotedFrom?_space, hscan, Pos.column_right_beq p Nat.one_pos]
        rfl
      · obtain ⟨after, hscan⟩ := ih .none (p.right (Json.escaped c).length)
        refine ⟨after, ?_⟩
        rw [scanQuotedFrom?_other (by simpa using hseparator) hspace, hscan, if_neg hseparator,
          if_neg hspace, Pos.column_right_beq p (length_escaped_pos c), ← List.append_assoc,
          ← written_cons, beginsWithDocumentMark_written, withText]
        split
        · rfl
        · simp only [Option.map_map]
          rfl

end HostRouting.Yaml
