/-
**Lines and blanks.**

Where lines are trimmed afterwards, it makes no difference how they are ended: a carriage return in
front of a line feed is blank, and so is the empty line after the last line feed.  What is left of
the lines is what is left of the pieces between line feeds.

Main results:

* `Text.pieces_eq_splitOn` — the pieces are those of the standard library;
* `Text.not_mem_of_mem_pieces`, `Text.mem_pieces_iff` — the pieces hold everything but separators;
* `Text.trimmed_of_forall_mem` — a text without blanks is left as it is;
* `Text.trimmed_eq_nil_iff` — nothing is left of a text exactly if all of it is blank;
* `Text.trimmed_append_of_isBlank` — a blank at the end of a text is trimmed away;
* `Text.filter_map_trimmed_lines` — **trimmed lines are trimmed pieces**, apart from empty ones.
-/

import HostRouting.Text.Blank
import HostRouting.Text.Lines

set_option autoImplicit false

namespace HostRouting.Text

/-! ### Pieces -/

section

variable {α : Type} [BEq α]

theorem pieces_eq_splitOn (sep : α) (xs : List α) : pieces sep xs = xs.splitOn sep := by
  induction xs with
  | nil => rfl
  | cons x xs ih =>
      rw [pieces, List.splitOn_cons_eq_if_modifyHead, ih]
      split
      · rfl
      · cases h : xs.splitOn sep with
        | nil => exact absurd h (List.splitOn_ne_nil sep xs)
        | cons p ps => rfl

/-- An element in front of a text stands in front of its first piece, or separates an empty one. -/
theorem pieces_cons (sep x : α) (xs : List α) :
    ∃ p ps, pieces sep xs = p :: ps ∧
      pieces sep (x :: xs) = if x == sep then [] :: p :: ps else (x :: p) :: ps := by
  cases hpieces : pieces sep xs with
  | nil => exact absurd hpieces (pieces_ne_nil sep xs)
  | cons p ps =>
      refine ⟨p, ps, rfl, ?_⟩
      rw [pieces, hpieces]

/-- An element behind a text, if it separates nothing, stands behind its last piece. -/
theorem pieces_concat {sep x : α} (hx : (x == sep) = false) (xs : List α) :
    ∃ front last, pieces sep xs = front ++ [last] ∧
      pieces sep (xs ++ [x]) = front ++ [last ++ [x]] := by
  induction xs with
  | nil => exact ⟨[], [], rfl, by simp [pieces, hx]⟩
  | cons y xs ih =>
      obtain ⟨front, last, hpieces, hconcat⟩ := ih
      rw [List.cons_append, pieces, pieces, hpieces, hconcat]
      cases hy : y == sep with
      | true => exact ⟨[] :: front, last, by simp, by simp⟩
      | false =>
          cases front with
          | nil => exact ⟨[], y :: last, by simp, by simp⟩
          | cons p front => exact ⟨(y :: p) :: front, last, by simp, by simp⟩

variable [LawfulBEq α]

/-- No piece holds the separator. -/
theorem not_mem_of_mem_pieces {sep : α} {xs piece : List α} (h : piece ∈ pieces sep xs) :
    sep ∉ piece := by
  induction xs generalizing piece with
  | nil =>
      rw [List.mem_singleton.1 h]
      exact List.not_mem_nil
  | cons x xs ih =>
      obtain ⟨p, ps, hpieces, hcons⟩ := pieces_cons sep x xs
      have hrest : ∀ q ∈ p :: ps, sep ∉ q := fun q hq => ih (hpieces ▸ hq)
      rw [hcons] at h
      split at h
      · rcases List.mem_cons.1 h with rfl | h
        · exact List.not_mem_nil
        · exact hrest piece h
      · next hne =>
          rcases List.mem_cons.1 h with rfl | h
          · rw [List.mem_cons, not_or]
            refine ⟨?_, hrest p List.mem_cons_self⟩
            rintro rfl
            exact hne (beq_self_eq_true _)
          · exact hrest piece (List.mem_cons_of_mem _ h)

/-- Separators aside, what stands in some piece is what stands in the text. -/
theorem mem_pieces_iff {sep x : α} (hx : x ≠ sep) {xs : List α} :
    (∃ piece ∈ pieces sep xs, x ∈ piece) ↔ x ∈ xs := by
  induction xs with
  | nil => simp
  | cons y xs ih =>
      obtain ⟨p, ps, hpieces, hcons⟩ := pieces_cons sep y xs
      rw [hpieces] at ih
      rw [hcons, List.mem_cons, ← ih]
      split
      · next hsep =>
          obtain rfl : y = sep := eq_of_beq hsep
          simp [hx]
      · simp [or_assoc]

end

/-! ### Nothing to leave out -/

theorem dropWhile_of_forall_mem {α : Type} {p : α → Bool} {xs : List α}
    (h : ∀ x ∈ xs, p x = false) : xs.dropWhile p = xs := by
  cases xs with
  | nil => rfl
  | cons x xs =>
      have hx := h x List.mem_cons_self
      rw [List.dropWhile_cons_of_neg (by simp [hx])]

/-- The visible characters of ASCII are not blank. -/
theorem isBlank_of_visible {c : Char} (h : 0x20 < c.toNat) (hascii : c.toNat < 0x80) :
    isBlank c = false := by
  have hlow : ¬c.toNat ≤ 0x20 := by omega
  have htab : ¬c.toNat ≤ 0x0D := by omega
  simp [isBlank, blanks, Ranges.has, Ranges.hasCode, hlow, htab,
    show c.toNat < 0x85 by omega]

/-- A text without blanks is left as it is. -/
theorem trimmed_of_forall_mem {cs : List Char} (h : ∀ c ∈ cs, isBlank c = false) :
    trimmed cs = cs := by
  have hreverse : ∀ c ∈ cs.reverse, isBlank c = false := fun c hc => h c (List.mem_reverse.1 hc)
  rw [trimmed, dropWhile_of_forall_mem h, dropWhile_of_forall_mem hreverse, List.reverse_reverse]

theorem forall_mem_of_dropWhile_eq_nil {α : Type} {p : α → Bool} {xs : List α}
    (h : xs.dropWhile p = []) : ∀ x ∈ xs, p x = true := by
  rw [← List.takeWhile_append_dropWhile (p := p) (l := xs), h, List.append_nil]
  exact List.all_eq_true.1 List.all_takeWhile

/-- Nothing is left of a text exactly if all of it is blank. -/
theorem trimmed_eq_nil_iff {cs : List Char} : trimmed cs = [] ↔ ∀ c ∈ cs, isBlank c = true := by
  rw [trimmed, List.reverse_eq_nil_iff]
  constructor
  · intro h
    refine forall_mem_of_dropWhile_eq_nil ?_
    -- what is left at the front would begin with a character that is not blank
    cases hcs : cs.dropWhile isBlank with
    | nil => rfl
    | cons c rest =>
        have hblank := forall_mem_of_dropWhile_eq_nil h c (by simp [hcs])
        have hhead := List.head?_dropWhile_not isBlank cs
        simp [hcs, hblank] at hhead
  · intro h
    rw [← List.append_nil cs, List.dropWhile_append_of_pos h]
    rfl

/-! ### Blanks at the end -/

/-- A blank at the end of a text is trimmed away. -/
theorem trimmed_append_of_isBlank {c : Char} (h : isBlank c = true) (cs : List Char) :
    trimmed (cs ++ [c]) = trimmed cs := by
  unfold trimmed
  rw [List.dropWhile_append]
  cases hcs : cs.dropWhile isBlank with
  | nil => simp [h]
  | cons d ds => simp [h]

theorem trimmed_withoutReturn (line : List Char) :
    trimmed (withoutReturn '\r' line) = trimmed line := by
  unfold withoutReturn
  split
  · next c hc =>
      split
      · next hr =>
          -- the carriage return that is left out is blank
          obtain ⟨front, rfl⟩ := List.getLast?_eq_some_iff.1 hc
          obtain rfl : c = '\r' := eq_of_beq hr
          rw [List.dropLast_concat, trimmed_append_of_isBlank (by decide)]
      · rfl
  · rfl

/-! ### Lines -/

theorem filter_map_trimmed_closeLines (ps : List (List Char)) :
    ((closeLines '\r' ps).map trimmed).filter (!·.isEmpty)
      = (ps.map trimmed).filter (!·.isEmpty) := by
  induction ps with
  | nil => rfl
  | cons p ps ih =>
      cases ps with
      | nil =>
          rw [closeLines]
          split
          · next hp => simp [List.isEmpty_iff.1 hp]
          · rfl
      | cons q ps =>
          rw [closeLines, List.map_cons, List.filter_cons, trimmed_withoutReturn, ih,
            List.map_cons (a := p), List.filter_cons]

/-- **Trimmed lines are trimmed pieces**, apart from empty ones. -/
theorem filter_map_trimmed_lines (text : List Char) :
    ((lines '\n' '\r' text).map trimmed).filter (!·.isEmpty)
      = ((text.splitOn '\n').map trimmed).filter (!·.isEmpty) := by
  rw [lines, filter_map_trimmed_closeLines, pieces_eq_splitOn]

end HostRouting.Text
