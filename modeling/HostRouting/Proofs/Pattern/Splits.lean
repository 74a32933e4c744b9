/-
**Globs by splitting.**

A host is matched by a glob if it can be cut, in order, into one piece for each character of the
glob, where `*` stands for any characters that lie inside a line, `?` for one of them and every
other character for itself.  That speaks of all the ways to cut a host at once, which are
exponentially many with several stars; the marks of `Glob.accepts` and the matcher of regular
expressions each go their own way, and both find a cut exactly if there is one.

Main definitions:

* `Glob.InLine` — the characters that are no line terminators, by their code points;
* `Glob.StandsFor` — the pieces that one character of a glob stands for.

Main results:

* `Glob.accepts_iff_pieces` — a glob takes the texts that can be cut into pieces;
* `Pattern.parse_eq_glob` — a valid text with neither leading form is a glob;
* `Pattern.matchesText_iff_pieces` — **a glob, its regular expression and the cuts of a host agree**.
-/

import HostRouting.Proofs.Pattern.RegexText
import Mathlib.Data.List.Forall2

set_option autoImplicit false

namespace HostRouting

/-! ### Pieces of a text -/

namespace Glob

/-- Whether a character lies inside a line: its code point is that of no line terminator. -/
def InLine (c : Char) : Prop :=
  c.toNat ≠ 0x000A ∧ c.toNat ≠ 0x000D ∧ c.toNat ≠ 0x2028 ∧ c.toNat ≠ 0x2029

instance (c : Char) : Decidable (InLine c) := inferInstanceAs (Decidable (_ ∧ _))

/-- The pieces that a character of a glob stands for. -/
inductive StandsFor : Char → List Char → Prop where
  /-- A star stands for any number of characters inside a line. -/
  | star {piece : List Char} (h : ∀ c ∈ piece, InLine c) : StandsFor '*' piece
  /-- A question mark stands for one such character. -/
  | mark {c : Char} (h : InLine c) : StandsFor '?' [c]
  /-- Every other character stands for itself. -/
  | plain {c : Char} (hstar : c ≠ '*') (hmark : c ≠ '?') : StandsFor c [c]

theorem inLine_iff {c : Char} : InLine c ↔ isLineTerminator c = false := by
  have hcode (d : Char) : c.toNat ≠ d.toNat ↔ c ≠ d := not_congr Char.toNat_inj
  simp only [isLineTerminator, Bool.or_eq_false_iff, beq_eq_false_iff_ne, and_assoc]
  exact and_congr (hcode '\n') (and_congr (hcode '\r')
    (and_congr (hcode '\u2028') (hcode '\u2029')))

/-- A character stands for what its item takes. -/
theorem standsFor_iff {c : Char} {piece : List Char} :
    StandsFor c piece ↔ (Item.ofChar c).Takes piece := by
  constructor
  · intro h
    cases h with
    | star h => exact fun d hd => inLine_iff.1 (h d hd)
    | mark h => exact ⟨_, rfl, inLine_iff.1 h⟩
    | plain hstar hmark =>
        rw [Item.ofChar, if_neg hstar, if_neg hmark]
        rfl
  · intro h
    by_cases hstar : c = '*'
    · subst hstar
      exact .star fun d hd => inLine_iff.2 (h d hd)
    · by_cases hmark : c = '?'
      · subst hmark
        obtain ⟨d, rfl, hd⟩ := h
        exact .mark (inLine_iff.2 hd)
      · rw [Item.ofChar, if_neg hstar, if_neg hmark] at h
        obtain rfl : piece = [c] := h
        exact .plain hstar hmark

theorem takes_items_iff (source : List Char) :
    ∀ text : List Char, Takes (items source) text ↔
      ∃ pieces, List.Forall₂ StandsFor source pieces ∧ pieces.flatten = text := by
  induction source with
  | nil =>
      intro text
      simp [List.forall₂_nil_left_iff, eq_comm]
  | cons c source ih =>
      intro text
      rw [items_cons, takes_cons]
      constructor
      · rintro ⟨piece, rest, rfl, hhere, hrest⟩
        obtain ⟨pieces, hpieces, rfl⟩ := (ih rest).1 hrest
        exact ⟨piece :: pieces, .cons (standsFor_iff.2 hhere) hpieces, rfl⟩
      · rintro ⟨pieces, hpieces, rfl⟩
        obtain ⟨piece, rest, hhere, hrest, rfl⟩ := List.forall₂_cons_left_iff.1 hpieces
        exact ⟨piece, rest.flatten, rfl, standsFor_iff.1 hhere, (ih _).2 ⟨rest, hrest, rfl⟩⟩

/-- **A glob takes the texts that can be cut into pieces**, one for each of its characters. -/
theorem accepts_iff_pieces {source text : List Char} :
    accepts source text = true ↔
      ∃ pieces, List.Forall₂ StandsFor source pieces ∧ pieces.flatten = text := by
  rw [accepts_iff, takes_items_iff]

end Glob

/-! ### Globs among the patterns -/

namespace Pattern

theorem afterDot?_eq_none {cs : List Char} (h : ¬['.'] <+: cs) : afterDot? cs = none := by
  rw [Option.eq_none_iff_forall_not_mem]
  intro base hbase
  obtain rfl := eq_of_afterDot? hbase
  exact h ⟨base, rfl⟩

theorem afterStarDot?_eq_none {cs : List Char} (h : ¬['*', '.'] <+: cs) :
    afterStarDot? cs = none := by
  rw [Option.eq_none_iff_forall_not_mem]
  intro base hbase
  obtain rfl := eq_of_afterStarDot? hbase
  exact h ⟨base, rfl⟩

/-- A valid text with neither of the two leading forms is a glob. -/
theorem parse_eq_glob {text : String} (hvalid : isValid text = true)
    (hdot : ¬['.'] <+: text.toList) (hstar : ¬['*', '.'] <+: text.toList) :
    ∃ g : GlobText, parse text = .ok (.glob g) ∧ g.source = text := by
  have hd := afterDot?_eq_none hdot
  have hs := afterStarDot?_eq_none hstar
  refine ⟨⟨text, by simp [isGlob, hvalid, hd, hs]⟩, ?_, rfl⟩
  rw [parse_of_isValid hvalid]
  unfold ofValid
  split
  · next base hbase =>
      rw [hd] at hbase
      cases hbase
  · split
    · next base hbase =>
        rw [hs] at hbase
        cases hbase
    · rfl

/-- **A glob, its regular expression and the cuts of a host agree.**  A valid text that begins with
neither `.` nor `*.` is a glob, and the text of its regular expression can be read between anchors.
It matches a host if and only if the host can be cut into one piece for each character of the text,
and what the regular expression tests for is the same. -/
theorem matchesText_iff_pieces {text : String} (hvalid : isValid text = true)
    (hdot : ¬['.'] <+: text.toList) (hstar : ¬['*', '.'] <+: text.toList) :
    ∃ (g : GlobText) (parts : List RegexText.Part), parse text = .ok (.glob g) ∧
      g.source = text ∧ RegexText.read? ('^' :: g.regex.text.toList ++ ['$']) = some parts ∧
      ∀ host : String,
        (matchesText text host = true ↔
          ∃ pieces, List.Forall₂ Glob.StandsFor text.toList pieces ∧
            pieces.flatten = host.toList) ∧
        (RegexText.test parts host.toList = true ↔
          ∃ pieces, List.Forall₂ Glob.StandsFor text.toList pieces ∧
            pieces.flatten = host.toList) := by
  obtain ⟨g, hparse, rfl⟩ := parse_eq_glob hvalid hdot hstar
  obtain ⟨parts, hread, htest⟩ := RegexText.test_ofGlob (admits_of_isValid hvalid)
  refine ⟨g, parts, hparse, rfl, ?_, fun host => ⟨?_, ?_⟩⟩
  · rw [Regex.text, String.toList_ofList]
    exact hread
  · rw [matchesText, hparse]
    exact Glob.accepts_iff_pieces
  · rw [htest]
    exact Glob.accepts_iff_pieces

/-- The star of `a*?.b` takes a character that the question mark could take as well, but neither of
them takes a line feed. -/
theorem matchesText_iff_pieces_stars :
    isValid "a*?.b" = true ∧ ¬['.'] <+: "a*?.b".toList ∧ ¬['*', '.'] <+: "a*?.b".toList ∧
      matchesText "a*?.b" "a😀é.b" = true ∧ matchesText "a*?.b" "a\né.b" = false ∧
      ∃ parts, RegexText.read?
          "^a[^\\n\\r\\u2028\\u2029]*[^\\n\\r\\u2028\\u2029]\\.b$".toList = some parts ∧
        RegexText.test parts "a😀é.b".toList = true ∧
        RegexText.test parts "a\né.b".toList = false := by
  have hvalid : isValid "a*?.b" = true := by decide
  have hdot : ¬['.'] <+: "a*?.b".toList := by decide
  have hstar : ¬['*', '.'] <+: "a*?.b".toList := by decide
  obtain ⟨g, parts, -, hsource, hread, hmatch⟩ := matchesText_iff_pieces hvalid hdot hstar
  have htext : ('^' :: g.regex.text.toList ++ ['$'])
      = "^a[^\\n\\r\\u2028\\u2029]*[^\\n\\r\\u2028\\u2029]\\.b$".toList := by
    rw [GlobText.regex, hsource]
    decide
  have hcut : ∃ pieces, List.Forall₂ Glob.StandsFor "a*?.b".toList pieces ∧
      pieces.flatten = "a😀é.b".toList :=
    ⟨[['a'], ['😀'], ['é'], ['.'], ['b']],
      .cons (.plain (by decide) (by decide))
        (.cons (.star (List.forall_mem_singleton.2 (by decide)))
          (.cons (.mark (by decide))
            (.cons (.plain (by decide) (by decide))
              (.cons (.plain (by decide) (by decide)) .nil)))), by decide⟩
  -- whichever way the host is cut, the line feed is in the piece of a wildcard
  have hnone : matchesText "a*?.b" "a\né.b" = false := by decide
  have htested : RegexText.test parts "a\né.b".toList = matchesText "a*?.b" "a\né.b" :=
    Bool.eq_iff_iff.2 ((hmatch _).2.trans (hmatch _).1.symm)
  exact ⟨hvalid, hdot, hstar, (hmatch _).1.2 hcut, hnone, parts, htext ▸ hread,
    (hmatch _).2.2 hcut, htested.trans hnone⟩

end Pattern

end HostRouting
