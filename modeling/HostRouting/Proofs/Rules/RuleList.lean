/-
**Which rules count.**

A text passes several tests before it decides about a host: a rule list leaves out comments and
what is no pattern, the lists of a mode are merged and cleaned again, and a rule set only holds what
can be compiled.  Each of these tests asks for a valid pattern at most, and a text that is none
matches no host.  So in the end a host is matched exactly if some text of the lists, of whatever
kind, matches it.

Main results:

* `RuleList.rules_parse` — the rules of a text are its trimmed pieces that are patterns;
* `Settings.mem_rulesFor` — the rules of a mode are the patterns of its two lists;
* `RuleSet.matchesHost_ofTexts` — a rule set matches what one of its texts matches;
* `RuleSet.map_text_ofTexts`, `RuleSet.ofTexts_filter` — a rule set holds the patterns among its
  texts, and other texts make no difference to it.
-/

import HostRouting.Proofs.Pattern.Parsed
import HostRouting.Proofs.Text.Lines
import HostRouting.Rules.RuleSet
import HostRouting.Settings.Basic

set_option autoImplicit false

namespace HostRouting

/-! ### Texts that match -/

/-- Only a valid pattern matches a host. -/
theorem isValid_of_matchesText {text host : String} (h : matchesText text host = true) :
    Pattern.isValid text = true := by
  rw [matchesText] at h
  split at h
  · next p hp =>
      rw [← Pattern.text_of_parse hp]
      exact Pattern.isValid_of_parse hp
  · cases h

/-- A rule set matches what one of its texts matches. -/
theorem RuleSet.matchesHost_ofTexts (texts : List String) (host : String) :
    (RuleSet.ofTexts texts).matchesHost host = texts.any (matchesText · host) := by
  rw [matchesHost, patterns_ofTexts, List.any_filterMap]
  congr 1
  funext text
  rw [pattern?, matchesText]
  cases Pattern.parse text <;> rfl

/-! ### The patterns of a rule set -/

namespace RuleSet

/-- A valid text has a pattern, which is written as that text. -/
theorem exists_pattern? {text : String} (h : Pattern.isValid text = true) :
    ∃ p, pattern? text = some p ∧ p.text = text := by
  refine ⟨Pattern.ofValid text h, ?_, Pattern.text_ofValid text h⟩
  rw [pattern?, Pattern.parse_of_isValid h]
  rfl

/-- No other text has a pattern. -/
theorem pattern?_eq_none {text : String} (h : Pattern.isValid text = false) :
    pattern? text = none := by
  cases hparse : Pattern.parse text with
  | error fault => rw [pattern?, hparse]; rfl
  | ok p =>
      have hvalid := Pattern.isValid_of_parse hparse
      rw [Pattern.text_of_parse hparse, h] at hvalid
      cases hvalid

/-- The patterns of a rule set are written as its valid texts, in their order. -/
theorem map_text_ofTexts (texts : List String) :
    (ofTexts texts).patterns.map Pattern.text = texts.filter Pattern.isValid := by
  induction texts with
  | nil => rfl
  | cons text texts ih =>
      rw [patterns_ofTexts] at ih ⊢
      cases h : Pattern.isValid text with
      | true =>
          obtain ⟨p, hp, htext⟩ := exists_pattern? h
          rw [List.filterMap_cons_some hp, List.map_cons, htext, ih, List.filter_cons_of_pos h]
      | false =>
          have hnot : ¬Pattern.isValid text = true := by simp [h]
          rw [List.filterMap_cons_none (pattern?_eq_none h), ih, List.filter_cons_of_neg hnot]

/-- Texts that are no pattern make no difference to a rule set. -/
theorem ofTexts_filter (texts : List String) :
    ofTexts (texts.filter Pattern.isValid) = ofTexts texts := by
  rw [ofTexts, ofTexts, List.filterMap_filter]
  congr 2
  funext text
  cases h : Pattern.isValid text with
  | true => rfl
  | false => exact (pattern?_eq_none h).symm

end RuleSet

/-! ### Rule lists -/

namespace RuleList

/-- What begins like a comment or a section head is no pattern. -/
theorem isValid_of_isRemark {line : List Char} (h : isRemark line = true) :
    Pattern.isValid (String.ofList line) = false := by
  have hbegin : ∃ c rest, line = c :: rest ∧ Pattern.admits c = false := by
    unfold isRemark at h
    split at h
    · exact ⟨_, _, rfl, by decide⟩
    · exact ⟨_, _, rfl, by decide⟩
    · exact ⟨_, _, rfl, by decide⟩
    · exact ⟨_, _, rfl, by decide⟩
    · cases h
  obtain ⟨c, rest, rfl, hc⟩ := hbegin
  rw [Bool.eq_false_iff]
  intro hvalid
  have hadmits := Pattern.admits_of_isValid hvalid c (by rw [String.toList_ofList]; simp)
  rw [hc] at hadmits
  cases hadmits

/-- So the test for comments makes no difference. -/
theorem rule?_eq (line : List Char) :
    rule? line = Option.guard Pattern.isValid (String.ofList line) := by
  rw [rule?, Option.guard]
  split
  · next h => rw [isValid_of_isRemark h]; rfl
  · rfl

theorem entries_eq (text : List Char) :
    entries text = ((text.splitOn '\n').map Text.trimmed).filter (!·.isEmpty) :=
  Text.filter_map_trimmed_lines text

/-- **The rules of a text are its trimmed pieces that are patterns**, in their order. -/
theorem rules_parse (raw : String) :
    (parse raw).rules
      = ((raw.toList.splitOn '\n').map fun line => String.ofList (Text.trimmed line)).filter
          Pattern.isValid := by
  -- what is left out as empty is no pattern anyway
  have hempty (line : List Char) :
      (Pattern.isValid (String.ofList line) && !line.isEmpty)
        = Pattern.isValid (String.ofList line) := by
    cases line with
    | nil => decide
    | cons c cs => simp
  have hrule : rule? = Option.guard Pattern.isValid ∘ String.ofList := funext rule?_eq
  calc (parse raw).rules
      = (entries raw.toList).filterMap rule? := rfl
    _ = ((entries raw.toList).map String.ofList).filter Pattern.isValid := by
        rw [hrule, ← List.filterMap_map, List.filterMap_eq_filter]
    _ = (((raw.toList.splitOn '\n').map Text.trimmed).map String.ofList).filter
          Pattern.isValid := by
        rw [entries_eq]
        generalize (raw.toList.splitOn '\n').map Text.trimmed = ls
        rw [List.filter_map, List.filter_map, List.filter_filter]
        simp only [Function.comp_apply, hempty]
        rfl
    _ = ((raw.toList.splitOn '\n').map fun line => String.ofList (Text.trimmed line)).filter
          Pattern.isValid := by
        rw [List.map_map]
        rfl

end RuleList

/-! ### The rules of a mode -/

namespace Settings

/-- **The rules of a mode are the patterns of its two lists.** -/
theorem mem_rulesFor {s : Settings} {m : Mode} {text : String} :
    text ∈ s.rulesFor m ↔
      (text ∈ (s.source m).manual ∨ text ∈ (s.source m).fetched)
        ∧ Pattern.isValid text = true := by
  rw [rulesFor, List.mem_filter, mergeRules, List.mem_eraseDups, List.mem_append]

end Settings

end HostRouting
