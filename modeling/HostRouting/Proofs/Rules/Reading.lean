/-
**Rule lists line by line.**

A rule list is read line by line, and no line has a say in how another is read.  So the rules of two
texts with a line end between them are the rules of the one and then those of the other, and how a
line ends makes no difference, nor whether the last one is ended at all.  A rule is kept in a list of
its own as it stands: no rule holds a blank or begins like a comment.

Main results:

* `RuleList.entries_append`, `RuleList.entries_concat` — the entries of a text with a line end or a
  blank in it;
* `RuleList.entries_intercalate` — lines that are rules are entries as they stand;
* `RuleList.parse_newline`, `RuleList.parse_intercalate` — two texts read one after the other, and
  rules read back;
* `RuleList.parse_line_by_line` — **what is read from a text, from two texts and from its own
  rules**.
-/

import HostRouting.Proofs.Rules.RuleList
import Mathlib.Data.List.Basic

set_option autoImplicit false

namespace HostRouting.RuleList

/-! ### Entries -/

/-- The entries of two texts with a line feed between them. -/
theorem entries_append (a b : List Char) : entries (a ++ '\n' :: b) = entries a ++ entries b := by
  simp [entries_eq, List.splitOn_append_cons_self]

/-- A blank at the end of a text makes no difference. -/
theorem entries_concat {c : Char} (h : Text.isBlank c = true) (a : List Char) :
    entries (a ++ [c]) = entries a := by
  by_cases hc : c = '\n'
  · subst hc
    rw [entries_append]
    exact List.append_nil _
  · have hline : (c == '\n') = false := beq_false_of_ne hc
    obtain ⟨front, last, ha, hac⟩ := Text.pieces_concat hline a
    rw [entries_eq, entries_eq, ← Text.pieces_eq_splitOn, ← Text.pieces_eq_splitOn, ha, hac]
    simp [Text.trimmed_append_of_isBlank h]

/-- Nothing is an entry exactly if all of the text is blank. -/
theorem entries_eq_nil_iff {text : List Char} :
    entries text = [] ↔ Text.trimmed text = [] := by
  have hentries : entries text = [] ↔
      ∀ piece ∈ Text.pieces '\n' text, ∀ c ∈ piece, Text.isBlank c = true := by
    simp [entries_eq, ← Text.pieces_eq_splitOn, Text.trimmed_eq_nil_iff]
  rw [hentries, Text.trimmed_eq_nil_iff]
  constructor
  · intro h c hc
    by_cases hline : c = '\n'
    · subst hline
      decide
    · obtain ⟨piece, hpiece, hmem⟩ := (Text.mem_pieces_iff hline).2 hc
      exact h piece hpiece c hmem
  · intro h piece hpiece c hc
    have hline : c ≠ '\n' := by
      rintro rfl
      exact Text.not_mem_of_mem_pieces hpiece hc
    exact h c ((Text.mem_pieces_iff hline).1 ⟨piece, hpiece, hc⟩)

/-! ### Rules as lines -/

/-- No rule holds a blank, and none is empty. -/
theorem trimmed_rule {rule : String} (h : Pattern.isValid rule = true) :
    Text.trimmed rule.toList = rule.toList := by
  refine Text.trimmed_of_forall_mem fun c hc => ?_
  have hvisible := Pattern.visible_of_admits (Pattern.admits_of_isValid h c hc)
  exact Text.isBlank_of_visible hvisible.1 (by omega)

theorem rule_ne_nil {rule : String} (h : Pattern.isValid rule = true) : rule.toList ≠ [] := by
  intro hnil
  obtain rfl : rule = "" := String.toList_inj.1 hnil
  exact absurd h (by decide)

/-- Lines that are rules are entries as they stand. -/
theorem entries_intercalate {rules : List String} (h : ∀ r ∈ rules, Pattern.isValid r = true) :
    entries ("\n".intercalate rules).toList = rules.map String.toList := by
  have htrimmed : (rules.map String.toList).map Text.trimmed = rules.map String.toList := by
    rw [List.map_map]
    exact List.map_congr_left fun r hr => trimmed_rule (h r hr)
  have hfilter : (rules.map String.toList).filter (!·.isEmpty) = rules.map String.toList := by
    rw [List.filter_eq_self]
    intro line hline
    obtain ⟨r, hr, rfl⟩ := List.mem_map.1 hline
    simpa using rule_ne_nil (h r hr)
  have hline : ∀ line ∈ rules.map String.toList, '\n' ∉ line := by
    intro line hline hmem
    obtain ⟨r, hr, rfl⟩ := List.mem_map.1 hline
    exact absurd (Pattern.admits_of_isValid (h r hr) _ hmem) (by decide)
  have hsep : "\n".toList = ['\n'] := rfl
  rw [String.toList_intercalate, hsep, entries_eq]
  by_cases hrules : rules = []
  · subst hrules
    decide
  · rw [List.splitOn_intercalate '\n' hline (by simpa using hrules), htrimmed, hfilter]

/-! ### Rule lists -/

/-- What stands between the line feeds of a text, trimmed. -/
def trimmedPieces (raw : String) : List String :=
  (raw.toList.splitOn '\n').map fun piece => String.ofList (Text.trimmed piece)

section

variable (raw : String)

/-- The lines that count are the pieces of which something is left. -/
theorem lineCount_parse : (parse raw).lineCount = (trimmedPieces raw).countP (· ≠ "") := by
  have hlength : (parse raw).lineCount = (entries raw.toList).length := rfl
  rw [hlength, entries_eq, trimmedPieces, ← List.countP_eq_length_filter, List.countP_map,
    List.countP_map]
  congr 1
  funext piece
  cases hpiece : Text.trimmed piece <;> simp [hpiece]

/-- There are no more rules than lines that count. -/
theorem length_rules_le : (parse raw).rules.length ≤ (parse raw).lineCount :=
  List.length_filterMap_le _ _

theorem lineCount_eq_zero_iff : (parse raw).lineCount = 0 ↔ Text.trim raw = "" := by
  have hentries : (parse raw).lineCount = 0 ↔ entries raw.toList = [] := List.length_eq_zero_iff
  rw [hentries, entries_eq_nil_iff, ← Text.toList_trim, String.toList_eq_nil_iff]

theorem isValid_of_mem_rules {r : String} (h : r ∈ (parse raw).rules) :
    Pattern.isValid r = true := by
  rw [rules_parse, List.mem_filter] at h
  exact h.2

end

/-- Two texts with a line feed between them are read one after the other. -/
theorem parse_newline (a b : String) :
    (parse (a ++ "\n" ++ b)).rules = (parse a).rules ++ (parse b).rules ∧
      (parse (a ++ "\n" ++ b)).lineCount = (parse a).lineCount + (parse b).lineCount := by
  have htext : (a ++ "\n" ++ b).toList = a.toList ++ '\n' :: b.toList := by
    simp
  constructor <;> simp [parse, htext, entries_append]

/-- A blank at the end of a text is not read. -/
theorem parse_push {c : Char} (h : Text.isBlank c = true) (a : String) :
    (parse (a.push c)).rules = (parse a).rules ∧
      (parse (a.push c)).lineCount = (parse a).lineCount := by
  constructor <;> simp [parse, String.toList_push, entries_concat h]

/-- Rules written one a line are read back, each of them, and nothing else is there to read. -/
theorem parse_intercalate {rules : List String} (h : ∀ r ∈ rules, Pattern.isValid r = true) :
    (parse ("\n".intercalate rules)).rules = rules ∧
      (parse ("\n".intercalate rules)).lineCount = rules.length := by
  have hentries := entries_intercalate h
  constructor
  · have hkept : rules.filterMap (fun r => rule? r.toList) = rules := by
      rw [List.filterMap_congr (g := some) fun r hr => by simp [rule?_eq, h r hr],
        List.filterMap_some]
    simp only [parse, hentries, List.filterMap_map]
    exact hkept
  · simp only [parse, hentries, List.length_map]

/-- **What is read line by line.**  The rules of a text are its trimmed pieces that are patterns, and
the pieces of which something is left are counted, so that there are enough lines for all rules, and
none only if all of the text is blank.  Two texts with a line end between them, whichever it is, have
the rules and the lines of both; a line end behind the last line makes no difference.  Rules that are
put together again, one a line, are the rules of that text, and nothing in it is ignored. -/
theorem parse_line_by_line :
    (∀ raw, (parse raw).rules = (trimmedPieces raw).filter Pattern.isValid ∧
        (parse raw).lineCount = (trimmedPieces raw).countP (· ≠ "") ∧
        (parse raw).ignored + (parse raw).rules.length = (parse raw).lineCount ∧
        ((parse raw).lineCount = 0 ↔ Text.trim raw = "")) ∧
      (∀ a b, (parse (a ++ "\n" ++ b)).rules = (parse a).rules ++ (parse b).rules ∧
        (parse (a ++ "\n" ++ b)).lineCount = (parse a).lineCount + (parse b).lineCount) ∧
      (∀ a b, (parse (a ++ "\r\n" ++ b)).rules = (parse (a ++ "\n" ++ b)).rules ∧
        (parse (a ++ "\r\n" ++ b)).lineCount = (parse (a ++ "\n" ++ b)).lineCount) ∧
      (∀ a, (parse (a ++ "\n")).rules = (parse a).rules ∧
        (parse (a ++ "\n")).lineCount = (parse a).lineCount) ∧
      ∀ raw, (parse ("\n".intercalate (parse raw).rules)).rules = (parse raw).rules ∧
        (parse ("\n".intercalate (parse raw).rules)).ignored = 0 := by
  refine ⟨?pieces, parse_newline, ?carriageReturn, parse_push (c := '\n') rfl, ?again⟩
  case pieces =>
    intro raw
    refine ⟨rules_parse raw, lineCount_parse raw, ?_, lineCount_eq_zero_iff raw⟩
    have hle := length_rules_le raw
    rw [ignored]
    omega
  case carriageReturn =>
    -- the carriage return is a blank at the end of what stands before the line feed
    intro a b
    have htext : a ++ "\r\n" ++ b = a.push '\r' ++ "\n" ++ b := by
      rw [← String.toList_inj]
      simp
    have ha := parse_push (c := '\r') rfl a
    rw [htext, (parse_newline _ b).1, (parse_newline _ b).2, (parse_newline a b).1,
      (parse_newline a b).2, ha.1, ha.2]
    exact ⟨rfl, rfl⟩
  case again =>
    intro raw
    obtain ⟨hrules, hcount⟩ := parse_intercalate fun r => isValid_of_mem_rules raw
    refine ⟨hrules, ?_⟩
    rw [ignored, hcount, hrules]
    exact Nat.sub_self _

end HostRouting.RuleList
