/-
**Rule lists.**

A rule list is a text with one rule a line.  Blank lines do not count; of the other lines those that
begin like a comment or a section head, and those that are no pattern, are ignored.

Main definitions:

* `RuleList` — the text, its rules and the number of lines that count;
* `RuleList.parse` — the rule list of a text;
* `RuleList.ofBytes?`, `RuleList.ofBytes` — the rule list of octets in UTF-8, or why there is none;
* `mergeRules` — two lists of rules as one without repetition.
-/

import HostRouting.Files.Directory
import HostRouting.Pattern.Fault
import HostRouting.Text.Blank
import HostRouting.Text.Lines
import HostRouting.Text.Utf8

set_option autoImplicit false

namespace HostRouting

/-- A rule list as read. -/
structure RuleList where
  /-- The text itself. -/
  raw : String
  /-- The rules in their order. -/
  rules : List String
  /-- The number of lines that are not blank. -/
  lineCount : Nat
  deriving DecidableEq, Repr

namespace RuleList

/-- The number of lines that are neither blank nor a rule. -/
def ignored (l : RuleList) : Nat := l.lineCount - l.rules.length

/-- Whether a trimmed line begins like a comment or a section head. -/
def isRemark : List Char → Bool
  | '#' :: _ | ';' :: _ | '[' :: _ | '/' :: '/' :: _ => true
  | _ => false

/-- The lines of a text that are not blank, trimmed. -/
def entries (text : List Char) : List (List Char) :=
  ((Text.lines '\n' '\r' text).map Text.trimmed).filter (!·.isEmpty)

/-- The rule on a trimmed line, if it holds one. -/
def rule? (line : List Char) : Option String :=
  if isRemark line then none
  else if Pattern.isValid (String.ofList line) then some (String.ofList line)
  else none

/-- The rule list of a text. -/
def parse (raw : String) : RuleList :=
  let es := entries raw.toList
  ⟨raw, es.filterMap rule?, es.length⟩

/-! ### Octets -/

/-- The text of octets, each line of it closed by a line feed; `none` if a line is not UTF-8. -/
def textOfBytes? (bytes : List UInt8) : Option (List Char) :=
  ((Text.lines 0x0A 0x0D bytes).mapM Utf8.decode?).map fun ls => ls.flatMap (· ++ ['\n'])

/-- The rule list of octets. -/
def ofBytes? (bytes : List UInt8) : Option RuleList :=
  (textOfBytes? bytes).map fun text => parse (String.ofList text)

/-- The rule list of octets, or the fault of octets that are no text. -/
def ofBytes (bytes : List UInt8) : Except Directory.Fault RuleList :=
  (ofBytes? bytes).elim (.error .notText) .ok

@[simp] theorem raw_parse (raw : String) : (parse raw).raw = raw := rfl

end RuleList

/-! ### Merging -/

/-- The rules of two lists, each once, in the order of their first occurrence. -/
def mergeRules (manual fetched : List String) : List String := (manual ++ fetched).eraseDups

end HostRouting
