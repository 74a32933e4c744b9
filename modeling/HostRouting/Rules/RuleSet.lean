/-
**Rule sets.**

A rule set holds the patterns of a rule list in their order; texts that are no pattern are left out.
A host is matched if any pattern matches it, so order and repetition make no difference.

Main definitions:

* `RuleSet` — patterns in order, with `RuleSet.add` and `RuleSet.ofTexts`;
* `RuleSet.matchesHost` — whether some pattern matches a host;
* `RuleSet.target` — the target of a host under a mode.
-/

import HostRouting.Pattern.Basic
import HostRouting.Routing.Mode

set_option autoImplicit false

namespace HostRouting

/-- The patterns of a rule list. -/
structure RuleSet where
  patterns : List Pattern
  deriving DecidableEq, Repr

namespace RuleSet

/-- The rule set without patterns. -/
def empty : RuleSet := ⟨[]⟩

/-- The pattern of a text, if it is one. -/
def pattern? (text : String) : Option Pattern := (Pattern.parse text).toOption

/-- The rule set with the pattern of one more text; a text that is no pattern adds nothing. -/
def add (rs : RuleSet) (text : String) : RuleSet := ⟨rs.patterns ++ (pattern? text).toList⟩

/-- The rule set of a list of texts. -/
def ofTexts (texts : List String) : RuleSet := ⟨texts.filterMap pattern?⟩

/-- The number of patterns. -/
def size (rs : RuleSet) : Nat := rs.patterns.length

/-- Whether there are no patterns. -/
def isEmpty (rs : RuleSet) : Bool := rs.patterns.isEmpty

/-- Whether some pattern matches a host. -/
def matchesHost (rs : RuleSet) (host : String) : Bool := rs.patterns.any (·.matchesHost host)

/-- The target of a host under a mode. -/
def target (rs : RuleSet) (mode : Mode) (host : String) : Target :=
  mode.target (rs.matchesHost host)

@[simp] theorem matchesHost_empty (host : String) : empty.matchesHost host = false := rfl

@[simp] theorem patterns_ofTexts (texts : List String) :
    (ofTexts texts).patterns = texts.filterMap pattern? := rfl

/-- Adding texts one by one gives the rule set of the list. -/
theorem foldl_add (rs : RuleSet) (texts : List String) :
    texts.foldl add rs = ⟨rs.patterns ++ texts.filterMap pattern?⟩ := by
  induction texts generalizing rs with
  | nil => simp
  | cons t ts ih =>
      rw [List.foldl_cons, ih]
      cases h : pattern? t <;> simp [add, h]

end RuleSet

end HostRouting
