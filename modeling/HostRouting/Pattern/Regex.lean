/-
**The regular expressions of globs.**

A script tests a host against a glob by a regular expression.  Its terms are single characters and
the class of all characters but the four line terminators, and the class may be repeated.  The text
means the same in every dialect that reads it by code points.

Main definitions:

* `Regex.Term`, `Regex` — a term, and a sequence of terms;
* `Regex.text` — the text of a regular expression, without anchors;
* `Regex.ofGlob` — the regular expression that means a glob.
-/

import HostRouting.Pattern.Glob

set_option autoImplicit false

namespace HostRouting

/-- A term of a regular expression. -/
inductive Regex.Term where
  /-- Just this character. -/
  | char (c : Char)
  /-- One character that is no line terminator. -/
  | inLine
  /-- Any number of such characters. -/
  | inLines
  deriving DecidableEq, Repr

/-- A regular expression: its terms in order. -/
abbrev Regex := List Regex.Term

namespace Regex

/-- The class of all characters but the line terminators. -/
def inLineText : List Char := "[^\\n\\r\\u2028\\u2029]".toList

/-- The text of a term; the full stop, which would mean any character, is escaped. -/
def Term.chars : Term → List Char
  | .char c => if c = '.' then ['\\', '.'] else [c]
  | .inLine => inLineText
  | .inLines => inLineText ++ ['*']

/-- The characters of the text of a regular expression. -/
def chars (r : Regex) : List Char := r.flatMap Term.chars

/-- The text of a regular expression, without anchors. -/
def text (r : Regex) : String := String.ofList r.chars

/-- The term that means an item of a glob. -/
def Term.ofItem : Glob.Item → Term
  | .literal c => .char c
  | .one => .inLine
  | .run => .inLines

/-- The regular expression that means a glob. -/
def ofGlob (source : List Char) : Regex := (Glob.items source).map Term.ofItem

@[simp] theorem chars_nil : chars [] = [] := rfl

@[simp] theorem chars_cons (t : Term) (r : Regex) : chars (t :: r) = t.chars ++ chars r := rfl

end Regex

end HostRouting
