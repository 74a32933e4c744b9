/-
**Valid pattern texts.**

The text of a host pattern has 1 to 255 octets and consists of ASCII letters, digits, `.`, `-`, `*`
and `?`.  A text that breaks several of these rules is reported for the first of them, and for its
first bad character.

Main definitions:

* `Pattern.Fault` — why a text is no pattern, with `Pattern.Fault.message`;
* `Pattern.fault?` — the fault of a text, if it has one;
* `Pattern.isValid` — whether it has none.
-/

import HostRouting.Text.Quoted

set_option autoImplicit false

namespace HostRouting.Pattern

/-- Why a text is no pattern. -/
inductive Fault where
  /-- It is empty. -/
  | empty
  /-- It has `length` octets, which are too many. -/
  | tooLong (length : Nat)
  /-- The pattern holds the character `char`, which may not stand in one. -/
  | disallowed (pattern : String) (char : Char)
  deriving DecidableEq, Repr

/-- The greatest length of a pattern, in octets. -/
def maxLength : Nat := 255

/-- Whether a character may stand in a pattern. -/
def admits (c : Char) : Bool := c.isAlphanum || c == '*' || c == '.' || c == '?' || c == '-'

/-- The fault of a text, if it has one. -/
def fault? (text : String) : Option Fault :=
  if text.isEmpty then some .empty
  else if maxLength < text.utf8ByteSize then some (.tooLong text.utf8ByteSize)
  else (text.toList.find? (!admits ·)).map (.disallowed text)

/-- Whether a text is a pattern. -/
def isValid (text : String) : Bool := (fault? text).isNone

/-- The wording of a fault. -/
def Fault.message : Fault → String
  | .empty => "empty pattern"
  | .tooLong length =>
      "pattern too long (" ++ String.ofList (Text.decimal length) ++ " characters, max "
        ++ String.ofList (Text.decimal maxLength) ++ ")"
  | .disallowed pattern char =>
      "disallowed character " ++ Text.quotedChar char ++ " in pattern: " ++ pattern

theorem isValid_iff {text : String} : isValid text = true ↔ fault? text = none := by
  simp [isValid]

end HostRouting.Pattern
