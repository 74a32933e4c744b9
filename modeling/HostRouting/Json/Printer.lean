/-
**Writing JSON.**

A document is written over several lines, each level indented by two spaces; an empty array or
object takes no lines of its own.  Quotes, backslashes and the control characters below the space
are escaped, everything else stands as it is.

Main definitions:

* `Json.quoted` — a text between quotes;
* `Json.indented` — the text of a document.
-/

import HostRouting.Json.Basic
import HostRouting.Text.Decimal

set_option autoImplicit false

namespace HostRouting.Json

/-! ### Texts -/

/-- The escape of a code unit: four hexadecimal digits. -/
def codeEscape (n : Nat) : List Char :=
  let ds := Text.hex n
  ['\\', 'u'] ++ List.replicate (4 - ds.length) '0' ++ ds

/-- A character as it stands in a text. -/
def escaped (c : Char) : List Char :=
  if c = '"' then ['\\', '"']
  else if c = '\\' then ['\\', '\\']
  else if c = '\x08' then ['\\', 'b']
  else if c = '\x0C' then ['\\', 'f']
  else if c = '\n' then ['\\', 'n']
  else if c = '\r' then ['\\', 'r']
  else if c = '\t' then ['\\', 't']
  else if c.toNat < 0x20 then codeEscape c.toNat
  else [c]

/-- A text between quotes; one that is no string shows half of a surrogate pair. -/
def quoted : Option String → List Char
  | some s => ['"'] ++ s.toList.flatMap escaped ++ ['"']
  | none => ['"'] ++ codeEscape 0xD800 ++ ['"']

/-! ### Numbers -/

/-- The text of an integer. -/
def integerText (n : Int) : List Char :=
  if n < 0 then '-' :: Text.decimal n.natAbs else Text.decimal n.natAbs

/-- The text of a number. -/
def numeralText : Numeral → List Char
  | .integer n => integerText n
  | .decimal negative significand exponent =>
      (if negative then ['-'] else []) ++ Text.decimal significand ++ ['e'] ++ integerText exponent

/-! ### Documents -/

/-- The start of a line at a level. -/
def lineStart (level : Nat) : List Char := '\n' :: List.replicate (2 * level) ' '

mutual

/-- The text of a document whose first line began at a level. -/
def render (level : Nat) : Json → List Char
  | .null => "null".toList
  | .bool b => if b then "true".toList else "false".toList
  | .number n => numeralText n
  | .string s => quoted s
  | .array [] => ['[', ']']
  | .array (j :: js) =>
      ['['] ++ lineStart (level + 1) ++ render (level + 1) j ++ renderItems (level + 1) js
        ++ lineStart level ++ [']']
  | .object [] => ['\x7b', '\x7d']
  | .object ((key, j) :: ms) =>
      ['\x7b'] ++ lineStart (level + 1) ++ quoted key ++ [':', ' '] ++ render (level + 1) j
        ++ renderMembers (level + 1) ms ++ lineStart level ++ ['\x7d']

/-- The items of an array after the first. -/
def renderItems (level : Nat) : List Json → List Char
  | [] => []
  | j :: js => [','] ++ lineStart level ++ render level j ++ renderItems level js

/-- The members of an object after the first. -/
def renderMembers (level : Nat) : List (Option String × Json) → List Char
  | [] => []
  | (key, j) :: ms =>
      [','] ++ lineStart level ++ quoted key ++ [':', ' '] ++ render level j
        ++ renderMembers level ms

end

/-- The text of a document over several lines. -/
def indented (j : Json) : String := String.ofList (render 0 j)

end HostRouting.Json
