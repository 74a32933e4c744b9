/-
**Quoted characters and names.**

A quoted text shows every character that a reader could not see or tell apart: controls, separators
and the like as their code point, a combining mark too since it would melt into the quote before
it.  A few characters have short escapes, and so have the backslash and the quotes themselves.

Main definitions:

* `Text.quotedChar` — a character between single quotes;
* `Text.quotedName` — a file name between double quotes.
-/

import HostRouting.Text.Decimal
import HostRouting.Text.Graphic
import HostRouting.Text.Mark

set_option autoImplicit false

namespace HostRouting.Text

/-- Whether a character is shown as it is. -/
def isShown (c : Char) : Bool := isGraphic c && !extendsGrapheme c

/-- The code point of a character, written as an escape. -/
def codeEscape (c : Char) : List Char := ['\\', 'u', '\x7b'] ++ hex c.toNat ++ ['\x7d']

/-- A character as it stands inside quotes, of which those in `quotes` are escaped. -/
def escaped (quotes : List Char) (c : Char) : List Char :=
  if c = '\x00' then ['\\', '0']
  else if c = '\t' then ['\\', 't']
  else if c = '\n' then ['\\', 'n']
  else if c = '\r' then ['\\', 'r']
  else if c = '\\' ∨ c ∈ quotes then ['\\', c]
  else if isShown c then [c]
  else codeEscape c

/-- A character between single quotes; a double quote needs no escape there. -/
def quotedChar (c : Char) : String :=
  String.ofList (['\''] ++ escaped ['\''] c ++ ['\''])

/-- A file name between double quotes, quotes of either kind escaped. -/
def quotedName (name : String) : String :=
  String.ofList (['\"'] ++ name.toList.flatMap (escaped ['\'', '\"']) ++ ['\"'])

end HostRouting.Text
