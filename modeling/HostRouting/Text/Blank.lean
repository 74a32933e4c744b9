/-
**Blank characters and trimming.**

Blank means the Unicode property `White_Space`: the controls U+0009 to U+000D, U+0085, the space,
the no-break space and the spaces of the general punctuation and ideographic blocks.  The
zero-width space U+200B and the byte order mark U+FEFF are not blank.

Main definitions:

* `Text.isBlank` — membership in `White_Space`;
* `Text.trimmed`, `Text.trim` — a text without the blanks at its two ends.
-/

import HostRouting.Text.Ranges

set_option autoImplicit false

namespace HostRouting.Text

/-- The code points of `White_Space`. -/
def blanks : Ranges := [
  (0x0009, 0x000D), (0x0020, 0x0020), (0x0085, 0x0085), (0x00A0, 0x00A0), (0x1680, 0x1680),
  (0x2000, 0x200A), (0x2028, 0x2029), (0x202F, 0x202F), (0x205F, 0x205F), (0x3000, 0x3000)]

/-- Whether `c` is a blank character. -/
def isBlank (c : Char) : Bool := blanks.has c

/-- The characters of a text without the blanks at its two ends. -/
def trimmed (cs : List Char) : List Char :=
  ((cs.dropWhile isBlank).reverse.dropWhile isBlank).reverse

/-- A text without the blanks at its two ends. -/
def trim (s : String) : String := String.ofList (trimmed s.toList)

/-- Whether nothing but blanks is left of a text. -/
def isBlankText (s : String) : Bool := (trimmed s.toList).isEmpty

@[simp] theorem trimmed_nil : trimmed [] = [] := rfl

@[simp] theorem toList_trim (s : String) : (trim s).toList = trimmed s.toList := by
  simp [trim]

end HostRouting.Text
