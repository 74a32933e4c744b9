/-
**Words without regard to letter case.**

A word of ASCII letters is recognised in any letter case.  Apart from the capitals of ASCII only the
Kelvin sign U+212A has a lower case that is an ASCII letter, so folding these is enough to compare
with such a word.

Main definitions:

* `Text.lower` — the lower case of a character, as far as it is ASCII;
* `Text.isWord` — whether a text is a given word in some letter case.
-/

set_option autoImplicit false

namespace HostRouting.Text

/-- The lower case of a character if that is an ASCII letter, else the character. -/
def lower (c : Char) : Char := if c = '\u212A' then 'k' else c.toLower

/-- Whether a text is `word`, which is in lower case, in some letter case. -/
def isWord (word : String) (cs : List Char) : Bool := cs.map lower == word.toList

@[simp] theorem lower_kelvin : lower '\u212A' = 'k' := rfl

end HostRouting.Text
