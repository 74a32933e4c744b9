/-
**Labels of a domain name.**

A domain name is a list of labels between full stops.  A label that begins with `xn--` stands for
the label its Punycode decodes to, and that label must be one which needed encoding: it holds a
character outside ASCII, is in composed form, and each of its characters is its own image.  No
label begins with a combining mark, joiners stand only where they are meaningful, and in a name
with right-to-left letters every label keeps to one direction.

Main definitions:

* `Domain.Label.unicode?` — what a label stands for;
* `Domain.Label.ascii` — how it is written;
* `Domain.Label.keepsDirection` — the direction rule for one label.
-/

import HostRouting.Domain.Direction
import HostRouting.Domain.Joining
import HostRouting.Domain.Mapping
import HostRouting.Domain.Normal
import HostRouting.Domain.Punycode

set_option autoImplicit false

namespace HostRouting.Domain.Label

/-- Whether a text holds ASCII characters only. -/
def isAscii (cs : List Char) : Bool := cs.all (·.toNat < 0x80)

/-- The mark of an encoded label. -/
def encodedMark : List Char := ['x', 'n', '-', '-']

/-- The rest of a label after the mark of encoded labels. -/
def encoded? (label : List Char) : Option (List Char) :=
  if encodedMark.isPrefixOf label then some (label.drop 4) else none

/-! ### Joiners -/

/-- Whether the first character of `cs` that is not transparent satisfies `p`. -/
def reaches (p : Char → Bool) (cs : List Char) : Bool :=
  ((cs.dropWhile isTransparent).head?.map p).getD false

/-- Whether a joiner may stand between `before`, given in reverse, and `after`: any joiner after a
virama, and a non-joiner also where it keeps two joining letters apart. -/
def admitsJoiner (before : List Char) (joiner : Char) (after : List Char) : Bool :=
  (before.head?.map isVirama).getD false ||
    (joiner == '\u200C' && reaches joinsNext before && reaches joinsPrevious after)

/-- Whether every joiner of a text is meaningful; `before` holds what precedes, in reverse. -/
def joinersHold (before : List Char) : List Char → Bool
  | [] => true
  | c :: cs => (!isJoiner c || admitsJoiner before c cs) && joinersHold (c :: before) cs

/-! ### Validity -/

/-- Whether a label begins with something other than a mark and its joiners are meaningful. -/
def isWellFormed (label : List Char) : Bool :=
  !((label.head?.map Text.isMark).getD false) && joinersHold [] label

/-- Whether a decoded label is one that needed encoding. -/
def neededEncoding (label : List Char) : Bool :=
  !isAscii label && label.all isFixed && normalized label == label && isWellFormed label

/-- What a label stands for, `none` if it is not valid. -/
def unicode? (label : List Char) : Option (List Char) :=
  match encoded? label with
  | some code => (Punycode.decode? code).filter neededEncoding
  | none => if isWellFormed label then some label else none

/-- How a label is written. -/
def ascii (label : List Char) : List Char :=
  if isAscii label then label else encodedMark ++ Punycode.encode label

/-! ### Direction -/

/-- Whether a label holds a letter or digit of a right-to-left script. -/
def hasRightToLeft (label : List Char) : Bool :=
  label.any fun c => direction c == .right || direction c == .arabicDigit

/-- The direction of the last character that is not a mark. -/
def lastDirection? (ds : List Direction) : Option Direction :=
  (ds.reverse.dropWhile (· == .mark)).head?

/-- Whether a label keeps to the direction its first character gives: right-to-left labels hold no
left-to-right letter and not both sets of digits, left-to-right labels nothing of the right-to-left
scripts, and each ends, marks aside, in a letter or digit of its own. -/
def keepsDirection (label : List Char) : Bool :=
  let ds := label.map direction
  match ds.head? with
  | none => true
  | some .right =>
      !ds.contains .left && !(ds.contains .europeanDigit && ds.contains .arabicDigit) &&
        (match lastDirection? ds with
         | some .right | some .europeanDigit | some .arabicDigit => true
         | _ => false)
  | some .left =>
      !ds.contains .right && !ds.contains .arabicDigit &&
        (match lastDirection? ds with
         | some .left | some .europeanDigit => true
         | _ => false)
  | some _ => false

end HostRouting.Domain.Label
