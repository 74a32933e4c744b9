/-
**The ASCII form of a domain name.**

The name is mapped, put into composed form and cut into labels at its full stops.  Every label has
to be valid, the labels together have to keep the direction rule, and no character may be one that
URLs give a meaning of its own.  The ASCII form then writes each label in Punycode where it has to.
A name of plain ASCII labels takes a short way: it only changes to lower case.

Main definitions:

* `Domain.isForbidden` — the ASCII characters that no domain name holds;
* `Domain.toAscii?` — the ASCII form of a name, `none` if it has none.
-/

import HostRouting.Domain.Label
import HostRouting.Text.Lines

set_option autoImplicit false

namespace HostRouting.Domain

/-- The ASCII characters that no domain name holds: controls, the space, and the delimiters of
URLs. -/
def isForbidden (c : Char) : Bool :=
  c.toNat ≤ 0x20 || c.toNat == 0x7F || "%#/:<>?@[\\]^|".toList.contains c

/-- The labels of a name. -/
def labels (name : List Char) : List (List Char) := Text.pieces '.' name

/-- The name made of given labels. -/
def joinLabels (ls : List (List Char)) : List Char := List.intercalate ['.'] ls

/-- Whether a name holds ASCII characters only and no encoded label. -/
def isPlain (name : List Char) : Bool :=
  Label.isAscii name &&
    (labels (name.map Char.toLower)).all fun label => (Label.encoded? label).isNone

/-- Whether the labels of a name, as what they stand for, keep the direction rule. -/
def keepDirection (ls : List (List Char)) : Bool :=
  !ls.any Label.hasRightToLeft || ls.all Label.keepsDirection

/-- The ASCII form of a name after mapping and composition. -/
def labelwiseAscii? (name : List Char) : Option (List Char) := do
  guard (!name.any isForbidden)
  let ls := labels name
  let meant ← ls.mapM Label.unicode?
  guard (keepDirection meant)
  some (joinLabels (ls.map Label.ascii))

/-- The ASCII form of a name. -/
def toAscii? (name : List Char) : Option (List Char) :=
  if isPlain name then
    if name.any isForbidden then none else some (name.map Char.toLower)
  else (mapped? name).bind fun image => labelwiseAscii? (normalized image)

end HostRouting.Domain
