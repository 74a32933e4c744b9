/-
**The mapping of domain names.**

Before a name is looked up, capitals become small, presentation forms become plain letters and
invisible characters vanish; characters that could only confuse are refused.  A character without
an image stands for itself if it is graphic or one of the two joiners.

Main definitions:

* `Domain.image?` — the image of a character, `none` if no domain name may hold it;
* `Domain.mapped?` — the image of a text;
* `Domain.isFixed` — the characters that are their own image.
-/

import HostRouting.Domain.Mapping.Sequence
import HostRouting.Domain.Mapping.Shift
import HostRouting.Domain.Mapping.Single
import HostRouting.Text.Graphic

set_option autoImplicit false

namespace HostRouting.Domain

open Text (Ranges)

/-- The characters that vanish: soft hyphens, fillers, variation selectors and the like. -/
def ignored : Ranges := [
  (0x00AD, 0x00AD), (0x034F, 0x034F), (0x115F, 0x1160), (0x17B4, 0x17B5), (0x180B, 0x180F),
  (0x200B, 0x200B), (0x2060, 0x2064), (0x206A, 0x206F), (0x3164, 0x3164), (0xFE00, 0xFE0F),
  (0xFEFF, 0xFEFF), (0xFFA0, 0xFFA0), (0x1BCA0, 0x1BCA3), (0x1D173, 0x1D17A), (0xE0100, 0xE01EF)]

/-- Graphic characters without a place in a name: those whose plain form holds a full stop, the
ideographic description characters and the replacement characters. -/
def refused : Ranges := [
  (0x2024, 0x2026), (0x2488, 0x249B), (0x2FF0, 0x2FFF), (0x31EF, 0x31EF), (0x33C2, 0x33C2),
  (0x33C7, 0x33C7), (0x33D8, 0x33D8), (0xFE12, 0xFE12), (0xFE19, 0xFE19), (0xFE30, 0xFE30),
  (0xFE52, 0xFE52), (0xFFFC, 0xFFFD), (0x1F100, 0x1F100)]

/-- The zero-width non-joiner and the zero-width joiner. -/
def isJoiner (c : Char) : Bool := c == '\u200C' || c == '\u200D'

/-- The code points that `c` maps to, if it has an image of its own. -/
def tableImage? (c : Char) : Option (List Nat) :=
  ((shifted? c.toNat <|> singleImage? c.toNat).map fun n => [n]) <|> sequenceImage? c.toNat

/-- The image of a character: lower case in ASCII, nothing for what is ignored, the image in the
tables, or the character itself; `none` if it is refused. -/
def image? (c : Char) : Option (List Char) :=
  if c.toNat < 0x80 then some [c.toLower]
  else if ignored.has c then some []
  else
    match tableImage? c with
    | some ns => some (ns.map Char.ofNat)
    | none => if !refused.has c && (Text.isGraphic c || isJoiner c) then some [c] else none

/-- The image of a text, `none` if one of its characters is refused. -/
def mapped? (cs : List Char) : Option (List Char) := (cs.mapM image?).map List.flatten

/-- Whether a character is its own image. -/
def isFixed (c : Char) : Bool := image? c == some [c]

end HostRouting.Domain
