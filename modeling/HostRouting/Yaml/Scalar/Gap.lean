/-
**Gaps inside scalars.**

Between two words of a scalar stand blanks, or line ends with blanks around them.  Blanks are kept
as they are.  Line ends are folded: a single line feed becomes a space, of several the first goes,
and the separators of Unicode stay.

Main definitions:

* `Yaml.Gap` — what was passed since the last word;
* `Yaml.Gap.text` — what stands for it in the scalar.
-/

import HostRouting.Yaml.Cursor

set_option autoImplicit false

namespace HostRouting.Yaml

/-- What was passed since the last word of a scalar. -/
inductive Gap where
  | none
  /-- Blanks on one line. -/
  | blanks (cs : List Char)
  /-- Line ends, whatever blanks stood around them. -/
  | breaks (cs : List Char)
  /-- A backslash that takes away the line end after it. -/
  | escaping
  /-- Line ends after one that was taken away. -/
  | escaped (cs : List Char)
  deriving DecidableEq, Repr

namespace Gap

/-- The gap with one more blank. -/
def blank (c : Char) : Gap → Gap
  | .none => .blanks [c]
  | .blanks cs => .blanks (cs ++ [c])
  | g => g

/-- The gap with one more line end. -/
def lineEnd (c : Char) : Gap → Gap
  | .none | .blanks _ => .breaks [breakText c]
  | .breaks cs => .breaks (cs ++ [breakText c])
  | .escaping => .escaped []
  | .escaped cs => .escaped (cs ++ [breakText c])

/-- Line ends as they are folded. -/
def folded : List Char → List Char
  | ['\n'] => [' ']
  | '\n' :: cs => cs
  | cs => cs

/-- What stands for a gap in the scalar. -/
def text : Gap → List Char
  | .none | .escaping => []
  | .blanks cs => cs
  | .breaks cs => folded cs
  | .escaped cs => cs

/-- Whether a gap is one between lines. -/
def isBetweenLines : Gap → Bool
  | .breaks _ | .escaped _ => true
  | _ => false

end Gap

end HostRouting.Yaml
