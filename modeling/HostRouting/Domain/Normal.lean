/-
**The canonical composed form of a text.**

A text is taken apart into bases and marks, the marks of each base are put into canonical order, and
bases and marks are put together again wherever a composite exists and no mark stands in between
that blocks them.  Texts that look alike and mean the same thereby become equal.

Main definitions:

* `Domain.decomposed` — the bases and marks of a text;
* `Domain.ordered` — its marks in canonical order;
* `Domain.composed` — its composites put together;
* `Domain.normalized` — the composed form of a text.
-/

import HostRouting.Domain.CombiningClass
import HostRouting.Domain.Composition

set_option autoImplicit false

namespace HostRouting.Domain

/-! ### Taking apart -/

/-- The base and marks of a character, with `fuel` bounding how many layers are taken off. -/
def layers : Nat → Char → List Char
  | 0, c => [c]
  | fuel + 1, c =>
      match decompose? c with
      | none => [c]
      | some (a, b) => layers fuel a ++ [b]

/-- The bases and marks of a text.  No character has more than three layers. -/
def decomposed (cs : List Char) : List Char := cs.flatMap (layers 4)

/-! ### Canonical order -/

/-- Puts `c` at the end of a text given in reverse, before the marks of a higher class. -/
def settle (c : Char) : List Char → List Char
  | [] => [c]
  | d :: ds =>
      if combiningClass c ≠ 0 ∧ combiningClass c < combiningClass d then d :: settle c ds
      else c :: d :: ds

/-- A text with the marks of every base in the order of their classes. -/
def ordered (cs : List Char) : List Char := (cs.foldl (fun out c => settle c out) []).reverse

/-! ### Putting together -/

/-- Whether a mark kept after the base stands between it and `c`. -/
def isBlocked (kept : List Char) (c : Char) : Bool :=
  match kept with
  | [] => false
  | d :: _ => combiningClass c ≤ combiningClass d

/-- Composes a text that begins with the base `s`; `kept` holds, in reverse, the marks after it
that found no composite. -/
def composeFrom (s : Char) (kept : List Char) : List Char → List Char
  | [] => s :: kept.reverse
  | c :: cs =>
      match if isBlocked kept c then none else compose? s c with
      | some x => composeFrom x kept cs
      | none =>
          if combiningClass c = 0 then s :: kept.reverse ++ composeFrom c [] cs
          else composeFrom s (c :: kept) cs

/-- A text with its composites put together. -/
def composed : List Char → List Char
  | [] => []
  | c :: cs => if combiningClass c = 0 then composeFrom c [] cs else c :: composed cs

/-- The composed form of a text. -/
def normalized (cs : List Char) : List Char := composed (ordered (decomposed cs))

@[simp] theorem normalized_nil : normalized [] = [] := rfl

end HostRouting.Domain
