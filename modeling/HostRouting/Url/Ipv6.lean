/-
**IPv6 addresses.**

An address is eight groups of up to four hexadecimal digits between colons.  One gap `::` stands for
one or more groups of zero, and the last two groups may be written as a dotted IPv4 address.

Main definitions:

* `Url.Ipv6` — an address: its eight groups;
* `Url.Ipv6.ofText?` — the address that a text stands for;
* `Url.Ipv6.text` — the shortest text, with the first longest run of zeros as the gap;
* `Url.Ipv6.mappedText` — the same, but an address that carries an IPv4 address shows it dotted.
-/

import HostRouting.Text.Decimal
import HostRouting.Text.Lines

set_option autoImplicit false

namespace HostRouting.Url

/-- An IPv6 address, as its eight groups. -/
structure Ipv6 where
  groups : List Nat
  length_groups : groups.length = 8
  deriving DecidableEq, Repr

namespace Ipv6

/-! ### Reading -/

/-- The address of given groups, if they are eight. -/
def ofGroups? (gs : List Nat) : Option Ipv6 := if h : gs.length = 8 then some ⟨gs, h⟩ else none

/-- A group: one to four hexadecimal digits. -/
def group? (cs : List Char) : Option Nat :=
  if 1 ≤ cs.length ∧ cs.length ≤ 4 then Text.number? 16 cs else none

/-- A byte of a dotted address: decimal, without leading zeros. -/
def byte? (cs : List Char) : Option Nat :=
  match cs with
  | [] => none
  | '0' :: _ :: _ => none
  | _ => (Text.number? 10 cs).filter (· ≤ 255)

/-- The two groups of a dotted address. -/
def dotted? (cs : List Char) : Option (List Nat) :=
  match (Text.pieces '.' cs).mapM byte? with
  | some [a, b, c, d] => some [a * 256 + b, c * 256 + d]
  | _ => none

/-- The groups of pieces between colons, the last of which may be dotted. -/
def tail? : List (List Char) → Option (List Nat)
  | [] => some []
  | [last] => if last.contains '.' then dotted? last else (group? last).map fun g => [g]
  | p :: ps => do
      let g ← group? p
      let gs ← tail? ps
      some (g :: gs)

/-- What stands before and after the first gap. -/
def atGap? : List Char → Option (List Char × List Char)
  | [] => none
  | ':' :: ':' :: cs => some ([], cs)
  | c :: cs => (atGap? cs).map fun (before, after) => (c :: before, after)

/-- The pieces between colons; nothing has none. -/
def colonPieces (cs : List Char) : List (List Char) :=
  if cs.isEmpty then [] else Text.pieces ':' cs

/-- The address that a text stands for. -/
def ofText? (cs : List Char) : Option Ipv6 :=
  match atGap? cs with
  | none => (tail? (colonPieces cs)).bind ofGroups?
  | some (before, after) => do
      let a ← (colonPieces before).mapM group?
      let b ← tail? (colonPieces after)
      guard (a.length + b.length < 8)
      ofGroups? (a ++ List.replicate (8 - (a.length + b.length)) 0 ++ b)

/-! ### Writing -/

/-- Where the first longest run of zeros begins, and its length. -/
def zeroRun (gs : List Nat) : Nat × Nat :=
  ((List.range gs.length).map fun i => (i, ((gs.drop i).takeWhile (· == 0)).length)).foldl
    (fun best run => if best.2 < run.2 then run else best) (0, 0)

/-- Groups with colons in between. -/
def joined (gs : List Nat) : List Char := List.intercalate [':'] (gs.map Text.hex)

/-- The shortest text of an address: a run of two or more zeros becomes the gap. -/
def text (a : Ipv6) : String :=
  let (start, length) := zeroRun a.groups
  String.ofList <|
    if length < 2 then joined a.groups
    else joined (a.groups.take start) ++ [':', ':'] ++ joined (a.groups.drop (start + length))

/-- The text of an address in which one that carries an IPv4 address shows it dotted. -/
def mappedText (a : Ipv6) : String :=
  match a.groups with
  | [0, 0, 0, 0, 0, 0xFFFF, m, n] =>
      "::ffff:" ++ String.ofList
        (List.intercalate ['.'] ([m / 256, m % 256, n / 256, n % 256].map Text.decimal))
  | _ => a.text

end Ipv6

end HostRouting.Url
