/-
**IPv4 addresses as URLs write them.**

A host name whose last label is a number stands for an IPv4 address.  It has up to four parts, each
decimal, octal (leading `0`) or hexadecimal (leading `0x`); every part but the last is one byte and
the last fills the bytes that are left.

Main definitions:

* `Url.Ipv4` — an address, with its dotted text;
* `Url.endsInNumber` — whether a name has to be read as an address;
* `Url.Ipv4.ofName?` — the address that such a name stands for.
-/

import HostRouting.Text.Decimal
import HostRouting.Text.Lines

set_option autoImplicit false

namespace HostRouting.Url

/-- An IPv4 address, as a number below 2³². -/
structure Ipv4 where
  bits : Nat
  bits_lt : bits < 0x100000000
  deriving DecidableEq, Repr

/-- The four bytes of an address. -/
def Ipv4.bytes (a : Ipv4) : List Nat :=
  [a.bits / 0x1000000, a.bits / 0x10000 % 0x100, a.bits / 0x100 % 0x100, a.bits % 0x100]

/-- The dotted decimal text of an address. -/
def Ipv4.text (a : Ipv4) : String :=
  String.ofList (List.intercalate ['.'] (a.bytes.map Text.decimal))

/-- What a part of an address says. -/
inductive AddressPart where
  /-- A number that may be too large for an address. -/
  | number (n : Nat)
  /-- No number at all. -/
  | other
  deriving DecidableEq, Repr

/-- A text of digits as a part. -/
def AddressPart.ofDigits (base : Nat) (digits : List Char) : AddressPart :=
  match Text.number? base digits with
  | some n => .number n
  | none => .other

/-- Reads one part: hexadecimal after `0x`, octal after `0`, decimal otherwise; a base without
digits stands for 0. -/
def AddressPart.ofText : List Char → AddressPart
  | [] => .other
  | '0' :: 'x' :: digits | '0' :: 'X' :: digits => .ofDigits 16 digits
  | ['0'] => .number 0
  | '0' :: digits => .ofDigits 8 digits
  | digits => .ofDigits 10 digits

/-- The parts of a name, without the empty one after a final full stop. -/
def addressParts (name : List Char) : List (List Char) :=
  let ps := Text.pieces '.' name
  if ps.getLast? = some [] then ps.dropLast else ps

/-- Whether the last label of a name is a number, a final full stop aside. -/
def endsInNumber (name : List Char) : Bool :=
  match (addressParts name).getLast? with
  | none => false
  | some part => (!part.isEmpty && part.all (Text.isDigit 10)) || AddressPart.ofText part != .other

/-- The address made of the leading bytes and a last number that fills what they leave. -/
def Ipv4.ofNumbers? (lead : List Nat) (last : Nat) : Option Ipv4 :=
  let place := Nat.pow 256 (4 - lead.length)
  if lead.length ≤ 3 ∧ lead.all (· ≤ 255) = true ∧ last < place then
    let bits := lead.foldl (fun n b => n * 256 + b) 0 * place + last
    if h : bits < 0x100000000 then some ⟨bits, h⟩ else none
  else none

/-- The number that a part stands for. -/
def AddressPart.number? : AddressPart → Option Nat
  | .number n => some n
  | .other => none

/-- The address that a name stands for. -/
def Ipv4.ofName? (name : List Char) : Option Ipv4 := do
  let numbers ← (addressParts name).mapM fun part => (AddressPart.ofText part).number?
  let last ← numbers.getLast?
  Ipv4.ofNumbers? numbers.dropLast last

end HostRouting.Url
