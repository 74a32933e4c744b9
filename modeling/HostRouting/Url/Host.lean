/-
**Hosts of URLs.**

For the web schemes a host is a bracketed IPv6 address, or a domain name, percent-decoded and turned
into ASCII, which stands for an IPv4 address if it ends in a number.  Other schemes keep the host as
it is written: only what is not printable ASCII is percent-encoded.

Main definitions:

* `Url.Fault` — why a text is no URL, with `Url.Fault.message`;
* `Url.Host` — a host, with its texts;
* `Url.Host.ofName`, `Url.Host.ofOpaque` — the host of a web scheme and of another scheme.
-/

import HostRouting.Domain.Name
import HostRouting.Text.Utf8
import HostRouting.Url.Ipv4
import HostRouting.Url.Ipv6

set_option autoImplicit false

namespace HostRouting.Url

/-! ### Faults -/

/-- Why a text is no URL. -/
inductive Fault where
  /-- It begins with no scheme. -/
  | relative
  /-- The authority has no host. -/
  | emptyHost
  /-- The host is not a domain name. -/
  | domainName
  /-- An opaque host holds a delimiter. -/
  | hostCharacter
  /-- The host ends in a number but is no IPv4 address. -/
  | ipv4
  /-- The host is bracketed but is no IPv6 address. -/
  | ipv6
  /-- The port is no number below 65536. -/
  | port
  deriving DecidableEq, Repr

/-- The wording of a fault. -/
def Fault.message : Fault → String
  | .relative => "relative URL without a base"
  | .emptyHost => "empty host"
  | .domainName => "invalid international domain name"
  | .hostCharacter => "invalid domain character"
  | .ipv4 => "invalid IPv4 address"
  | .ipv6 => "invalid IPv6 address"
  | .port => "invalid port number"

/-! ### Hosts -/

/-- A host. -/
inductive Host where
  | domain (name : String)
  | ipv4 (address : Ipv4)
  | ipv6 (address : Ipv6)
  deriving DecidableEq, Repr

/-- The host as it stands in a URL. -/
def Host.text : Host → String
  | .domain name => name
  | .ipv4 a => a.text
  | .ipv6 a => "[" ++ a.text ++ "]"

/-- The host as a name to be matched: without brackets. -/
def Host.plainText : Host → String
  | .domain name => name
  | .ipv4 a => a.text
  | .ipv6 a => a.mappedText

/-! ### Percent signs -/

/-- The octets of a text in which `%` and two hexadecimal digits stand for one octet. -/
def percentDecoded : List Char → List UInt8
  | [] => []
  | '%' :: a :: b :: cs =>
      match Text.digitValue? 16 a, Text.digitValue? 16 b with
      | some x, some y => UInt8.ofNat (x * 16 + y) :: percentDecoded cs
      | _, _ => 0x25 :: percentDecoded (a :: b :: cs)
  | c :: cs => String.utf8EncodeChar c ++ percentDecoded cs

/-- An octet as `%` and two hexadecimal digits. -/
def percentOctet (b : UInt8) : List Char :=
  let digit (n : Nat) : Char := if n < 10 then Char.ofNat (0x30 + n) else Char.ofNat (0x37 + n)
  ['%', digit (b.toNat / 16), digit (b.toNat % 16)]

/-- A text with everything but printable ASCII percent-encoded. -/
def percentEncoded (cs : List Char) : List Char :=
  cs.flatMap fun c =>
    if 0x20 ≤ c.toNat ∧ c.toNat < 0x7F then [c]
    else (String.utf8EncodeChar c).flatMap percentOctet

/-! ### Reading -/

/-- The text between brackets: `none` without an opening one, an empty answer inside without a
closing one. -/
def bracketed? : List Char → Option (Option (List Char))
  | '[' :: cs => some (if cs.getLast? = some ']' then some cs.dropLast else none)
  | _ => none

/-- A bracketed host. -/
def Host.ofBracketed (inside : Option (List Char)) : Except Fault Host :=
  match inside.bind Ipv6.ofText? with
  | some a => .ok (.ipv6 a)
  | none => .error .ipv6

/-- The host that an ASCII name stands for. -/
def Host.ofAscii (name : List Char) : Except Fault Host :=
  if name.isEmpty then .error .emptyHost
  else if endsInNumber name then
    match Ipv4.ofName? name with
    | some a => .ok (.ipv4 a)
    | none => .error .ipv4
  else .ok (.domain (String.ofList name))

/-- The ASCII form of the name that a host text spells. -/
def asciiName? (cs : List Char) : Option (List Char) :=
  (Utf8.decode? (percentDecoded cs)).bind Domain.toAscii?

/-- The host of a web scheme. -/
def Host.ofName (cs : List Char) : Except Fault Host :=
  match bracketed? cs with
  | some inside => Host.ofBracketed inside
  | none =>
      match asciiName? cs with
      | some name => Host.ofAscii name
      | none => .error .domainName

/-- The characters that delimit and so stand in no opaque host. -/
def isHostDelimiter (c : Char) : Bool := "\x00\t\n\r #/:<>?@[\\]^|".toList.contains c

/-- The host of another scheme. -/
def Host.ofOpaque (cs : List Char) : Except Fault Host :=
  match bracketed? cs with
  | some inside => Host.ofBracketed inside
  | none =>
      if cs.any isHostDelimiter then .error .hostCharacter
      else .ok (.domain (String.ofList (percentEncoded cs)))

end HostRouting.Url
