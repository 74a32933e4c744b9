/-
**URLs.**

Of a URL the library needs the scheme, the host and the port.  They are read from the parts of the
text: the host by the rules of its scheme, the port as a number that is kept only if it differs from
the one the scheme implies.

Main definitions:

* `Url` — scheme, host and port;
* `Url.parse` — the URL of a text, or why it is none.
-/

import HostRouting.Url.Parts

set_option autoImplicit false

namespace HostRouting

/-- Scheme, host and port of a URL.  The port is `none` where the text gives none or the one that
the scheme implies. -/
structure Url where
  scheme : String
  host : Option Url.Host
  port : Option Nat
  deriving DecidableEq, Repr

namespace Url

/-! ### Ports -/

/-- The port that a text gives: nothing without digits, a fault if it is no number below 65536. -/
def portOf (scheme : String) (text : List Char) : Except Fault (Option Nat) :=
  let digits := text.takeWhile (!isSlash ·)
  match Text.number? 10 digits with
  | none => .error .port
  | some n =>
      if 65535 < n then .error .port
      else .ok (if digits.isEmpty ∨ defaultPort? scheme = some n then none else some n)

/-! ### Drive letters -/

/-- The segments of a path that begins with a slash, up to the query. -/
def segments (rest : List Char) : List (List Char) :=
  let path := rest.takeWhile fun c => !(c == '?' || c == '#')
  Text.pieces '/' ((path.drop 1).map fun c => if c == '\\' then '/' else c)

/-- A segment with its percent-encoded full stops decoded. -/
def dots : List Char → List Char
  | '%' :: '2' :: 'e' :: cs | '%' :: '2' :: 'E' :: cs => '.' :: dots cs
  | c :: cs => c :: dots cs
  | [] => []

/-- Whether the first segment of a path is a drive letter once dot segments are resolved; `depth`
counts the segments kept so far. -/
def beginsWithDrive (depth : Nat) : List (List Char) → Bool
  | [] => false
  | s :: ss =>
      if dots s = ['.'] then beginsWithDrive depth ss
      else if dots s = ['.', '.'] then beginsWithDrive (depth - 1) ss
      else if depth = 0 ∧ isDriveLetter s = true then true
      else beginsWithDrive (depth + 1) ss

/-! ### Reading -/

/-- The host of a `file` URL: none for `localhost`, and none before a drive letter. -/
def fileHost (host rest : List Char) : Except Fault (Option Host) := do
  if host.isEmpty then return none
  let h ← Host.ofName host
  if h = .domain "localhost" ∨ beginsWithDrive 0 (segments rest) = true then return none
  return some h

/-- The host and port of an authority under a web scheme. -/
def webAuthority (scheme : String) (a : Authority) : Except Fault Url := do
  if a.host.isEmpty then throw .emptyHost
  let host ← Host.ofName a.host
  let port ← portOf scheme (a.port.getD [])
  return ⟨scheme, some host, port⟩

/-- The host and port of an authority under another scheme: the host may be empty if neither a user
nor a port needs it. -/
def otherAuthority (scheme : String) (a : Authority) : Except Fault Url := do
  let host ← Host.ofOpaque a.host
  if a.host.isEmpty then
    if a.port.isSome ∨ a.hasUser = true then throw .emptyHost
    return ⟨scheme, none, none⟩
  let port ← portOf scheme (a.port.getD [])
  return ⟨scheme, some host, port⟩

/-- The URL made of given parts. -/
def ofParts (p : Parts) : Except Fault Url :=
  match p.authority with
  | none => .ok ⟨p.scheme, none, none⟩
  | some a =>
      match p.kind with
      | .web => webAuthority p.scheme a
      | .file => (fileHost a.host p.rest).map fun host => ⟨p.scheme, host, none⟩
      | .other => otherAuthority p.scheme a

/-- The URL of a text, or why it is none. -/
def parse (text : String) : Except Fault Url := (Parts.ofText text.toList).bind ofParts

end Url

end HostRouting
