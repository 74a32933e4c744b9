/-
**The parts of a URL as written.**

Control characters and spaces around the text, and tabs and line ends within it, do not count.  The
scheme decides how the rest is cut: web schemes skip any number of slashes and backslashes before
the authority, other schemes have an authority only after two slashes, and a `file` URL has one
after two slashes of either kind.

Main definitions:

* `Url.Kind` — how a scheme treats what follows it;
* `Url.Authority` — user information, host text and port text;
* `Url.Parts` — scheme, authority and what follows, with `Url.Parts.ofText`.
-/

import HostRouting.Url.Host

set_option autoImplicit false

namespace HostRouting.Url

/-! ### Schemes -/

/-- How a scheme treats what follows it. -/
inductive Kind where
  /-- `http`, `https`, `ws`, `wss` and `ftp`: always a host. -/
  | web
  /-- `file`: maybe a host, and drive letters. -/
  | file
  /-- All others: an opaque host, if any. -/
  | other
  deriving DecidableEq, Repr

/-- The kind of a scheme. -/
def Kind.ofScheme (scheme : String) : Kind :=
  if ["http", "https", "ws", "wss", "ftp"].contains scheme then .web
  else if scheme = "file" then .file
  else .other

/-- The port that a scheme implies. -/
def defaultPort? (scheme : String) : Option Nat :=
  [("http", 80), ("https", 443), ("ws", 80), ("wss", 443), ("ftp", 21)].lookup scheme

/-! ### What does not count -/

/-- Whether `c` is a control character of the C0 set or a space. -/
def isControlOrSpace (c : Char) : Bool := c.toNat ≤ 0x20

/-- Whether `c` is skipped wherever it stands. -/
def isSkipped (c : Char) : Bool := c == '\t' || c == '\n' || c == '\r'

/-- A text without the characters that do not count. -/
def cleaned (cs : List Char) : List Char :=
  (((cs.dropWhile isControlOrSpace).reverse.dropWhile isControlOrSpace).reverse).filter
    (!isSkipped ·)

/-! ### Cutting -/

/-- Whether `c` may stand in a scheme after its first letter. -/
def isSchemeCharacter (c : Char) : Bool := c.isAlphanum || c == '+' || c == '-' || c == '.'

/-- The scheme, in lower case, and what follows its colon. -/
def scheme? : List Char → Option (String × List Char)
  | [] => none
  | c :: cs =>
      if c.isAlpha then
        match cs.dropWhile isSchemeCharacter with
        | ':' :: rest =>
            some (String.ofList ((c :: cs.takeWhile isSchemeCharacter).map Char.toLower), rest)
        | _ => none
      else none

/-- Whether `c` separates the segments of a path in a scheme of the web. -/
def isSlash (c : Char) : Bool := c == '/' || c == '\\'

/-- Whether `c` ends an authority; a backslash does so only for a web scheme. -/
def endsAuthority (kind : Kind) (c : Char) : Bool :=
  c == '/' || c == '?' || c == '#' || (kind != .other && c == '\\')

/-- User information, host and port as written. -/
structure Authority where
  user : List Char
  host : List Char
  port : Option (List Char)
  deriving DecidableEq, Repr

/-- Whether user information names anybody: a lone colon does not. -/
def Authority.hasUser (a : Authority) : Bool := !a.user.isEmpty && a.user != [':']

/-- The text before the last `@` and the text after it; without one, everything is after. -/
def atLastAt (cs : List Char) : List Char × List Char :=
  let tail := cs.reverse.takeWhile (· != '@')
  (cs.take (cs.length - tail.length - 1), tail.reverse)

/-- Cuts a host from its port at the first colon outside brackets. -/
def atColon (inBrackets : Bool) : List Char → List Char × Option (List Char)
  | [] => ([], none)
  | c :: cs =>
      if c = ':' ∧ inBrackets = false then ([], some cs)
      else
        let inside := if c = '[' then true else if c = ']' then false else inBrackets
        let (host, port) := atColon inside cs
        (c :: host, port)

/-- The authority of a text that ends where the authority does. -/
def Authority.ofText (cs : List Char) : Authority :=
  let (user, place) := atLastAt cs
  let (host, port) := atColon false place
  ⟨user, host, port⟩

/-- Scheme, authority and what follows, as written. -/
structure Parts where
  scheme : String
  authority : Option Authority
  rest : List Char
  deriving DecidableEq, Repr

/-- The kind of the scheme. -/
def Parts.kind (p : Parts) : Kind := Kind.ofScheme p.scheme

/-- The host text as written, empty without an authority. -/
def Parts.hostText (p : Parts) : List Char := (p.authority.map (·.host)).getD []

/-- The parts after an authority has begun.  An `@` with nothing on either side of it, before a
path, leaves the authority without a host. -/
def Parts.withAuthority (scheme : String) (cs : List Char) : Except Fault Parts :=
  let ends := endsAuthority (Kind.ofScheme scheme)
  let text := cs.takeWhile (!ends ·)
  let rest := cs.dropWhile (!ends ·)
  if text = ['@'] ∧ rest ≠ [] then .error .emptyHost
  else .ok ⟨scheme, some (Authority.ofText text), rest⟩

/-- Whether a text is a drive letter: a letter and a colon or a bar. -/
def isDriveLetter : List Char → Bool
  | [c, d] => c.isAlpha && (d == ':' || d == '|')
  | _ => false

/-- The parts of a `file` URL after its scheme: everything up to the path is host, unless it is a
drive letter. -/
def Parts.ofFile (cs : List Char) : Parts :=
  match cs with
  | a :: b :: after =>
      if isSlash a && isSlash b then
        let ends := endsAuthority .file
        let host := after.takeWhile (!ends ·)
        if isDriveLetter host then ⟨"file", none, after⟩
        else ⟨"file", some ⟨[], host, none⟩, after.dropWhile (!ends ·)⟩
      else ⟨"file", none, cs⟩
  | _ => ⟨"file", none, cs⟩

/-- The parts of a URL, or why the text has none. -/
def Parts.ofText (text : List Char) : Except Fault Parts :=
  match scheme? (cleaned text) with
  | none => .error .relative
  | some (scheme, cs) =>
      match Kind.ofScheme scheme with
      | .web => Parts.withAuthority scheme (cs.dropWhile isSlash)
      | .file => .ok (Parts.ofFile cs)
      | .other =>
          match cs with
          | '/' :: '/' :: after => Parts.withAuthority scheme after
          | _ => .ok ⟨scheme, none, cs⟩

end HostRouting.Url
