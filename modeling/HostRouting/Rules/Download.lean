/-
**Downloading rule lists.**

A rule list is fetched from a web URL.  The body of the answer may be a gzip file; it is read as
UTF-8, whatever is ill-formed being replaced.  A list of blanks counts as a failure, so that it
never takes the place of rules that are kept.

Main definitions:

* `Exchange` — what becomes of a request;
* `Download.Fault` — why a download fails, with `Download.Fault.message`;
* `Download.isRulesUrl` — whether rule lists may be fetched from a URL;
* `Download.fetchText`, `Download.fetch` — the text and the rule list of a download.
-/

import HostRouting.Gzip.Member
import HostRouting.Rules.RuleList
import HostRouting.Url.Basic

set_option autoImplicit false

namespace HostRouting

/-- What becomes of a request. -/
inductive Exchange where
  /-- No answer comes. -/
  | lost
  /-- An answer with a status comes; its body is `complete` or breaks off. -/
  | answered (status : Nat) (body : List UInt8) (complete : Bool)
  deriving DecidableEq, Repr

namespace Download

/-! ### Faults -/

/-- Why a download fails. -/
inductive Fault where
  /-- The URL is none of the web. -/
  | url (url : String)
  /-- No answer came. -/
  | lost
  /-- The answer reports a failure. -/
  | status (status : Nat)
  /-- The body broke off. -/
  | incomplete
  /-- The body begins like a gzip file but is none. -/
  | gzip
  /-- Nothing but blanks came from the URL. -/
  | empty (url : String)
  deriving DecidableEq, Repr

/-- The wording of a fault. -/
def Fault.message : Fault → String
  | .url u => "invalid rules URL (only http:// and https:// are supported): " ++ u
  | .lost => "download error: Transport error"
  | .status n => "download error: HTTP error: " ++ String.ofList (Text.decimal n)
  | .incomplete => "download error: Failed to read response"
  | .gzip => "download error: Gzip decompression failed"
  | .empty u => "rule list is empty: " ++ u

/-! ### URLs -/

/-- Whether rule lists may be fetched from a URL. -/
def isRulesUrl (url : String) : Bool :=
  match Url.parse (Text.trim url) with
  | .ok u => u.scheme == "http" || u.scheme == "https"
  | .error _ => false

/-- The fault of a URL from which no rule list may be fetched. -/
def urlFault? (url : String) : Option Fault := if isRulesUrl url then none else some (.url url)

/-! ### Answers -/

/-- The octets that a body stands for. -/
def data (body : List UInt8) : Except Fault (List UInt8) :=
  if Gzip.isGzip body then (Gzip.decode? body).elim (.error .gzip) .ok else .ok body

/-- The text of the body of an answer from a URL. -/
def bodyText (url : String) (body : List UInt8) : Except Fault String := do
  let text := String.ofList (Utf8.decodeLossy (← data body))
  if Text.isBlankText text then throw (.empty url)
  return text

/-- The least status that reports a failure. -/
def failureStatus : Nat := 400

/-- The text of what became of a request for a URL. -/
def answerText (url : String) : Exchange → Except Fault String
  | .lost => .error .lost
  | .answered status body complete =>
      if failureStatus ≤ status then .error (.status status)
      else if complete then bodyText url body
      else .error .incomplete

/-- The text fetched from a URL. -/
def fetchText (url : String) (e : Exchange) : Except Fault String :=
  match urlFault? url with
  | some f => .error f
  | none => answerText url e

/-- The rule list fetched from a URL. -/
def fetch (url : String) (e : Exchange) : Except Fault RuleList :=
  (fetchText url e).map RuleList.parse

end Download

end HostRouting
