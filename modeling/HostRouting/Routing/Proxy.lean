/-
**The proxy.**

The proxy that connections go through is given by a URL with an explicit port.  Its host is a plain
ASCII name.  What stands between the first `://` and the next slash is looked at before the URL is
read, and with a character outside ASCII there the text is refused.  A port equal to the one the
scheme implies counts as not given.

Main definitions:

* `Scheme` — `http` or `https`;
* `Proxy` — scheme, host and port of a proxy, with `Proxy.make?` from its parts;
* `Proxy.Fault` — why a text names no proxy, with `Proxy.Fault.message`;
* `Proxy.parse` — the proxy that a URL names, and `Proxy.resolve` with a fallback;
* `Decision` — a target with the proxy filled in.
-/

import HostRouting.Routing.Mode
import HostRouting.Url.Basic

set_option autoImplicit false

namespace HostRouting

/-! ### Schemes -/

/-- The scheme of a proxy. -/
inductive Scheme where
  | http
  | https
  deriving DecidableEq, Repr

/-- The word for a scheme. -/
def Scheme.text : Scheme → String
  | .http => "http"
  | .https => "https"

/-- The scheme that a text names, in any letter case. -/
def Scheme.ofText? (s : String) : Option Scheme :=
  if Text.isWord "http" s.toList then some .http
  else if Text.isWord "https" s.toList then some .https
  else none

/-! ### Proxies -/

namespace Proxy

/-- Whether a character may stand in the host of a proxy. -/
def admits (c : Char) : Bool := c.isAlphanum || c == '.' || c == '-'

/-- Whether a text may be the host of a proxy. -/
def isHost (host : String) : Bool := !host.toList.isEmpty && host.toList.all admits

end Proxy

/-- A proxy. -/
structure Proxy where
  scheme : Scheme
  host : String
  port : Nat
  isHost_host : Proxy.isHost host = true
  one_le_port : 1 ≤ port
  port_le : port ≤ 65535
  deriving DecidableEq, Repr

namespace Proxy

/-- The proxy with given parts, if they may be parts of one. -/
def make? (scheme : Scheme) (host : String) (port : Nat) : Option Proxy :=
  if h : isHost host = true ∧ 1 ≤ port ∧ port ≤ 65535 then
    some ⟨scheme, host, port, h.1, h.2.1, h.2.2⟩
  else none

/-- The URL of the proxy that is used when none is configured. -/
def defaultUrl : String := "http://localhost:7890"

/-- The proxy that is used when none is configured. -/
def standard : Proxy := ⟨.http, "localhost", 7890, by decide, by decide, by decide⟩

/-- Host and port. -/
def hostPort (p : Proxy) : String := p.host ++ ":" ++ String.ofList (Text.decimal p.port)

/-- The URL of a proxy. -/
def text (p : Proxy) : String := p.scheme.text ++ "://" ++ p.hostPort

/-! ### Faults -/

/-- Why a text names no proxy. -/
inductive Fault where
  /-- The text is no URL. -/
  | unparsable (text : String) (cause : Url.Fault)
  /-- The URL has another scheme. -/
  | scheme (name : String)
  /-- The host, or a text whose host cannot be told, is no plain name. -/
  | host (name : String)
  /-- The URL gives no port, the one its scheme implies, or 0. -/
  | port (text : String)
  deriving DecidableEq, Repr

/-- The wording of a fault. -/
def Fault.message : Fault → String
  | .unparsable text cause => "unparsable URL " ++ text ++ ": " ++ cause.message
  | .scheme name => "unsupported scheme: " ++ name
  | .host name => "unsupported hostname: " ++ name
  | .port text => "missing or invalid port in " ++ text

/-! ### Reading -/

/-- What follows the first `://`, or everything if there is none. -/
def afterSlashes (cs : List Char) : List Char := (go cs).getD cs
where
  /-- What follows the first `://`. -/
  go : List Char → Option (List Char)
    | [] => none
    | ':' :: '/' :: '/' :: rest => some rest
    | _ :: cs => go cs

/-- The authority of a URL as typed. -/
def rawAuthority (cs : List Char) : List Char :=
  (afterSlashes cs).takeWhile fun c => !(c == '/' || c == '\\' || c == '?' || c == '#')

/-- The proxy that a URL stands for; `text` is what was typed. -/
def ofUrl (text : String) (url : Url) : Except Fault Proxy :=
  match Scheme.ofText? url.scheme with
  | none => .error (.scheme url.scheme)
  | some scheme =>
      match url.host with
      | none => .error (.host text)
      | some host =>
          if hh : isHost host.text = true then
            match url.port with
            | none => .error (.port text)
            | some port =>
                if hp : 1 ≤ port ∧ port ≤ 65535 then
                  .ok ⟨scheme, host.text, port, hh, hp.1, hp.2⟩
                else .error (.port text)
          else .error (.host host.text)

/-- The proxy that a trimmed text names. -/
def ofTrimmed (text : String) : Except Fault Proxy :=
  if (rawAuthority text.toList).all (·.toNat < 0x80) then
    match Url.parse text with
    | .error cause => .error (.unparsable text cause)
    | .ok url => ofUrl text url
  else .error (.host text)

/-- The proxy that a text names, or why it names none. -/
def parse (s : String) : Except Fault Proxy := ofTrimmed (Text.trim s)

/-- The proxy that a text names, or else the fallback. -/
def resolve (fallback : Proxy) (s : String) : Proxy :=
  match parse s with
  | .ok p => p
  | .error _ => fallback

@[simp] theorem text_standard : standard.text = defaultUrl := by decide

end Proxy

/-! ### Decisions -/

/-- A target with the proxy filled in. -/
inductive Decision where
  | direct
  | proxy (p : Proxy)
  deriving DecidableEq, Repr

namespace Decision

/-- The decision for a target. -/
def ofTarget (p : Proxy) : Target → Decision
  | .direct => .direct
  | .proxy => .proxy p

/-- The target of a decision. -/
def target : Decision → Target
  | .direct => .direct
  | .proxy _ => .proxy

/-- Whether a decision leads through the proxy. -/
def isProxy (d : Decision) : Bool := d.target == .proxy

/-- A decision as scripts return it. -/
def text : Decision → String
  | .direct => "DIRECT"
  | .proxy p => "PROXY " ++ p.hostPort

@[simp] theorem target_ofTarget (p : Proxy) (t : Target) : (ofTarget p t).target = t := by
  cases t <;> rfl

end Decision

end HostRouting
