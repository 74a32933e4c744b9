/-
**Modes and targets.**

A mode says what it means that a rule matches a host: on a whitelist matched hosts go directly and
all others through the proxy, on a blacklist it is the other way round.

Main definitions:

* `Target` — directly, or through the proxy;
* `Mode` — whitelist or blacklist;
* `Mode.target` — the target of a host that rules do or do not match;
* `Mode.ofText?`, `Mode.ofTextOrDefault`, `Mode.ofTextOrFault` — the mode that a text names.
-/

import HostRouting.Text.Blank
import HostRouting.Text.Lower

set_option autoImplicit false

namespace HostRouting

/-- How a connection leaves. -/
inductive Target where
  | direct
  | proxy
  deriving DecidableEq, Repr

/-- The word for a target. -/
def Target.text : Target → String
  | .direct => "DIRECT"
  | .proxy => "PROXY"

/-- What it means that a rule matches. -/
inductive Mode where
  /-- Matched hosts go directly. -/
  | whitelist
  /-- Matched hosts go through the proxy. -/
  | blacklist
  deriving DecidableEq, Repr

namespace Mode

/-- The word for a mode. -/
def text : Mode → String
  | .whitelist => "whitelist"
  | .blacklist => "blacklist"

/-- The target of a host, from whether some rule matches it. -/
def target : Mode → Bool → Target
  | .whitelist, matched => if matched then .direct else .proxy
  | .blacklist, matched => if matched then .proxy else .direct

/-- The mode that a text names, in any letter case and with blanks around it. -/
def ofText? (s : String) : Option Mode :=
  let word := Text.trimmed s.toList
  if Text.isWord "whitelist" word then some .whitelist
  else if Text.isWord "blacklist" word then some .blacklist
  else none

/-- The mode that a text names, whitelist if it names none. -/
def ofTextOrDefault (s : String) : Mode := (ofText? s).getD .whitelist

/-- The mode that a text names, or the complaint that it names none. -/
def ofTextOrFault (s : String) : Except String Mode :=
  match ofText? s with
  | some mode => .ok mode
  | none => .error ("unknown mode: " ++ s)

@[simp] theorem target_whitelist (matched : Bool) :
    target .whitelist matched = if matched then .direct else .proxy := rfl

@[simp] theorem target_blacklist (matched : Bool) :
    target .blacklist matched = if matched then .proxy else .direct := rfl

end Mode

end HostRouting
