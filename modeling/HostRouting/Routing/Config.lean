/-
**Configurations and updates.**

A configuration is all that a routing decision depends on.  An update carries some of its fields; a
proxy URL of blanks is carried but changes nothing.

Main definitions:

* `Config` — whether routing is on, the proxy URL, the mode and its rules;
* `Config.Update` — any of these fields, with `Config.Update.isEmpty`;
* `Config.merge` — a configuration with the fields of an update.
-/

import HostRouting.Routing.Proxy

set_option autoImplicit false

namespace HostRouting

/-- What a routing decision depends on. -/
structure Config where
  /-- Without this every host goes directly and the system settings are left alone. -/
  proxyEnabled : Bool
  /-- The URL of the proxy. -/
  proxyUrl : String
  /-- What it means that a rule matches. -/
  mode : Mode
  /-- The rules of this mode. -/
  rules : List String
  deriving DecidableEq, Repr

namespace Config

/-- The configuration where nothing is configured. -/
def standard : Config := ⟨true, Proxy.defaultUrl, .whitelist, []⟩

/-- Some fields of a configuration. -/
structure Update where
  proxyEnabled : Option Bool
  proxyUrl : Option String
  mode : Option Mode
  rules : Option (List String)
  deriving DecidableEq, Repr

namespace Update

/-- The update that carries nothing. -/
def empty : Update := ⟨none, none, none, none⟩

/-- Whether an update carries nothing. -/
def isEmpty (u : Update) : Bool :=
  u.proxyEnabled.isNone && u.proxyUrl.isNone && u.mode.isNone && u.rules.isNone

/-- The proxy URL that an update carries, unless it is blank. -/
def effectiveUrl (u : Update) : Option String := u.proxyUrl.filter (!Text.isBlankText ·)

@[simp] theorem isEmpty_empty : empty.isEmpty = true := rfl

end Update

/-- A configuration with the fields of an update. -/
def merge (c : Config) (u : Update) : Config where
  proxyEnabled := u.proxyEnabled.getD c.proxyEnabled
  proxyUrl := u.effectiveUrl.getD c.proxyUrl
  mode := u.mode.getD c.mode
  rules := u.rules.getD c.rules

/-- Whether an update changes a configuration. -/
def isChangedBy (c : Config) (u : Update) : Bool := c.merge u != c

@[simp] theorem merge_empty (c : Config) : c.merge .empty = c := rfl

end Config

end HostRouting
