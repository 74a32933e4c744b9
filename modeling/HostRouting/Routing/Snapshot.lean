/-
**Snapshots.**

A snapshot is a configuration made ready for decisions: its rules are compiled and its proxy URL is
resolved once.  It never changes; an update gives another snapshot.

Main definitions:

* `Snapshot` — a configuration with its compiled rules and its proxy;
* `Snapshot.target`, `Snapshot.decision` — where a host goes;
* `Snapshot.script` — the script that decides the same;
* `Setting`, `Snapshot.setting` — what the system is told to use;
* `Snapshot.updated` — the snapshot after an update.
-/

import HostRouting.Routing.Config
import HostRouting.Script.Basic

set_option autoImplicit false

namespace HostRouting

/-- What the system is told to use. -/
inductive Setting where
  /-- The script with this text. -/
  | script (text : String)
  /-- Its own settings. -/
  | system
  deriving DecidableEq, Repr

/-- A configuration made ready for decisions. -/
structure Snapshot where
  config : Config
  /-- The proxy that stands in when the configured one is unusable. -/
  fallback : Proxy
  rules : RuleSet
  proxy : Proxy
  rules_eq : rules = RuleSet.ofTexts config.rules
  proxy_eq : proxy = Proxy.resolve fallback config.proxyUrl

namespace Snapshot

/-- The snapshot of a configuration. -/
def ofConfig (fallback : Proxy) (config : Config) : Snapshot :=
  ⟨config, fallback, _, _, rfl, rfl⟩

/-- Where a host goes. -/
def target (s : Snapshot) (host : String) : Target :=
  if !s.config.proxyEnabled || isLoopback host then .direct
  else s.rules.target s.config.mode host

/-- Where a host goes, with the proxy. -/
def decision (s : Snapshot) (host : String) : Decision := .ofTarget s.proxy (s.target host)

/-- The script that takes the same decisions while routing is on. -/
def script (s : Snapshot) : Script := ⟨s.rules, s.config.mode, s.proxy⟩

/-- What the system is told to use. -/
def setting (s : Snapshot) : Setting :=
  if s.config.proxyEnabled then .script s.script.text else .system

/-- The snapshot after an update. -/
def updated (s : Snapshot) (u : Config.Update) : Snapshot := ofConfig s.fallback (s.config.merge u)

@[simp] theorem config_ofConfig (fallback : Proxy) (config : Config) :
    (ofConfig fallback config).config = config := rfl

@[simp] theorem config_updated (s : Snapshot) (u : Config.Update) :
    (s.updated u).config = s.config.merge u := rfl

@[simp] theorem fallback_updated (s : Snapshot) (u : Config.Update) :
    (s.updated u).fallback = s.fallback := rfl

end Snapshot

end HostRouting
