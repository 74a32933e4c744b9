/-
**Settings.**

The settings are what is kept between sessions.  For each mode they hold the rules entered by hand
and the rules fetched from a URL, with the texts both came from; the live configuration takes the
rules of its mode, merged and cleaned of what is no pattern.

Main definitions:

* `RuleSource` — what is kept for one mode;
* `Settings` — all that is kept, with `Settings.source`;
* `Settings.rulesFor`, `Settings.toConfig` — the rules of a mode, and the live configuration;
* `Settings.setUrlRules` — the settings with a fetched rule list.
-/

import HostRouting.Routing.Config
import HostRouting.Rules.RuleList

set_option autoImplicit false

namespace HostRouting

/-- What is kept for the rules of one mode. -/
structure RuleSource where
  /-- The rules entered by hand. -/
  manual : List String
  /-- The text they were entered as. -/
  manualText : Option String
  /-- Where rules are fetched from. -/
  url : Option String
  /-- The text fetched last. -/
  fetchedText : Option String
  /-- The rules of that text. -/
  fetched : List String
  deriving DecidableEq, Repr

/-- Nothing is kept. -/
def RuleSource.empty : RuleSource := ⟨[], none, none, none, []⟩

/-- What is kept between sessions. -/
structure Settings where
  proxyEnabled : Bool
  proxyUrl : String
  mode : Mode
  whitelist : RuleSource
  blacklist : RuleSource
  deriving DecidableEq, Repr

namespace Settings

/-- The settings where nothing is set. -/
def standard : Settings := ⟨true, Proxy.defaultUrl, .whitelist, .empty, .empty⟩

/-- What is kept for a mode. -/
def source (s : Settings) : Mode → RuleSource
  | .whitelist => s.whitelist
  | .blacklist => s.blacklist

/-- The settings with something else kept for a mode. -/
def withSource (s : Settings) (mode : Mode) (r : RuleSource) : Settings :=
  match mode with
  | .whitelist => { s with whitelist := r }
  | .blacklist => { s with blacklist := r }

/-- The rules of a mode: those entered by hand and those fetched, without what is no pattern. -/
def rulesFor (s : Settings) (mode : Mode) : List String :=
  (mergeRules (s.source mode).manual (s.source mode).fetched).filter Pattern.isValid

/-- The proxy URL, or the default in place of a blank one. -/
def effectiveUrl (s : Settings) : String :=
  if Text.isBlankText s.proxyUrl then Proxy.defaultUrl else s.proxyUrl

/-- The configuration that the settings stand for. -/
def toConfig (s : Settings) : Config := ⟨s.proxyEnabled, s.effectiveUrl, s.mode, s.rulesFor s.mode⟩

/-- The settings with a rule list fetched from a URL for a mode. -/
def setUrlRules (s : Settings) (mode : Mode) (url : String) (l : RuleList) : Settings :=
  s.withSource mode
    { s.source mode with url := some url, fetchedText := some l.raw, fetched := l.rules }

@[simp] theorem source_whitelist (s : Settings) : s.source .whitelist = s.whitelist := rfl

@[simp] theorem source_blacklist (s : Settings) : s.source .blacklist = s.blacklist := rfl

@[simp] theorem source_withSource (s : Settings) (mode : Mode) (r : RuleSource) :
    (s.withSource mode r).source mode = r := by cases mode <;> rfl

@[simp] theorem mode_withSource (s : Settings) (mode : Mode) (r : RuleSource) :
    (s.withSource mode r).mode = s.mode := by cases mode <;> rfl

end Settings

end HostRouting
