/-
**The live service.**

The service holds the settings and the snapshot that decisions are taken under.  Changes of the
settings and messages of pages become updates of the live configuration; whenever one changes it,
the setting of the new snapshot is queued for installation.  Installations take place in the order
of the queue, and nothing depends on how they end.

Main definitions:

* `Service` — settings, snapshot and queue, with `Service.start`;
* `Service.apply` — the service after an update;
* `Service.onChanges`, `Service.setUrlRules`, `Service.handle` — the service after changes of the
  settings, after a fetched rule list, and after a message;
* `Service.installed` — the service once the queue is worked off.
-/

import HostRouting.Routing.Snapshot
import HostRouting.Service.Message
import HostRouting.Settings.Changes

set_option autoImplicit false

namespace HostRouting

/-- The live service. -/
structure Service where
  settings : Settings
  /-- The snapshot that decisions are taken under. -/
  live : Snapshot
  /-- What waits for installation, oldest first. -/
  queue : List Setting

namespace Service

/-- The service that begins with given settings. -/
def start (fallback : Proxy) (settings : Settings) : Service :=
  let live := Snapshot.ofConfig fallback settings.toConfig
  ⟨settings, live, [live.setting]⟩

/-- The live configuration. -/
def config (s : Service) : Config := s.live.config

/-- The service once the queue is worked off. -/
def installed (s : Service) : Service := { s with queue := [] }

/-! ### Updates -/

/-- The service after an update, and whether that changed the configuration. -/
def apply (s : Service) (u : Config.Update) : Service × Bool :=
  if u.isEmpty || !s.config.isChangedBy u then (s, false)
  else
    let next := s.live.updated u
    ({ s with live := next, queue := s.queue ++ [next.setting] }, true)

@[simp] theorem apply_empty (s : Service) : s.apply .empty = (s, false) := by
  simp [apply]

/-! ### Changes of the settings -/

/-- Whether changes concern the rules of a mode. -/
def changesRules (cs : Changes) (mode : Mode) : Bool :=
  cs.names (RuleSource.manualKey mode) || cs.names (RuleSource.fetchedKey mode)

/-- The update that changes call for, from the settings after them and the mode before them.  The
rules follow if the mode or the rules of the mode changed. -/
def updateOf (settings : Settings) (mode : Mode) (cs : Changes) : Config.Update :=
  let next := if cs.names "mode" then settings.mode else mode
  { proxyEnabled := if cs.names "proxyEnabled" then some settings.proxyEnabled else none
    proxyUrl := if cs.names "proxyUrl" then some settings.effectiveUrl else none
    mode := if cs.names "mode" then some settings.mode else none
    rules :=
      if cs.names "mode" || changesRules cs next then some (settings.rulesFor next) else none }

/-- The service after changes of the settings, and whether they changed the configuration; `none` if
a value is of the wrong kind, which leaves the service as it is. -/
def onChanges (s : Service) (cs : Changes) : Service × Option Bool :=
  match s.settings.withChanges? cs with
  | none => (s, none)
  | some settings =>
      let (next, changed) :=
        { s with settings := settings }.apply (updateOf settings s.config.mode cs)
      (next, some changed)

/-- The service after a rule list was fetched for a mode, and whether that changed the
configuration. -/
def setUrlRules (s : Service) (mode : Mode) (url : String) (l : RuleList) : Service × Bool :=
  let s := { s with settings := s.settings.setUrlRules mode url l }
  if s.config.mode = mode then
    s.apply { Config.Update.empty with rules := some (s.settings.rulesFor mode) }
  else (s, false)

/-! ### Messages -/

/-- An update without the rules that are no pattern. -/
def cleaned (u : Config.Update) : Config.Update :=
  { u with rules := u.rules.map (·.filter Pattern.isValid) }

/-- The service after a message, and the reply. -/
def handle (s : Service) : Message → Service × Reply
  | .update u => ((s.apply (cleaned u)).1, ⟨true⟩)

end Service

end HostRouting
