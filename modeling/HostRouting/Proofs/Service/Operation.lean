/-
**Operations on the live service.**

Four things can happen to the service: its store notifies it of changes, a rule list was fetched, an
update is applied, and a page sends a message.  Each of them replaces the settings and then merges
one update into the live configuration, and what an update does to configuration, snapshot and queue
is said once, for all four.

Main definitions:

* `Notice` — what concerns the settings: changes of them, or a fetched rule list;
* `Operation` — what can happen to the service;
* `Service.perform`, `Service.run` — the service after one operation, and after several;
* `Settings.after`, `Service.updateFor` — what an operation makes of the settings, and the
  update it brings.

Main results:

* `Service.apply_fst`, `Service.apply_snd` — what an update does;
* `Service.perform_eq` — every operation replaces the settings and applies one update;
* `Service.config_perform`, `Service.settings_perform`, `Service.queue_perform` — what it leaves.
-/

import HostRouting.Proofs.Settings.Folding
import HostRouting.Service.Basic

set_option autoImplicit false

namespace HostRouting

/-! ### Operations -/

/-- What the service is told about its settings. -/
inductive Notice where
  /-- Keys of the store changed. -/
  | changes (cs : Changes)
  /-- A rule list was fetched from a URL for a mode. -/
  | fetched (mode : Mode) (url : String) (list : RuleList)

/-- What can happen to the service. -/
inductive Operation where
  /-- It is told about its settings. -/
  | notice (n : Notice)
  /-- An update is applied. -/
  | update (u : Config.Update)
  /-- A page sends a message. -/
  | message (m : Message)

/-! ### Snapshots and updates -/

namespace Snapshot

/-- A snapshot is determined by its configuration and its fallback. -/
theorem ext_config {a b : Snapshot} (hf : a.fallback = b.fallback) (hc : a.config = b.config) :
    a = b := by
  have hr : a.rules = b.rules := by rw [a.rules_eq, b.rules_eq, hc]
  have hp : a.proxy = b.proxy := by rw [a.proxy_eq, b.proxy_eq, hf, hc]
  cases a
  cases b
  simp only [Snapshot.mk.injEq]
  exact ⟨hc, hf, hr, hp⟩

end Snapshot

namespace Config

theorem merge_of_isEmpty {u : Update} (h : u.isEmpty = true) (c : Config) : c.merge u = c := by
  obtain ⟨e, url, m, rs⟩ := u
  simp only [Update.isEmpty, Bool.and_eq_true, Option.isNone_iff_eq_none] at h
  obtain ⟨⟨⟨rfl, rfl⟩, rfl⟩, rfl⟩ := h
  rfl

end Config

namespace Service

@[simp] theorem config_with_settings (s : Service) (settings : Settings) :
    config { s with settings := settings } = s.config := rfl

/-- What an update does: nothing if it leaves the configuration as it is; otherwise there is a new
snapshot, and its setting waits for installation. -/
theorem apply_fst (s : Service) (u : Config.Update) :
    (s.apply u).1 =
      if s.config.merge u = s.config then s
      else
        { s with
          live := s.live.updated u
          queue := s.queue ++ [(s.live.updated u).setting] } := by
  by_cases hu : u.isEmpty = true
  · simp [apply, hu, Config.merge_of_isEmpty hu]
  · by_cases hc : s.config.merge u = s.config <;> simp [apply, hu, Config.isChangedBy, hc]

theorem apply_snd (s : Service) (u : Config.Update) :
    (s.apply u).2 = true ↔ s.config.merge u ≠ s.config := by
  by_cases hu : u.isEmpty = true
  · simp [apply, hu, Config.merge_of_isEmpty hu]
  · by_cases hc : s.config.merge u = s.config <;> simp [apply, hu, Config.isChangedBy, hc]

@[simp] theorem config_apply (s : Service) (u : Config.Update) :
    (s.apply u).1.config = s.config.merge u := by
  rw [apply_fst]
  split
  · next h => exact h.symm
  · rfl

@[simp] theorem settings_apply (s : Service) (u : Config.Update) :
    (s.apply u).1.settings = s.settings := by
  rw [apply_fst]
  split <;> rfl

@[simp] theorem fallback_apply (s : Service) (u : Config.Update) :
    (s.apply u).1.live.fallback = s.live.fallback := by
  rw [apply_fst]
  split <;> rfl

theorem queue_apply (s : Service) (u : Config.Update) :
    (s.apply u).1.queue =
      if s.config.merge u = s.config then s.queue
      else s.queue ++ [(s.apply u).1.live.setting] := by
  by_cases h : s.config.merge u = s.config <;> simp [apply_fst, h]

/-! ### What operations do -/

/-- The service after a notice, and whether that changed the configuration; `none` if the notice is
refused. -/
def receive (s : Service) : Notice → Service × Option Bool
  | .changes cs => s.onChanges cs
  | .fetched mode url l => ((s.setUrlRules mode url l).1, some (s.setUrlRules mode url l).2)

/-- The service after an operation. -/
def perform (s : Service) : Operation → Service
  | .notice n => (s.receive n).1
  | .update u => (s.apply u).1
  | .message m => (s.handle m).1

/-- The service after operations, the first one first. -/
def run (s : Service) (os : List Operation) : Service := os.foldl perform s

@[simp] theorem run_nil (s : Service) : s.run [] = s := rfl

@[simp] theorem run_cons (s : Service) (o : Operation) (os : List Operation) :
    s.run (o :: os) = (s.perform o).run os := rfl

end Service

/-! ### What operations leave behind -/

namespace Settings

/-- The settings after a notice; changes that are not accepted leave them as they are. -/
def after (s : Settings) : Notice → Settings
  | .changes cs => if cs.areAccepted then s.folded cs else s
  | .fetched mode url l => s.setUrlRules mode url l

end Settings

namespace Operation

/-- What an operation makes of the settings. -/
def settings (s : Settings) : Operation → Settings
  | .notice n => s.after n
  | .update _ | .message _ => s

end Operation

namespace Settings

/-- The URL that settings stand for is never blank. -/
theorem isBlankText_effectiveUrl (s : Settings) : Text.isBlankText s.effectiveUrl = false := by
  unfold effectiveUrl
  split
  · decide
  · next h => simpa using h

theorem rulesFor_folded {cs : Changes} {m : Mode} (h : Service.changesRules cs m = false)
    (s : Settings) : (s.folded cs).rulesFor m = s.rulesFor m := by
  rw [Service.changesRules, Bool.or_eq_false_iff] at h
  simp only [rulesFor, source_folded, RuleSource.folded, Changes.folded_of_not_names h.1,
    Changes.folded_of_not_names h.2]

/-- A list that is fetched for one mode leaves what is kept for the other. -/
theorem source_setUrlRules_of_ne {m mode : Mode} (h : mode ≠ m) (s : Settings) (url : String)
    (l : RuleList) : (s.setUrlRules m url l).source mode = s.source mode := by
  cases m <;> cases mode <;> first | exact absurd rfl h | rfl

end Settings

namespace Service

/-- A configuration with what changes call for, field by field. -/
theorem merge_updateOf (settings : Settings) (cs : Changes) (c : Config) :
    c.merge (updateOf settings c.mode cs) =
      let mode := if cs.names "mode" then settings.mode else c.mode
      { proxyEnabled := if cs.names "proxyEnabled" then settings.proxyEnabled else c.proxyEnabled
        proxyUrl := if cs.names "proxyUrl" then settings.effectiveUrl else c.proxyUrl
        mode := mode
        rules :=
          if cs.names "mode" || changesRules cs mode then settings.rulesFor mode
          else c.rules } := by
  -- an update drops blank URLs, which the settings never bring
  have hurl : (some settings.effectiveUrl).filter (!Text.isBlankText ·)
      = some settings.effectiveUrl := by
    simp [Option.filter, settings.isBlankText_effectiveUrl]
  simp only [Config.merge, updateOf, Config.Update.effectiveUrl, Config.mk.injEq]
  refine ⟨?_, ?_, ?_, ?_⟩
  · split <;> rfl
  · split
    · rw [hurl]
      rfl
    · rfl
  · split <;> rfl
  · -- the rules are those of the mode that the same update sets
    generalize (if cs.names "mode" = true then settings.mode else c.mode) = mode
    split <;> rfl

/-- The update that a notice brings to a service with given settings and mode. -/
def noticeUpdate (settings : Settings) (mode : Mode) : Notice → Config.Update
  | .changes cs => if cs.areAccepted then updateOf (settings.folded cs) mode cs else .empty
  | .fetched m url l =>
      if mode = m then
        { Config.Update.empty with rules := some ((settings.setUrlRules m url l).rulesFor m) }
      else .empty

/-- The update that an operation brings. -/
def updateFor (s : Service) : Operation → Config.Update
  | .notice n => noticeUpdate s.settings s.config.mode n
  | .update u => u
  | .message (.update u) => cleaned u

theorem receive_fst (s : Service) (n : Notice) :
    (s.receive n).1 = ({ s with settings := s.settings.after n }.apply
      (noticeUpdate s.settings s.config.mode n)).1 := by
  cases n with
  | changes cs =>
      simp only [receive, onChanges, Settings.withChanges?_eq, Settings.after, noticeUpdate]
      cases cs.areAccepted <;> simp
  | fetched mode url l =>
      simp only [receive, setUrlRules, Settings.after, noticeUpdate]
      by_cases h : s.config.mode = mode <;> simp [h]

/-- **Every operation replaces the settings and applies one update.** -/
theorem perform_eq (s : Service) (o : Operation) :
    s.perform o = ({ s with settings := o.settings s.settings }.apply (s.updateFor o)).1 := by
  cases o with
  | notice n => exact receive_fst s n
  | update u => rfl
  | message m => cases m; rfl

@[simp] theorem settings_perform (s : Service) (o : Operation) :
    (s.perform o).settings = o.settings s.settings := by
  rw [perform_eq, settings_apply]

@[simp] theorem fallback_perform (s : Service) (o : Operation) :
    (s.perform o).live.fallback = s.live.fallback := by
  rw [perform_eq, fallback_apply]

theorem config_perform (s : Service) (o : Operation) :
    (s.perform o).config = s.config.merge (s.updateFor o) := by
  rw [perform_eq, config_apply]
  rfl

/-- An operation that changes the configuration queues the setting of the new snapshot, and no other
operation queues anything. -/
theorem queue_perform (s : Service) (o : Operation) :
    (s.perform o).queue =
      if (s.perform o).config = s.config then s.queue
      else s.queue ++ [(s.perform o).live.setting] := by
  rw [config_perform, perform_eq, queue_apply]
  rfl

/-! ### Changes that are accepted or refused -/

section Accepted

variable {cs : Changes} (h : cs.areAccepted = true) (s : Service)

include h

theorem settings_onChanges : (s.onChanges cs).1.settings = s.settings.folded cs := by
  have he := (congrArg settings (receive_fst s (.changes cs))).trans (settings_apply ..)
  simpa [receive, Settings.after, h] using he

theorem config_onChanges :
    (s.onChanges cs).1.config
      = s.config.merge (updateOf (s.settings.folded cs) s.config.mode cs) := by
  have he := (congrArg config (receive_fst s (.changes cs))).trans (config_apply ..)
  simpa [receive, noticeUpdate, h] using he

end Accepted

/-- Changes that are refused leave the service as it is. -/
theorem onChanges_of_refused {cs : Changes} (h : cs.areAccepted = false) (s : Service) :
    s.onChanges cs = (s, none) := by
  rw [onChanges, Settings.withChanges?_eq, h]
  rfl

theorem isSome_onChanges (s : Service) (cs : Changes) :
    (s.onChanges cs).2.isSome = cs.areAccepted := by
  rw [onChanges, Settings.withChanges?_eq]
  cases cs.areAccepted <;> rfl

end Service

end HostRouting
