/-
**Messages and direct updates route alike.**

An update may be applied directly or be sent in a message, which drops those of its rules that are
no pattern.  Take two services that differ in such rules only, and let the same things happen to
both, except that one gets every update directly and the other gets it in a message.  They need not
report the same, nor queue equally often: what is no change to the one may be a change to the other.
But they go on to differ in rules that are no pattern only, and no decision, script or setting
depends on these.

Main definitions:

* `Config.cleaned` — a configuration without the rules that are no pattern;
* `Service.Alike` — two services that differ in such rules only;
* `Submission` — a notice, or an update that is yet to be submitted in one of the two ways.

Main results:

* `Config.cleaned_merge` — cleaning a merged configuration is merging the cleaned ones;
* `Service.Alike.perform`, `Service.Alike.run` — services that are alike stay alike;
* `Service.run_byMessage_like_directly` — **messages and direct updates route alike**.
-/

import HostRouting.Proofs.Rules.RuleList
import HostRouting.Proofs.Service.Operation

set_option autoImplicit false

namespace HostRouting

/-! ### Configurations -/

namespace Config

/-- A configuration without the rules that are no pattern. -/
def cleaned (c : Config) : Config := { c with rules := c.rules.filter Pattern.isValid }

/-- Cleaning a merged configuration is merging the cleaned ones. -/
theorem cleaned_merge (c : Config) (u : Update) :
    (c.merge u).cleaned = c.cleaned.merge (Service.cleaned u) := by
  simp only [cleaned, merge, Service.cleaned, Update.effectiveUrl, Config.mk.injEq, true_and]
  cases u.rules <;> rfl

end Config

/-- Cleaning an update twice is cleaning it once. -/
theorem Service.cleaned_cleaned (u : Config.Update) :
    Service.cleaned (Service.cleaned u) = Service.cleaned u := by
  simp only [Service.cleaned, Option.map_map, Config.Update.mk.injEq, true_and]
  congr 1
  funext rules
  simp

/-! ### Services that are alike -/

namespace Service

/-- Two services that differ in live rules that are no pattern only. -/
structure Alike (s t : Service) : Prop where
  settings : s.settings = t.settings
  fallback : s.live.fallback = t.live.fallback
  config : s.config.cleaned = t.config.cleaned

theorem Alike.refl (s : Service) : s.Alike s := ⟨rfl, rfl, rfl⟩

section Alike

variable {s t : Service} (h : s.Alike t)

include h

theorem Alike.proxyEnabled : s.config.proxyEnabled = t.config.proxyEnabled :=
  (congrArg Config.proxyEnabled h.config :)

theorem Alike.proxyUrl : s.config.proxyUrl = t.config.proxyUrl :=
  (congrArg Config.proxyUrl h.config :)

theorem Alike.mode : s.config.mode = t.config.mode := (congrArg Config.mode h.config :)

/-- What is no pattern is left out when rules are compiled. -/
theorem Alike.rules : s.live.rules = t.live.rules := by
  have hvalid : s.config.rules.filter Pattern.isValid = t.config.rules.filter Pattern.isValid :=
    (congrArg Config.rules h.config :)
  calc s.live.rules
      = RuleSet.ofTexts s.config.rules := s.live.rules_eq
    _ = RuleSet.ofTexts (s.config.rules.filter Pattern.isValid) :=
        (RuleSet.ofTexts_filter _).symm
    _ = RuleSet.ofTexts t.config.rules := by rw [hvalid, RuleSet.ofTexts_filter]
    _ = t.live.rules := t.live.rules_eq.symm

theorem Alike.proxy : s.live.proxy = t.live.proxy := by
  have hurl : s.live.config.proxyUrl = t.live.config.proxyUrl := h.proxyUrl
  rw [s.live.proxy_eq, t.live.proxy_eq, h.fallback, hurl]

theorem Alike.target (host : String) : s.live.target host = t.live.target host := by
  have henabled : s.live.config.proxyEnabled = t.live.config.proxyEnabled := h.proxyEnabled
  have hmode : s.live.config.mode = t.live.config.mode := h.mode
  rw [Snapshot.target, Snapshot.target, henabled, hmode, h.rules]

theorem Alike.decision (host : String) : s.live.decision host = t.live.decision host := by
  rw [Snapshot.decision, Snapshot.decision, h.proxy, h.target]

theorem Alike.script : s.live.script = t.live.script := by
  have hmode : s.live.config.mode = t.live.config.mode := h.mode
  rw [Snapshot.script, Snapshot.script, h.rules, h.proxy, hmode]

theorem Alike.setting : s.live.setting = t.live.setting := by
  have henabled : s.live.config.proxyEnabled = t.live.config.proxyEnabled := h.proxyEnabled
  rw [Snapshot.setting, Snapshot.setting, h.script, henabled]

end Alike

end Service

/-! ### Submissions -/

/-- What happens to both services. -/
inductive Submission where
  /-- They are told about their settings. -/
  | notice (n : Notice)
  /-- An update is submitted to each in its own way. -/
  | update (u : Config.Update)

namespace Submission

/-- The operation if updates are sent in messages. -/
def byMessage : Submission → Operation
  | .notice n => .notice n
  | .update u => .message (.update u)

/-- The operation if updates are applied directly. -/
def directly : Submission → Operation
  | .notice n => .notice n
  | .update u => .update u

/-- Either way the settings become the same. -/
theorem settings_byMessage (settings : Settings) (sub : Submission) :
    sub.byMessage.settings settings = sub.directly.settings settings := by
  cases sub <;> rfl

end Submission

namespace Service

/-- The updates that the two operations bring are equal once cleaned. -/
theorem Alike.cleaned_updateFor {s t : Service} (h : s.Alike t) (sub : Submission) :
    cleaned (s.updateFor sub.byMessage) = cleaned (t.updateFor sub.directly) := by
  cases sub with
  | notice n =>
      change cleaned (noticeUpdate s.settings s.config.mode n)
        = cleaned (noticeUpdate t.settings t.config.mode n)
      rw [h.settings, h.mode]
  | update u => exact cleaned_cleaned u

/-- Services that are alike are so after one more submission. -/
theorem Alike.perform {s t : Service} (h : s.Alike t) (sub : Submission) :
    (s.perform sub.byMessage).Alike (t.perform sub.directly) where
  settings := by
    rw [settings_perform, settings_perform, h.settings, sub.settings_byMessage]
  fallback := by rw [fallback_perform, fallback_perform, h.fallback]
  config := by
    rw [config_perform, config_perform, Config.cleaned_merge, Config.cleaned_merge, h.config,
      h.cleaned_updateFor]

theorem Alike.run (subs : List Submission) : ∀ {s t : Service}, s.Alike t →
    (s.run (subs.map Submission.byMessage)).Alike (t.run (subs.map Submission.directly)) := by
  induction subs with
  | nil => intro s t h; exact h
  | cons sub subs ih => intro s t h; exact ih (h.perform sub)

/-- **Messages and direct updates route alike**: if two services differ in rules that are no pattern
only, and the same notices and updates reach both, the updates in messages here and directly there,
then at every point they agree on whether routing is on, on the proxy URL, the mode and the compiled
rules, and so on every decision, on the script and on the setting for the system. -/
theorem run_byMessage_like_directly {s t : Service} (h : s.Alike t) (subs : List Submission) :
    let a := s.run (subs.map Submission.byMessage)
    let b := t.run (subs.map Submission.directly)
    a.config.proxyEnabled = b.config.proxyEnabled ∧ a.config.proxyUrl = b.config.proxyUrl ∧
      a.config.mode = b.config.mode ∧ a.live.rules = b.live.rules ∧
      (∀ host, a.live.decision host = b.live.decision host) ∧
      a.live.script.text = b.live.script.text ∧ a.live.setting = b.live.setting := by
  intro a b
  have hab : a.Alike b := h.run subs
  refine ⟨hab.proxyEnabled, hab.proxyUrl, hab.mode, hab.rules, hab.decision, ?_, hab.setting⟩
  rw [hab.script]

/-- Settings with one rule. -/
def oneRule : Settings :=
  { Settings.standard with whitelist := { RuleSource.empty with manual := ["a.com"] } }

/-- The service that begins with one rule, and has been given it again with a text that is none. -/
def oneRuleAndFaulty : Service :=
  ((start Proxy.standard oneRule).apply
    { Config.Update.empty with rules := some ["a.com", "bad rule"] }).1

/-- One service already has a text that is no rule, and an update brings another one.  It is no
change to the service that gets it in a message, and a change to the other, which queues once more
and keeps other texts. -/
theorem run_byMessage_like_directly_faulty :
    let subs : List Submission := [.update { Config.Update.empty with rules := some ["", "a.com"] }]
    (start Proxy.standard oneRule).Alike oneRuleAndFaulty ∧
      ((start Proxy.standard oneRule).run (subs.map Submission.byMessage)).config.rules
        = ["a.com"] ∧
      (oneRuleAndFaulty.run (subs.map Submission.directly)).config.rules = ["", "a.com"] ∧
      ((start Proxy.standard oneRule).run (subs.map Submission.byMessage)).queue.length = 1 ∧
      (oneRuleAndFaulty.run (subs.map Submission.directly)).queue.length = 3 ∧
      ((start Proxy.standard oneRule).run (subs.map Submission.byMessage)).live.rules
        = (oneRuleAndFaulty.run (subs.map Submission.directly)).live.rules ∧
      ((start Proxy.standard oneRule).run (subs.map Submission.byMessage)).live.setting
        = (oneRuleAndFaulty.run (subs.map Submission.directly)).live.setting := by
  intro subs
  have halike : (start Proxy.standard oneRule).Alike oneRuleAndFaulty :=
    ⟨(settings_apply _ _).symm, (fallback_apply _ _).symm, by decide +kernel⟩
  obtain ⟨-, -, -, hrules, -, -, hsetting⟩ := run_byMessage_like_directly halike subs
  exact ⟨halike, by decide +kernel, by decide +kernel, by decide +kernel, by decide +kernel, hrules,
    hsetting⟩

end Service

end HostRouting
