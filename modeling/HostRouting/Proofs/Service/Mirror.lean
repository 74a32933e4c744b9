/-
**The live configuration mirrors the settings.**

As long as the service is only told about its settings, its live configuration is the one that the
settings stand for.  The service never computes that configuration anew: it works out which of its
fields the changed keys concern, and in which mode.  That this misses nothing is shown field by
field, for one notice, and then carried along any sequence of notices.

Main results:

* `Settings.merge_noticeUpdate` — the update that a notice brings leads from the configuration of
  the settings before it to that of the settings after it;
* `Settings.routingChanged_eq` — a change of the configuration always shows in the changed keys;
* `Settings.routingChanged_iff` — **what folding reports is exact**;
* `Service.config_run_notices` — **the live configuration is that of the settings**;
* `Service.mirrors_settings` — the same after every notice, with what the notice reports.
-/

import HostRouting.Proofs.Service.Operation

set_option autoImplicit false

namespace HostRouting

namespace Settings

/-! ### Fields that no key concerns -/

theorem proxyEnabled_folded {cs : Changes} (h : cs.names "proxyEnabled" = false) (s : Settings) :
    (s.folded cs).proxyEnabled = s.proxyEnabled := Changes.folded_of_not_names h ..

theorem effectiveUrl_folded {cs : Changes} (h : cs.names "proxyUrl" = false) (s : Settings) :
    (s.folded cs).effectiveUrl = s.effectiveUrl := by
  have hu : (s.folded cs).proxyUrl = s.proxyUrl := Changes.folded_of_not_names h ..
  rw [effectiveUrl, effectiveUrl, hu]

theorem mode_folded {cs : Changes} (h : cs.names "mode" = false) (s : Settings) :
    (s.folded cs).mode = s.mode := Changes.folded_of_not_names h ..

theorem rulesFor_setUrlRules_of_ne {s : Settings} {m mode : Mode} (h : mode ≠ m) (url : String)
    (l : RuleList) : (s.setUrlRules m url l).rulesFor mode = s.rulesFor mode := by
  rw [rulesFor, source_setUrlRules_of_ne h, rulesFor]

/-- A fetched rule list leaves everything but the rules of the configuration. -/
theorem toConfig_setUrlRules (s : Settings) (m : Mode) (url : String) (l : RuleList) :
    (s.setUrlRules m url l).toConfig
      = { s.toConfig with rules := (s.setUrlRules m url l).rulesFor s.mode } := by
  cases m <;> rfl

/-! ### One notice -/

/-- The update that accepted changes call for leads to the configuration of the settings after
them: whatever field no key concerns is the same in both. -/
theorem merge_updateOf_folded (s : Settings) (cs : Changes) :
    s.toConfig.merge (Service.updateOf (s.folded cs) s.mode cs) = (s.folded cs).toConfig := by
  have hmode : (if cs.names "mode" then (s.folded cs).mode else s.mode) = (s.folded cs).mode := by
    split
    · rfl
    · next h => exact (mode_folded (by simpa using h) s).symm
  refine (Service.merge_updateOf (s.folded cs) cs s.toConfig).trans ?_
  -- the rules are chosen by the mode that is set on the way, so it is settled first
  change (let mode := if cs.names "mode" then (s.folded cs).mode else s.mode; _) = _
  simp only [hmode, toConfig, Config.mk.injEq]
  refine ⟨?_, ?_, trivial, ?_⟩
  · split
    · rfl
    · next h => exact (proxyEnabled_folded (by simpa using h) s).symm
  · split
    · rfl
    · next h => exact (effectiveUrl_folded (by simpa using h) s).symm
  · split
    · rfl
    · next h =>
        obtain ⟨hm, hr⟩ := Bool.or_eq_false_iff.1 (Bool.eq_false_iff.2 h)
        rw [rulesFor_folded hr, mode_folded hm]

theorem merge_noticeUpdate (s : Settings) (n : Notice) :
    s.toConfig.merge (Service.noticeUpdate s s.mode n) = (s.after n).toConfig := by
  cases n with
  | changes cs =>
      simp only [Service.noticeUpdate, after]
      split
      · exact merge_updateOf_folded s cs
      · rfl
  | fetched m url l =>
      simp only [Service.noticeUpdate, after]
      split
      · next h =>
          subst h
          rw [toConfig_setUrlRules]
          rfl
      · next h =>
          have hr := rulesFor_setUrlRules_of_ne (s := s) h url l
          rw [toConfig_setUrlRules, hr]
          rfl

/-- A change of the configuration always shows in the changed keys: without a key that routing
depends on, the configuration stays as it is. -/
theorem routingChanged_eq (s : Settings) (cs : Changes) :
    s.routingChanged (s.folded cs) cs = ((s.folded cs).toConfig != s.toConfig) := by
  rw [routingChanged]
  cases h : cs.keys.any routingKeys.contains with
  | true => simp
  | false =>
      have hn (key : String) (hk : key ∈ routingKeys) : cs.names key = false := by
        rw [Changes.names, Bool.eq_false_iff, ne_eq, List.contains_iff_mem]
        intro hm
        exact Bool.eq_false_iff.1 h (List.any_eq_true.2 ⟨key, hm, by simpa using hk⟩)
      have hr (m : Mode) : Service.changesRules cs m = false := by
        rw [Service.changesRules, Bool.or_eq_false_iff]
        cases m <;> exact ⟨hn _ (by decide), hn _ (by decide)⟩
      have hc : (s.folded cs).toConfig = s.toConfig := by
        simp only [toConfig, proxyEnabled_folded (hn _ (by decide)),
          effectiveUrl_folded (hn _ (by decide)), mode_folded (hn _ (by decide)),
          rulesFor_folded (hr _)]
      simp [hc]

/-- **The report of a change is exact.**  Changes that can be folded in report a change of routing
exactly if the settings stand for another configuration after them. -/
theorem routingChanged_iff {s next : Settings} {cs : Changes} (h : s.withChanges? cs = some next) :
    s.routingChanged next cs = true ↔ next.toConfig ≠ s.toConfig := by
  rw [withChanges?_eq, Option.ite_none_right_eq_some, Option.some.injEq] at h
  obtain ⟨-, rfl⟩ := h
  rw [routingChanged_eq, bne_iff_ne]

/-- Under a blacklist a new whitelist, a text and an unknown key report nothing although one of them
is a key that routing depends on; the word of a mode and the removal of a fetched list do. -/
theorem routingChanged_iff_mixed :
    let s : Settings := { standard with
      mode := .blacklist, blacklist := { RuleSource.empty with fetched := ["*.example.com"] } }
    let quiet : Changes := .ofList [
      ("whitelistRules", .set (.texts ["example.org"])), ("blacklistRawRules", .set (.text "# none")),
      ("theme", .set (.number (.integer 1))), ("proxyUrl", .set (.text Proxy.defaultUrl))]
    let loud : Changes := .ofList [
      ("theme", .removal), ("mode", .set (.text " BlackList")), ("blacklistUrlRulesParsed", .removal)]
    let calm : Settings := { s with
      whitelist := { s.whitelist with manual := ["example.org"] }
      blacklist := { s.blacklist with manualText := some "# none" } }
    let bare : Settings := { s with blacklist := .empty }
    (s.withChanges? quiet = some calm ∧ s.routingChanged calm quiet = false) ∧
      s.withChanges? loud = some bare ∧ s.routingChanged bare loud = true := by
  intro s quiet loud calm bare
  have hquiet : s.withChanges? quiet = some calm := by decide
  have hloud : s.withChanges? loud = some bare := by decide
  refine ⟨⟨hquiet, ?_⟩, hloud, ?_⟩
  · rw [Bool.eq_false_iff, ne_eq, routingChanged_iff hquiet]
    decide
  · rw [routingChanged_iff hloud]
    decide

end Settings

/-! ### Any number of notices -/

namespace Service

theorem config_receive {s : Service} (h : s.config = s.settings.toConfig) (n : Notice) :
    (s.receive n).1.config = (s.receive n).1.settings.toConfig := by
  rw [receive_fst, config_apply, settings_apply]
  change s.config.merge (noticeUpdate s.settings s.config.mode n) = (s.settings.after n).toConfig
  rw [h]
  exact s.settings.merge_noticeUpdate n

/-- **The live configuration is that of the settings** as long as nothing but notices reaches the
service. -/
theorem config_run_notices (ns : List Notice) : ∀ {s : Service},
    s.config = s.settings.toConfig →
      (s.run (ns.map .notice)).config = (s.run (ns.map .notice)).settings.toConfig := by
  induction ns with
  | nil => intro s h; exact h
  | cons n ns ih => intro s h; exact ih (config_receive h n)

/-- A notice reports a change exactly when the configuration is another one after it. -/
theorem receive_snd (s : Service) (n : Notice) :
    (s.receive n).2 = some true ↔ (s.receive n).1.config ≠ s.config := by
  rw [receive_fst, config_apply, config_with_settings]
  cases n with
  | changes cs =>
      simp only [receive, onChanges, Settings.withChanges?_eq, noticeUpdate]
      cases cs.areAccepted with
      | true => simp [apply_snd]
      | false => simp
  | fetched m url l =>
      by_cases h : s.config.mode = m
      · simp [receive, setUrlRules, noticeUpdate, h, apply_snd]
      · simp [receive, setUrlRules, noticeUpdate, h]

/-- Changes are refused exactly when folding them into the settings is, and otherwise they report
what folding reports. -/
theorem receive_changes_snd {s : Service} (h : s.config = s.settings.toConfig) (cs : Changes) :
    (s.receive (.changes cs)).2
      = (s.settings.withChanges? cs).map fun after => s.settings.routingChanged after cs := by
  have hm : s.config.mode = s.settings.mode := by rw [h]; rfl
  rw [receive, onChanges, Settings.withChanges?_eq]
  cases cs.areAccepted with
  | false => rfl
  | true =>
      simp only [if_true, Option.map_some, Option.some.injEq, Settings.routingChanged_eq]
      rw [Bool.eq_iff_iff, apply_snd, config_with_settings, hm, h,
        Settings.merge_updateOf_folded, bne_iff_ne]

/-- **The live configuration mirrors the settings**: whatever notices the service was given since it
started, its configuration is that of its settings, and stays so with one notice more.  That notice
reports a change exactly when the settings stand for another configuration after it, and what
changes report is what folding them into the settings reports. -/
theorem mirrors_settings (fallback : Proxy) (settings : Settings) (ns : List Notice)
    (n : Notice) :
    let s := (start fallback settings).run (ns.map .notice)
    let next := s.receive n
    s.config = s.settings.toConfig ∧
      next.1.config = next.1.settings.toConfig ∧
      (next.2 = some true ↔ next.1.settings.toConfig ≠ s.settings.toConfig) ∧
      ∀ cs, (s.receive (.changes cs)).2
        = (s.settings.withChanges? cs).map fun after => s.settings.routingChanged after cs := by
  intro s next
  have hs : s.config = s.settings.toConfig := config_run_notices ns rfl
  have hnext : next.1.config = next.1.settings.toConfig := config_receive hs n
  refine ⟨hs, hnext, ?_, ?_⟩
  · rw [← hnext, ← hs]
    exact receive_snd s n
  · exact receive_changes_snd hs

end Service

end HostRouting
