/-
**The live configuration is well formed.**

The settings may hold anything: a blank proxy URL, lists in which most texts are no pattern, and a
fetched list may come with any rules.  None of this reaches the live configuration.  Rules are
cleaned where they are taken from the settings and where a message brings them, and a blank URL
gives way to the default or is passed over.  Only an update that is applied directly could bring
rules as they are.  Where none does, every live rule is a pattern, so the compiled rules are the
live rules one by one.

Main definitions:

* `Config.IsWellFormed` — the proxy URL is not blank and every rule is a pattern.

Main results:

* `Config.IsWellFormed.merge` — an update with valid rules keeps a configuration well formed;
* `Service.isWellFormed_perform` — so does every operation;
* `Service.wellFormed_run` — **the live configuration stays well formed**, and snapshot and
  configuration agree rule by rule.
-/

import HostRouting.Proofs.Rules.RuleList
import HostRouting.Proofs.Service.Operation

set_option autoImplicit false

namespace HostRouting

/-! ### Configurations -/

/-- The proxy URL is not blank and every rule is a pattern. -/
structure Config.IsWellFormed (c : Config) : Prop where
  proxyUrl : Text.isBlankText c.proxyUrl = false
  rules : ∀ rule ∈ c.rules, Pattern.isValid rule = true

/-- Every rule that an update carries is a pattern. -/
def Config.Update.IsClean (u : Config.Update) : Prop :=
  ∀ rules, u.rules = some rules → ∀ rule ∈ rules, Pattern.isValid rule = true

/-- The configuration that settings stand for is well formed, whatever they hold. -/
theorem Settings.isWellFormed_toConfig (s : Settings) : s.toConfig.IsWellFormed where
  proxyUrl := s.isBlankText_effectiveUrl
  rules := fun _ hrule => (mem_rulesFor.1 hrule).2

/-- A blank proxy URL is passed over, so an update can only bring rules that are no pattern. -/
theorem Config.IsWellFormed.merge {c : Config} {u : Config.Update} (h : c.IsWellFormed)
    (hu : u.IsClean) : (c.merge u).IsWellFormed := by
  constructor
  · rw [Config.merge]
    cases hurl : u.effectiveUrl with
    | none => exact h.proxyUrl
    | some url =>
        rw [Config.Update.effectiveUrl, Option.filter_eq_some_iff] at hurl
        simpa using hurl.2
  · rw [Config.merge]
    cases hrules : u.rules with
    | none => exact h.rules
    | some rules => exact hu rules hrules

/-! ### Operations -/

namespace Service

/-- What is left of an update in a message has no other rules than patterns. -/
theorem isClean_cleaned (u : Config.Update) : (cleaned u).IsClean := by
  intro rules h rule hrule
  obtain ⟨all, -, rfl⟩ := Option.map_eq_some_iff.1 h
  exact (List.mem_filter.1 hrule).2

theorem isClean_of_rules_eq_none {u : Config.Update} (h : u.rules = none) : u.IsClean := by
  intro rules hrules
  rw [h] at hrules
  cases hrules

/-- Rules that are taken from settings are patterns. -/
theorem isClean_of_rules_eq_rulesFor {u : Config.Update} {settings : Settings} {m : Mode}
    (h : u.rules = some (settings.rulesFor m)) : u.IsClean := by
  intro rules hrules rule hrule
  rw [h] at hrules
  obtain rfl : settings.rulesFor m = rules := Option.some.inj hrules
  exact (Settings.mem_rulesFor.1 hrule).2

theorem isClean_updateOf (settings : Settings) (mode : Mode) (cs : Changes) :
    (updateOf settings mode cs).IsClean := by
  -- whichever mode it is that the rules follow
  obtain ⟨next, hnext⟩ : ∃ next, (updateOf settings mode cs).rules
      = if cs.names "mode" || changesRules cs next then some (settings.rulesFor next) else none :=
    ⟨_, rfl⟩
  split at hnext
  · exact isClean_of_rules_eq_rulesFor hnext
  · exact isClean_of_rules_eq_none hnext

theorem isClean_noticeUpdate (settings : Settings) (mode : Mode) (n : Notice) :
    (noticeUpdate settings mode n).IsClean := by
  cases n with
  | changes cs =>
      rw [noticeUpdate]
      split
      · exact isClean_updateOf (settings.folded cs) mode cs
      · exact isClean_of_rules_eq_none rfl
  | fetched m url l =>
      rw [noticeUpdate]
      split
      · exact isClean_of_rules_eq_rulesFor rfl
      · exact isClean_of_rules_eq_none rfl

/-- An operation brings no rules that are no pattern, unless it is an update with rules that is
applied directly. -/
theorem isClean_updateFor {o : Operation} (h : ∀ u, o = .update u → u.rules = none)
    (s : Service) : (s.updateFor o).IsClean := by
  cases o with
  | notice n => exact isClean_noticeUpdate s.settings s.config.mode n
  | update u => exact isClean_of_rules_eq_none (h u rfl)
  | message m =>
      cases m with
      | update u => exact isClean_cleaned u

theorem isWellFormed_perform {s : Service} (hs : s.config.IsWellFormed) {o : Operation}
    (h : ∀ u, o = .update u → u.rules = none) : (s.perform o).config.IsWellFormed := by
  rw [config_perform]
  exact hs.merge (isClean_updateFor h s)

/-! ### Runs -/

theorem isWellFormed_run (os : List Operation) : ∀ {s : Service}, s.config.IsWellFormed →
    (∀ u, .update u ∈ os → u.rules = none) → (s.run os).config.IsWellFormed := by
  induction os with
  | nil => intro s hs _; exact hs
  | cons o os ih =>
      intro s hs h
      refine ih (isWellFormed_perform hs ?_) fun u hu => h u (List.mem_cons_of_mem _ hu)
      rintro u rfl
      exact h u List.mem_cons_self

theorem fallback_run (os : List Operation) : ∀ s : Service,
    (s.run os).live.fallback = s.live.fallback := by
  induction os with
  | nil => intro s; rfl
  | cons o os ih => intro s; exact (ih _).trans (fallback_perform s o)

/-- **The live configuration stays well formed**: whatever the settings hold, and whatever the
service was told and messages have brought, as long as no update that was applied directly carried
rules the live proxy URL is not blank and every live rule is a pattern.  The compiled rules are then
as many as the live rules and written like them one by one, and the proxy is the one that the live
URL names or else the fallback the service was started with. -/
theorem wellFormed_run (fallback : Proxy) (settings : Settings) (os : List Operation)
    (h : ∀ u, .update u ∈ os → u.rules = none) :
    let s := (start fallback settings).run os
    Text.isBlankText s.config.proxyUrl = false ∧
      (∀ rule ∈ s.config.rules, Pattern.isValid rule = true) ∧
      s.live.rules.size = s.config.rules.length ∧
      s.live.rules.patterns.map Pattern.text = s.config.rules ∧
      (∀ p, Proxy.parse s.config.proxyUrl = .ok p → s.live.proxy = p) ∧
      (∀ fault, Proxy.parse s.config.proxyUrl = .error fault → s.live.proxy = fallback) := by
  intro s
  have hs : s.config.IsWellFormed := isWellFormed_run os settings.isWellFormed_toConfig h
  have htexts : s.live.rules.patterns.map Pattern.text = s.config.rules := by
    rw [s.live.rules_eq, RuleSet.map_text_ofTexts]
    exact List.filter_eq_self.2 hs.rules
  have hsize : s.live.rules.size = s.config.rules.length := by
    rw [← htexts, List.length_map, RuleSet.size]
  have hfallback : s.live.fallback = fallback := fallback_run os (start fallback settings)
  have hproxy : s.live.proxy = Proxy.resolve fallback s.config.proxyUrl := by
    rw [s.live.proxy_eq, hfallback]
    rfl
  refine ⟨hs.proxyUrl, hs.rules, hsize, htexts, ?_, ?_⟩
  · intro p hp
    rw [hproxy, Proxy.resolve, hp]
  · intro fault hfault
    rw [hproxy, Proxy.resolve, hfault]

/-- The settings hold a blank URL and texts that are no pattern, a message and a fetched list bring
more of these, and an update names a proxy that cannot be used. -/
theorem wellFormed_run_faulty :
    let settings : Settings := { Settings.standard with
      proxyUrl := "\t"
      whitelist := { RuleSource.empty with manual := ["bad rule", "a.com"] } }
    let os : List Operation :=
      [.message (.update ⟨none, some " ", none, some ["*.cn", "übel"]⟩),
        .notice (.fetched .whitelist "https://lists.lan/w.txt" ⟨"", ["", ".b.org"], 0⟩),
        .update ⟨none, some "socks5://", none, none⟩]
    (∀ u, .update u ∈ os → u.rules = none) ∧
      ((start Proxy.standard settings).run os).config.rules = ["a.com", ".b.org"] ∧
      ((start Proxy.standard settings).run os).live.rules.patterns.map Pattern.text
        = ((start Proxy.standard settings).run os).config.rules ∧
      ((start Proxy.standard settings).run os).live.proxy = Proxy.standard := by
  intro settings os
  have hdirect : ∀ u, Operation.update u ∈ os → u.rules = none := by
    intro u hu
    simp only [os, List.mem_cons, List.not_mem_nil, or_false, reduceCtorEq, false_or,
      Operation.update.injEq] at hu
    rw [hu]
  obtain ⟨-, -, -, htexts, -, hfallback⟩ := wellFormed_run Proxy.standard settings os hdirect
  have hrules : ((start Proxy.standard settings).run os).config.rules = ["a.com", ".b.org"] := by
    decide +kernel
  have hurl : Proxy.parse ((start Proxy.standard settings).run os).config.proxyUrl
      = .error (.scheme "socks5") := by
    decide +kernel
  exact ⟨hdirect, hrules, htexts, hfallback _ hurl⟩

end Service

end HostRouting
