/-
**From lists to targets.**

Between the text of a fetched rule list and the target of a host, the text is cut into lines and
cleaned, the rules take their place among the settings, the lists of the mode are merged and cleaned
once more, what is left is compiled, and the mode turns a match into a target.  All of that comes
down to one sentence about what is listed: the rules entered by hand, and the lines of the text if
it is the list of the mode, otherwise the rules fetched earlier.

Main definitions:

* `Settings.Lists` — what is listed for the mode once a text has been fetched;
* `Decider.asked` — a decider after it has been asked.

Main results:

* `Settings.mem_rules_fetched` — the rules that are compiled are the listed patterns;
* `Decider.target_asked` — what a decider was asked before makes no difference;
* `Settings.target_fetched` — **a host goes through the proxy exactly if what is listed says so**,
  and nothing but the listed patterns makes a difference.
-/

import HostRouting.Proofs.Routing.Memo
import HostRouting.Proofs.Rules.RuleList

set_option autoImplicit false

namespace HostRouting

/-! ### Deciders that were asked -/

namespace Decider

/-- A decider after queries, the first one first. -/
def asked (d : Decider) (qs : List Query) : Decider := qs.foldl (fun d q => (d.answer q).2) d

/-- Being asked keeps the snapshot and the truth of what is remembered. -/
theorem IsTrue.asked {d : Decider} (h : d.IsTrue) (qs : List Query) :
    (d.asked qs).snapshot = d.snapshot ∧ (d.asked qs).IsTrue := by
  induction qs generalizing d with
  | nil => exact ⟨rfl, h⟩
  | cons q qs ih =>
      obtain ⟨-, hsnapshot, htrue⟩ := answer_eq h q
      obtain ⟨hasked, htrue'⟩ := ih htrue
      exact ⟨hasked.trans hsnapshot, htrue'⟩

/-- **What a decider was asked before makes no difference.** -/
theorem target_asked (cache : Cache) (s : Snapshot) (qs : List Query) (host : String) :
    (((ofSnapshot cache s).asked qs).target host).1 = s.target host := by
  obtain ⟨hsnapshot, htrue⟩ := (isTrue_ofSnapshot cache s).asked qs
  rw [(target_eq htrue host).1, hsnapshot]
  rfl

end Decider

/-! ### Modes -/

/-- There are two targets only, so that one of them tells them apart. -/
theorem Target.eq_of_eq_proxy_iff {t t' : Target} (h : t = .proxy ↔ t' = .proxy) : t = t' := by
  cases t <;> cases t' <;> simp_all

/-- A mode sends a host through the proxy if it is the mode for what is matched or not. -/
theorem Mode.target_eq_proxy_iff (m : Mode) (matched : Bool) :
    m.target matched = .proxy ↔ (m = .blacklist ↔ matched = true) := by
  cases m <;> cases matched <;> decide

/-- A snapshot sends a host through the proxy unless routing is off or the host is the machine
itself, by what its mode says about its rules. -/
theorem Snapshot.target_eq_proxy_iff (s : Snapshot) (host : String) :
    s.target host = .proxy ↔
      s.config.proxyEnabled = true ∧ isLoopback host = false ∧
        (s.config.mode = .blacklist ↔
          ∃ rule ∈ s.config.rules, matchesText rule host = true) := by
  rw [← List.any_eq_true, ← RuleSet.matchesHost_ofTexts, ← s.rules_eq,
    ← Mode.target_eq_proxy_iff, target, RuleSet.target]
  cases s.config.proxyEnabled with
  | false => simp
  | true => cases isLoopback host <;> simp

/-! ### What is listed -/

namespace Settings

/-- Whether a rule is listed for the mode of the settings once a text has been fetched for the mode
`list`: it was entered by hand, or it is a line of that text without the blanks around it, or, if
the text is for the other mode, it was fetched earlier. -/
def Lists (s : Settings) (list : Mode) (text rule : String) : Prop :=
  rule ∈ (s.source s.mode).manual ∨
    if list = s.mode then
      ∃ line ∈ text.toList.splitOn '\n', String.ofList (Text.trimmed line) = rule
    else rule ∈ (s.source s.mode).fetched

/-- The settings after a text has been fetched for the mode `list`. -/
def fetching (s : Settings) (list : Mode) (url text : String) : Settings :=
  s.setUrlRules list url (RuleList.parse text)

theorem source_setUrlRules (s : Settings) (list : Mode) (url : String) (l : RuleList) (m : Mode) :
    (s.setUrlRules list url l).source m
      = if list = m then
          { s.source m with url := some url, fetchedText := some l.raw, fetched := l.rules }
        else s.source m := by
  cases list <;> cases m <;> rfl

/-- **The rules that are compiled are the listed patterns.** -/
theorem mem_rules_fetched (s : Settings) (list : Mode) (url text rule : String) :
    rule ∈ (s.fetching list url text).toConfig.rules ↔
      s.Lists list text rule ∧ Pattern.isValid rule = true := by
  have hmode : (s.fetching list url text).mode = s.mode := mode_withSource ..
  have hrules : (s.fetching list url text).toConfig.rules
      = (s.fetching list url text).rulesFor s.mode := by rw [toConfig, hmode]
  rw [hrules, mem_rulesFor, Lists, fetching, source_setUrlRules]
  split
  · rw [RuleList.rules_parse, List.mem_filter, List.mem_map]
    -- the lines were cleaned of what is no pattern already
    constructor
    · rintro ⟨hmanual | ⟨hline, -⟩, hvalid⟩
      · exact ⟨.inl hmanual, hvalid⟩
      · exact ⟨.inr hline, hvalid⟩
    · rintro ⟨hmanual | hline, hvalid⟩
      · exact ⟨.inl hmanual, hvalid⟩
      · exact ⟨.inr ⟨hline, hvalid⟩, hvalid⟩
  · exact Iff.rfl

/-- Some compiled rule matches a host exactly if something listed does: what is no pattern matches
nothing. -/
theorem exists_rules_fetched (s : Settings) (list : Mode) (url text host : String) :
    (∃ rule ∈ (s.fetching list url text).toConfig.rules, matchesText rule host = true) ↔
      ∃ rule, s.Lists list text rule ∧ matchesText rule host = true := by
  constructor
  · rintro ⟨rule, hrule, hmatch⟩
    exact ⟨rule, ((mem_rules_fetched ..).1 hrule).1, hmatch⟩
  · rintro ⟨rule, hlists, hmatch⟩
    exact ⟨rule, (mem_rules_fetched ..).2 ⟨hlists, isValid_of_matchesText hmatch⟩, hmatch⟩

/-! ### Targets -/

/-- The decider for the settings after a text has been fetched, when it has been asked `earlier`. -/
def decider (s : Settings) (list : Mode) (url text : String) (fallback : Proxy) (cache : Cache)
    (earlier : List Query) : Decider :=
  (Decider.ofSnapshot cache
    (.ofConfig fallback (s.fetching list url text).toConfig)).asked earlier

/-- The target of a host in terms of what is listed. -/
theorem target_decider_eq_proxy_iff (s : Settings) (list : Mode) (url text : String)
    (fallback : Proxy) (cache : Cache) (earlier : List Query) (host : String) :
    ((s.decider list url text fallback cache earlier).target host).1 = .proxy ↔
      s.proxyEnabled = true ∧ host ∉ ["localhost", "127.0.0.1", "::1"] ∧
        (s.mode = .blacklist ↔
          ∃ rule, s.Lists list text rule ∧ matchesText rule host = true) := by
  have henabled : (s.fetching list url text).toConfig.proxyEnabled = s.proxyEnabled := by
    cases list <;> rfl
  have hmode : (s.fetching list url text).toConfig.mode = s.mode := mode_withSource ..
  have hloopback : isLoopback host = false ↔ host ∉ ["localhost", "127.0.0.1", "::1"] := by
    rw [isLoopback, loopbackHosts, ← Bool.not_eq_true, List.contains_iff_mem]
  rw [decider, Decider.target_asked, Snapshot.target_eq_proxy_iff, Snapshot.config_ofConfig,
    henabled, hmode, hloopback, exists_rules_fetched]

/-- **A host goes through the proxy exactly if what is listed says so.**  Whatever the settings were
and whatever text has been fetched for one of the modes since: the decider for them, with any cache
and any fallback and whatever it was asked before, sends a host through the proxy if routing is on,
the host is none of the three names of the machine itself, and some listed text matches it on a
blacklist, or none on a whitelist.  So nothing else makes a difference: two deciders with the same
switch and the same mode send every host the same way if the same texts are listed for them apart
from remarks and from what is no pattern. -/
theorem target_fetched (s : Settings) (list : Mode) (url text : String) (fallback : Proxy)
    (cache : Cache) (earlier : List Query) :
    (∀ host, ((s.decider list url text fallback cache earlier).target host).1 = .proxy ↔
      s.proxyEnabled = true ∧ host ∉ ["localhost", "127.0.0.1", "::1"] ∧
        (s.mode = .blacklist ↔
          ∃ rule, s.Lists list text rule ∧ matchesText rule host = true)) ∧
    ∀ (s' : Settings) (list' : Mode) (url' text' : String) (fallback' : Proxy) (cache' : Cache)
        (earlier' : List Query),
      s'.proxyEnabled = s.proxyEnabled → s'.mode = s.mode →
      (∀ rule, RuleList.isRemark rule.toList = false → Pattern.isValid rule = true →
        (s'.Lists list' text' rule ↔ s.Lists list text rule)) →
      ∀ host, ((s'.decider list' url' text' fallback' cache' earlier').target host).1
        = ((s.decider list url text fallback cache earlier).target host).1 := by
  refine ⟨target_decider_eq_proxy_iff s list url text fallback cache earlier, ?_⟩
  intro s' list' url' text' fallback' cache' earlier' henabled hmode hlists host
  -- a text that matches is a pattern, and no remark is one
  have hmatched : (∃ rule, s'.Lists list' text' rule ∧ matchesText rule host = true) ↔
      ∃ rule, s.Lists list text rule ∧ matchesText rule host = true := by
    refine exists_congr fun rule => and_congr_left fun hmatch => ?_
    have hvalid := isValid_of_matchesText hmatch
    refine hlists rule ?_ hvalid
    rw [Bool.eq_false_iff]
    intro hremark
    have hinvalid := RuleList.isValid_of_isRemark hremark
    rw [String.ofList_toList, hvalid] at hinvalid
    cases hinvalid
  refine Target.eq_of_eq_proxy_iff ?_
  rw [target_decider_eq_proxy_iff, target_decider_eq_proxy_iff, henabled, hmode, hmatched]

/-- A blacklist with `a.com` by hand and `*.cn` in a text full of remarks, repetitions and line
ends; the same the other way round, and with a text for the other mode. -/
theorem target_fetched_blacklist :
    let s : Settings := { Settings.standard with
      mode := .blacklist, blacklist := { RuleSource.empty with manual := ["a.com", "no rule!"] } }
    let text := "# hosts\r\n  *.cn \r\n\r\n*.cn\n[more]\n!a.cn\n"
    let s' : Settings := { Settings.standard with
      mode := .blacklist, blacklist := ⟨["*.cn"], none, none, none, ["a.com", "*.cn"]⟩ }
    let d := s.decider .blacklist "http://lists/" text Proxy.standard (.recent 0) []
    let d' := s'.decider .whitelist "" "b.cn" Proxy.standard .standard [.target "b.cn"]
    (d.target "b.cn").1 = .proxy ∧ ∀ host, (d'.target host).1 = (d.target host).1 := by
  intro s text s' d d'
  have h := target_fetched s .blacklist "http://lists/" text Proxy.standard (.recent 0) []
  constructor
  · rw [h.1]
    refine ⟨rfl, by decide, iff_of_true rfl ⟨"*.cn", .inr ?_, by decide +kernel⟩⟩
    exact ⟨"  *.cn \r".toList, by decide +kernel, by decide +kernel⟩
  · refine h.2 s' .whitelist "" "b.cn" Proxy.standard .standard [.target "b.cn"] rfl rfl ?_
    intro rule _ hvalid
    -- both lists have been computed: they differ in their order only
    have hrules : (s.fetching .blacklist "http://lists/" text).toConfig.rules
        = ["a.com", "*.cn"] := by decide +kernel
    have hrules' : (s'.fetching .whitelist "" "b.cn").toConfig.rules = ["*.cn", "a.com"] := by
      decide +kernel
    have hmem := mem_rules_fetched s .blacklist "http://lists/" text rule
    have hmem' := mem_rules_fetched s' .whitelist "" "b.cn" rule
    rw [hrules, and_iff_left hvalid] at hmem
    rw [hrules', and_iff_left hvalid] at hmem'
    rw [← hmem, ← hmem']
    simp [or_comm]

end Settings

end HostRouting
