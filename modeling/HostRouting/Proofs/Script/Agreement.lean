/-
**Scripts decide what snapshots decide.**

A browser loads the script of a snapshot once and asks it for one host after the other.  Each answer
is the decision of the snapshot: hosts that are the machine itself go directly before anything is
looked up, a host asked before gets what was stored for it, and any other host is decided by the
condition of the rules and stored.  What carries this through a run is that the record of the
script never holds an answer other than the decision for its host; it has no prototype, so
`__proto__` and `constructor` are hosts like any other.

Main definitions:

* `Script.answerFor` — what a script has to answer for a host;
* `Script.IsMemo` — the record holds such answers only.

Main results:

* `Script.call_findProxy` — one call answers rightly and keeps the record right;
* `Script.answers_text` — so does every run of calls;
* `Snapshot.script_agrees` — the script of a snapshot takes its decisions.
-/

import HostRouting.Proofs.Script.Program
import HostRouting.Routing.Snapshot

set_option autoImplicit false

namespace HostRouting

namespace Script

/-! ### One call -/

/-- What a script has to answer for a host. -/
def answerFor (s : Script) (host : String) : String :=
  (Decision.ofTarget s.proxy
    (if isLoopback host then .direct else s.rules.target s.mode host)).text

/-- The record of a script holds no answer but the right one for its host. -/
def IsMemo (s : Script) (rs : Records) : Prop :=
  ∃ es, rs.lookup "cache" = some es ∧
    ∀ host v, es.lookup host = some v → v = .text (s.answerFor host)

theorem isMemo_fresh (s : Script) (t : Term) : s.IsMemo (programOf s t).fresh := by
  refine ⟨[], rfl, ?_⟩
  intro host v hv
  cases hv

/-- Storing the right answer keeps the record right. -/
theorem isMemo_put {s : Script} {rs : Records} {es : List (String × Value)} (host : String)
    (hes : ∀ host v, es.lookup host = some v → v = .text (s.answerFor host)) :
    s.IsMemo (("cache", (host, .text (s.answerFor host)) :: es) :: rs) := by
  refine ⟨_, List.lookup_cons_self, ?_⟩
  intro other v hv
  rw [List.lookup_cons] at hv
  by_cases heq : other = host
  · subst heq
    rw [beq_self_eq_true, Option.some.injEq] at hv
    exact hv.symm
  · rw [beq_eq_false_iff_ne.2 heq] at hv
    exact hes other v hv

/-- What follows the condition: the answer is found, stored and returned. -/
theorem exec_resultCode (s : Script) {ls : Locals} {rs : Records} {es : List (String × Value)}
    {host answer : String} {matched : Bool} (hhost : List.lookup "host" ls = some (.text host))
    (hcache : List.lookup "cache" rs = some es)
    (hanswer : answer = (Decision.ofTarget s.proxy (s.mode.target matched)).text) :
    ∃ ls', (resultCode s).exec (("matched", .bool matched) :: ls) rs
      = some ⟨ls', ("cache", (host, .text answer) :: es) :: rs, some (.text answer)⟩ := by
  have hproxied : ∃ b, (modeTerm s.mode).eval (("matched", .bool matched) :: ls) rs = some (.bool b)
      ∧ (if b then "PROXY " ++ s.proxy.hostPort else "DIRECT") = answer := by
    rw [hanswer]
    cases s.mode <;> cases matched <;> exact ⟨_, rfl, rfl⟩
  obtain ⟨b, hb, hresult⟩ := hproxied
  have hchoice : (Term.choice (.name "isProxy") (.text ("PROXY " ++ s.proxy.hostPort))
      (.text "DIRECT")).eval (("isProxy", .bool b) :: ("matched", .bool matched) :: ls) rs
      = some (.text answer) := by
    rw [← hresult]
    cases b <;> rfl
  refine ⟨("result", .text answer) :: ("isProxy", .bool b) :: ("matched", .bool matched) :: ls, ?_⟩
  rw [resultCode, exec_declare hb, exec_declare hchoice]
  simp [Code.exec, Term.eval, List.lookup_cons, hhost, Value.key?, Records.put?, hcache]

/-- **One call answers rightly and keeps the record right.** -/
theorem call_findProxy {s : Script} {ts : List Token} {t : Term} (h : IsMatched s.rules ts t)
    {rs : Records} (hrs : s.IsMemo rs) (url host : String) :
    ∃ rs', (findProxy s t).call [.text url, .text host] rs = some (.text (s.answerFor host), rs')
      ∧ s.IsMemo rs' := by
  obtain ⟨es, hcache, hes⟩ := hrs
  have hhost : List.lookup "host" [("url", Value.text url), ("host", .text host)]
      = some (.text host) := rfl
  have hloop := isRead_loopback.means _ rs host hhost
  rw [holds_loopback] at hloop
  have hcall : (findProxy s t).call [.text url, .text host] rs
      = ((findProxy s t).body.exec [("url", .text url), ("host", .text host)] rs).map
          fun o => (o.returned.getD .undefined, o.records) := rfl
  rw [hcall, findProxy]
  by_cases hself : isLoopback host = true
  · -- the machine itself: nothing is looked up and nothing is stored
    have hanswer : s.answerFor host = "DIRECT" := by
      rw [answerFor, if_pos hself]
      rfl
    rw [exec_when_give hloop hself rfl, hanswer]
    exact ⟨rs, rfl, es, hcache, hes⟩
  · rw [Bool.not_eq_true] at hself
    rw [exec_when_skip hloop hself]
    have hhas : (Term.has "cache" (.name "host")).eval [("url", .text url), ("host", .text host)] rs
        = some (.bool (es.lookup host).isSome) := by
      simp only [Term.eval, hhost, Option.bind_some, Value.key?, hcache, Option.map_some]
    cases hfound : es.lookup host with
    | some v =>
        -- a host asked before: its answer was stored
        have hentry : (Term.entry "cache" (.name "host")).eval
            [("url", .text url), ("host", .text host)] rs = some v := by
          simp only [Term.eval, hhost, Option.bind_some, Value.key?, hcache, Option.map_some,
            hfound, Option.getD_some]
        rw [exec_when_give hhas (by rw [hfound]; rfl) hentry, hes host v hfound]
        exact ⟨rs, rfl, es, hcache, hes⟩
    | none =>
        have hanswer : s.answerFor host
            = (Decision.ofTarget s.proxy (s.mode.target (s.rules.matchesHost host))).text := by
          rw [answerFor, hself]
          rfl
        obtain ⟨ls', hexec⟩ := exec_resultCode s hhost hcache hanswer
        rw [exec_when_skip hhas (by rw [hfound]; rfl),
          exec_declare (h.means _ rs host hhost), hexec]
        exact ⟨_, rfl, isMemo_put host hes⟩

/-! ### Runs -/

/-- **A script gives its right answer to every call of a run.** -/
theorem answers_text {s : Script} (h : AreValid s.rules.patterns) (calls : List (String × String)) :
    answers s.text calls = some (calls.map fun call => s.answerFor call.2) := by
  obtain ⟨ts, t, hmatched⟩ := exists_matched h
  rw [answers, read_script hmatched, Option.bind_some]
  refine answersFrom_eq (programOf s t) s.IsMemo s.answerFor ?_ calls _ (isMemo_fresh s t)
  rintro rs ⟨url, host⟩ hrs
  obtain ⟨rs', hcall, hrs'⟩ := call_findProxy hmatched hrs url host
  have hfunction : (programOf s t).functions.lookup "FindProxyForURL" = some (findProxy s t) := rfl
  refine ⟨rs', ?_, hrs'⟩
  rw [Program.answer?, hfunction, Option.bind_some, hcall, Option.bind_some]
  rfl

/-- The condition of valid patterns means, on its own, what the rule set matches. -/
theorem meaning?_matched {rules : RuleSet} (h : AreValid rules.patterns) (host : String) :
    meaning? (matched rules).text host = some (.bool (rules.matchesHost host)) := by
  obtain ⟨ts, t, hmatched⟩ := exists_matched h
  have hterm : term? ts = some t := by
    have hall := hmatched.parses (depth ts) [] (by rw [depth]; omega) .nil
    rw [List.append_nil] at hall
    rw [term?, hall]
    rfl
  rw [meaning?, hmatched.tokens, Option.bind_some, hterm, Option.bind_some]
  exact hmatched.means _ _ host rfl

end Script

/-! ### Snapshots -/

namespace Snapshot

/-- The rules of a snapshot are valid: what is no pattern was left out. -/
theorem areValid_rules (s : Snapshot) : Script.AreValid s.rules.patterns := by
  rw [s.rules_eq]
  exact Script.areValid_ofTexts s.config.rules

/-- While routing is on, the right answer of the script is the decision of the snapshot. -/
theorem answerFor_script {s : Snapshot} (h : s.config.proxyEnabled = true) (host : String) :
    s.script.answerFor host = (s.decision host).text := by
  rw [decision, target, h]
  rfl

/-- **The script of a snapshot takes the decisions of the snapshot**: its text, loaded once, answers
every list of calls as the snapshot decides; the text of its condition alone means what the rules
match; and no pattern is kept out of it. -/
theorem script_agrees (fallback : Proxy) (c : Config) (us : List Config.Update)
    (hon : (us.foldl updated (ofConfig fallback c)).config.proxyEnabled = true) :
    let s := us.foldl updated (ofConfig fallback c)
    (∀ calls : List (String × String), Script.answers s.script.text calls
        = some (calls.map fun call => (s.decision call.2).text)) ∧
      (∀ host, Script.meaning? (Script.matched s.rules).text host
        = some (.bool (s.rules.matchesHost host))) ∧
      ∀ p ∈ s.rules.patterns, (Script.condition? p).isSome = true := by
  intro s
  have hvalid := s.areValid_rules
  refine ⟨?_, Script.meaning?_matched hvalid, ?_⟩
  · intro calls
    have hanswers : Script.answers s.script.text calls
        = some (calls.map fun call => s.script.answerFor call.2) := Script.answers_text hvalid calls
    have hdecision := answerFor_script (s := s) hon
    simp only [hanswers, hdecision]
  · intro p hp
    rw [Script.condition?, if_pos (hvalid p hp)]
    rfl

/-- A blacklist with a text that is no rule, after another proxy was chosen: hosts below a base, the
machine itself, the name of a prototype, a line terminator under `?`, and a host asked again. -/
theorem script_agrees_blacklist :
    let c : Config :=
      ⟨true, "ftp://bad", .blacklist, ["*.cn", ".example.com", "node?.lan", "bad rule"]⟩
    let u : Config.Update := ⟨none, some "http://proxy.lan:3128", none, none⟩
    let s := [u].foldl updated (ofConfig .standard c)
    s.config.proxyEnabled = true ∧
      Script.answers s.script.text [("http://a.cn/", "a.cn"), ("", "localhost"), ("", "__proto__"),
          ("", "node1.lan"), ("", "node\n.lan"), ("", "a.cn"), ("", "example.com")]
        = some ["PROXY proxy.lan:3128", "DIRECT", "DIRECT", "PROXY proxy.lan:3128", "DIRECT",
            "PROXY proxy.lan:3128", "PROXY proxy.lan:3128"] := by
  intro c u s
  have hon : s.config.proxyEnabled = true := rfl
  refine ⟨hon, ((script_agrees .standard c [u] hon).1 _).trans ?_⟩
  decide +kernel

end Snapshot

end HostRouting
