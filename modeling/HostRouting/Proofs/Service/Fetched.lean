/-
**Two ways to store a fetched rule list.**

A rule list that was fetched can be handed to the service, which keeps it and takes its rules if the
list belongs to the live mode.  It can also be written to the store: then the service is told of
three changed keys, writes its settings as a document, puts the values in, reads all of it back, and
works out from the names of the keys what that means for the live configuration.  Both ways lead to
the same service, in whatever state it is, so the live mode may differ from the one in the settings.

Main definitions:

* `Changes.IsFetched` — the changes that set the three keys of a fetched rule list.

Main results:

* `Settings.folded_of_isFetched` — folding these changes in is storing the list;
* `Service.updateOf_of_isFetched` — they call for the rules of the list, if its mode is live;
* `Service.onChanges_of_isFetched` — **both ways leave the same service** and report the same.
-/

import HostRouting.Proofs.Service.Operation

set_option autoImplicit false

namespace HostRouting

namespace Changes

/-! ### The three keys -/

/-- What a fetched rule list sets: where it came from, its text, and its rules. -/
def fetchedValues (m : Mode) (url : String) (l : RuleList) : List (String × Option Json) :=
  [(RuleSource.urlKey m, some (.text url)), (RuleSource.fetchedTextKey m, some (.text l.raw)),
    (RuleSource.fetchedKey m, some (.texts l.rules))]

/-- Whether changes set the three keys of a fetched rule list and nothing else.  The order of the
keys and their old values are left open. -/
def IsFetched (cs : Changes) (m : Mode) (url : String) (l : RuleList) : Prop :=
  (cs.entries.map fun e => (e.1, e.2.new)).Perm (fetchedValues m url l)

section Fetched

variable {cs : Changes} {m : Mode} {url : String} {l : RuleList} (h : cs.IsFetched m url l)

include h

theorem IsFetched.names_eq (key : String) :
    cs.names key = [RuleSource.urlKey m, RuleSource.fetchedTextKey m,
      RuleSource.fetchedKey m].contains key := by
  have hkeys : cs.keys.Perm ((fetchedValues m url l).map (·.1)) := by
    have hp := h.map (·.1)
    rwa [List.map_map] at hp
  rw [names, hkeys.contains_eq]
  rfl

theorem IsFetched.not_names :
    cs.names "proxyEnabled" = false ∧ cs.names "proxyUrl" = false ∧ cs.names "mode" = false := by
  simp only [h.names_eq]
  cases m <;> decide

theorem IsFetched.value?_eq {key : String} {j : Json}
    (hm : (key, some j) ∈ fetchedValues m url l) : cs.value? key = some j := by
  obtain ⟨⟨k, c⟩, hc, he⟩ := List.mem_map.1 (h.mem_iff.2 hm)
  obtain ⟨rfl, hnew⟩ := Prod.mk.inj he
  rw [value?, mem_entries_iff.1 hc]
  exact hnew

theorem IsFetched.areAccepted : cs.areAccepted = true := by
  have hall : cs.areAccepted
      = (fetchedValues m url l).all fun e => e.2.all (Settings.accepts e.1) := by
    rw [← h.all_eq, List.all_map]
    rfl
  have hrules : (Json.texts l.rules).texts?.isSome = true := by rw [Settings.texts?_texts]; rfl
  rw [hall]
  simp only [fetchedValues, List.all_cons, List.all_nil, Option.all_some, Bool.and_true]
  cases m <;> exact hrules

end Fetched

/-- A field whose key is set to a value that can be read takes that value. -/
theorem folded_of_value? {α : Type} {cs : Changes} {key : String} {read? : Json → Option α}
    {j : Json} {a : α} (hj : cs.value? key = some j) (ha : read? j = some a) (default old : α) :
    cs.folded key read? default old = a := by
  obtain ⟨c, hc, hnew⟩ := Option.bind_eq_some_iff.1 hj
  obtain ⟨prior, new⟩ := c
  obtain rfl : new = some j := hnew
  rw [folded, hc]
  simp [ha]

end Changes

/-! ### The settings -/

/-- What is kept for a mode stays if none of its keys changes. -/
theorem RuleSource.folded_of_not_names {cs : Changes} {m : Mode}
    (h : ∀ key ∈ Settings.sourceKeys m, cs.names key = false) (r : RuleSource) :
    r.folded m cs = r := by
  simp only [Settings.sourceKeys, List.forall_mem_cons] at h
  obtain ⟨hmanual, htext, hurl, hraw, hrules, -⟩ := h
  simp only [RuleSource.folded, Changes.folded_of_not_names, hmanual, htext, hurl, hraw, hrules]

/-- Settings are equal if they agree on what is outside the modes and on what is kept for each. -/
theorem Settings.ext_source {s t : Settings} (henabled : s.proxyEnabled = t.proxyEnabled)
    (hurl : s.proxyUrl = t.proxyUrl) (hmode : s.mode = t.mode)
    (hsource : ∀ mode, s.source mode = t.source mode) : s = t := by
  cases s
  cases t
  simp only [Settings.mk.injEq]
  exact ⟨henabled, hurl, hmode, hsource .whitelist, hsource .blacklist⟩

section Fetched

variable {cs : Changes} {m : Mode} {url : String} {l : RuleList} (h : cs.IsFetched m url l)

include h

/-- What is kept for the mode of the list takes the three values. -/
theorem RuleSource.folded_of_isFetched (r : RuleSource) :
    r.folded m cs = { r with url := some url, fetchedText := some l.raw, fetched := l.rules } := by
  have hmanual : cs.names (manualKey m) = false := by rw [h.names_eq]; cases m <;> decide
  have htext : cs.names (manualTextKey m) = false := by rw [h.names_eq]; cases m <;> decide
  have hurl : cs.value? (urlKey m) = some (.text url) :=
    h.value?_eq (by simp [Changes.fetchedValues])
  have hraw : cs.value? (fetchedTextKey m) = some (.text l.raw) :=
    h.value?_eq (by simp [Changes.fetchedValues])
  have hrules : cs.value? (fetchedKey m) = some (.texts l.rules) :=
    h.value?_eq (by simp [Changes.fetchedValues])
  have hread (text : String) : Json.optional Json.text? (.text text) = some (some text) := rfl
  simp only [RuleSource.folded, Changes.folded_of_not_names, hmanual, htext,
    Changes.folded_of_value? hurl (hread url), Changes.folded_of_value? hraw (hread l.raw),
    Changes.folded_of_value? hrules (Settings.texts?_texts l.rules)]

/-- Folding the changes in is storing the list. -/
theorem Settings.folded_of_isFetched (s : Settings) : s.folded cs = s.setUrlRules m url l := by
  obtain ⟨henabled, hproxy, hmode⟩ := h.not_names
  refine ext_source ?_ ?_ ?_ ?_
  · exact (Changes.folded_of_not_names henabled ..).trans (by cases m <;> rfl)
  · exact (Changes.folded_of_not_names hproxy ..).trans (by cases m <;> rfl)
  · exact (Changes.folded_of_not_names hmode ..).trans (by cases m <;> rfl)
  · intro mode
    rw [source_folded]
    by_cases hm : mode = m
    · subst hm
      rw [RuleSource.folded_of_isFetched h, setUrlRules, source_withSource]
    · -- the two modes share no key
      have hother : ∀ key ∈ sourceKeys mode, cs.names key = false := by
        simp only [h.names_eq]
        revert hm
        cases m <;> cases mode <;> decide
      rw [RuleSource.folded_of_not_names hother, source_setUrlRules_of_ne hm]

/-! ### The service -/

namespace Service

/-- The changes call for the rules of the list if its mode is live, and for nothing otherwise. -/
theorem updateOf_of_isFetched (settings : Settings) (live : Mode) :
    updateOf settings live cs
      = if live = m then { Config.Update.empty with rules := some (settings.rulesFor m) }
        else .empty := by
  obtain ⟨henabled, hproxy, hmode⟩ := h.not_names
  have hrules : changesRules cs live = decide (live = m) := by
    rw [changesRules, h.names_eq, h.names_eq]
    cases m <;> cases live <;> decide
  simp only [updateOf, henabled, hproxy, hmode, hrules, Bool.false_or, Bool.false_eq_true, if_false,
    decide_eq_true_eq]
  by_cases hm : live = m
  · subst hm
    simp [Config.Update.empty]
  · simp [hm, Config.Update.empty]

/-- **Both ways leave the same service**: whatever its state, being told that the three keys of a
fetched list are set ends in the settings, the live snapshot and the queue that storing the list
directly ends in, and reports the same; in particular it is never refused. -/
theorem onChanges_of_isFetched (s : Service) :
    s.onChanges cs = ((s.setUrlRules m url l).1, some (s.setUrlRules m url l).2) := by
  have hfold : s.settings.withChanges? cs = some (s.settings.setUrlRules m url l) := by
    rw [Settings.withChanges?_eq, h.areAccepted, if_pos rfl, Settings.folded_of_isFetched h]
  rw [onChanges, hfold]
  by_cases hm : s.config.mode = m
  · simp [updateOf_of_isFetched h, setUrlRules, hm]
  · simp [updateOf_of_isFetched h, setUrlRules, hm]

end Service

end Fetched

/-- A message has put the service into another mode than its settings, a list of that mode is
fetched, and the three keys come in another order, one of them with an old value. -/
theorem Service.onChanges_of_isFetched_blacklist :
    let s := (start Proxy.standard Settings.standard).run
      [.update { Config.Update.empty with mode := some .blacklist }]
    let l := RuleList.parse "# list\n*.cn\n"
    let cs := Changes.ofList [("blacklistUrlRulesParsed", .set (.texts ["*.cn"])),
      ("blacklistUrlRules", ⟨some (.text ""), some (.text "# list\n*.cn\n")⟩),
      ("blacklistRulesUrl", .set (.text "https://lists.lan/b.txt"))]
    cs.IsFetched .blacklist "https://lists.lan/b.txt" l ∧
      s.onChanges cs = ((s.setUrlRules .blacklist "https://lists.lan/b.txt" l).1,
        some (s.setUrlRules .blacklist "https://lists.lan/b.txt" l).2) := by
  intro s l cs
  have hrules : l.rules = ["*.cn"] := by decide +kernel
  have hfetched : cs.IsFetched .blacklist "https://lists.lan/b.txt" l := by
    have hentries : (cs.entries.map fun e => (e.1, e.2.new))
        = (Changes.fetchedValues .blacklist "https://lists.lan/b.txt" l).reverse := by
      rw [Changes.fetchedValues, hrules]
      rfl
    rw [Changes.IsFetched, hentries]
    exact List.reverse_perm _
  exact ⟨hfetched, onChanges_of_isFetched hfetched s⟩

end HostRouting
