/-
**The last write counts.**

Each field of the live configuration holds what was written to it last, whichever of the four kinds
of operation that was, and its initial value if nothing was.  What a single operation writes is said
here for each field by itself, in terms of the operation and of the settings and the mode that it
finds or leaves; that operations work by way of updates which are merged does not show.  The one
field that depends on another is the rules: changes of the settings write them if they concern the
mode that is live once these same changes have been taken in.

Main definitions:

* `Service.proxyEnabledWritten`, `Service.proxyUrlWritten`, `Service.modeWritten`,
  `Service.rulesWritten` — what a single operation writes to a field;
* `Service.writes` — what a run writes to a field.

Main results:

* `Service.config_perform_eq_written` — after an operation each field is as written or as before;
* `Service.field_run` — so after a run it is as written last;
* `Service.config_run_eq_last_written` — **the last write counts**, field by field.
-/

import HostRouting.Proofs.Service.Operation

set_option autoImplicit false

namespace HostRouting.Service

/-! ### What a single operation writes -/

/-- Whether changes of the settings succeed. -/
def takes (s : Service) (cs : Changes) : Bool := (s.onChanges cs).2.isSome

/-- Routing is switched by updates that carry the switch, and by changes of its key, which write
what is kept after them. -/
def proxyEnabledWritten (s : Service) : Operation → Option Bool
  | .update u | .message (.update u) => u.proxyEnabled
  | .notice (.changes cs) =>
      if s.takes cs && cs.names "proxyEnabled" then some (s.onChanges cs).1.settings.proxyEnabled
      else none
  | .notice (.fetched ..) => none

/-- The proxy URL that is kept after changes, or the default if it was removed or is blank. -/
def keptUrl (cs : Changes) (settings : Settings) : String :=
  if (cs.value? "proxyUrl").isNone || Text.isBlankText settings.proxyUrl then Proxy.defaultUrl
  else settings.proxyUrl

/-- The proxy URL is written by updates that carry one which is not blank, and by changes of its
key. -/
def proxyUrlWritten (s : Service) : Operation → Option String
  | .update u | .message (.update u) => u.proxyUrl.filter fun url => !Text.isBlankText url
  | .notice (.changes cs) =>
      if s.takes cs && cs.names "proxyUrl" then some (keptUrl cs (s.onChanges cs).1.settings)
      else none
  | .notice (.fetched ..) => none

/-- The mode is written by updates that carry one, and by changes of its key. -/
def modeWritten (s : Service) : Operation → Option Mode
  | .update u | .message (.update u) => u.mode
  | .notice (.changes cs) =>
      if s.takes cs && cs.names "mode" then some (s.onChanges cs).1.settings.mode else none
  | .notice (.fetched ..) => none

/-- The rules are written by updates that carry some, of which a message only gets through those
that are patterns; by changes that concern the mode, or a list of the mode that is live after them;
and by a list fetched for the live mode.  The latter two write the rules kept for that mode. -/
def rulesWritten (s : Service) : Operation → Option (List String)
  | .update u => u.rules
  | .message (.update u) => u.rules.map fun rules => rules.filter Pattern.isValid
  | .notice (.changes cs) =>
      let next := (s.onChanges cs).1
      let live := next.config.mode
      if s.takes cs && (cs.names "mode" || cs.names (RuleSource.manualKey live)
          || cs.names (RuleSource.fetchedKey live)) then
        some (next.settings.rulesFor live)
      else none
  | .notice (.fetched m url l) =>
      if s.config.mode = m then some ((s.setUrlRules m url l).1.settings.rulesFor m) else none

theorem getD_ite {α : Type} (c : Bool) (a b : α) :
    (if c then some a else none).getD b = if c then a else b := by cases c <;> rfl

/-- Changes of the proxy URL leave the one that is kept, or the default. -/
theorem effectiveUrl_onChanges {cs : Changes} (ha : cs.areAccepted = true)
    (h : cs.names "proxyUrl" = true) (s : Service) :
    (s.onChanges cs).1.settings.effectiveUrl = keptUrl cs (s.onChanges cs).1.settings := by
  rw [settings_onChanges ha, keptUrl]
  cases hv : cs.value? "proxyUrl" with
  | some j => rfl
  | none =>
      rw [Changes.names_eq, Option.isSome_iff_exists] at h
      obtain ⟨⟨prior, new⟩, hc⟩ := h
      have hnew : new = none := by simpa [Changes.value?, hc] using hv
      -- a key that is removed takes its default
      have hurl : (s.settings.folded cs).proxyUrl = Proxy.defaultUrl := by
        change cs.folded "proxyUrl" Json.text? Proxy.defaultUrl s.settings.proxyUrl = _
        rw [Changes.folded, hc, hnew]
      rw [Settings.effectiveUrl, hurl, Option.isNone_none, Bool.true_or, if_pos rfl]
      exact ite_self _

/-- Accepted changes write the fields whose keys they name, and the rules if they concern the mode
or a list of the mode that they leave live. -/
theorem config_onChanges_eq_kept {cs : Changes} (h : cs.areAccepted = true) (s : Service) :
    let next := (s.onChanges cs).1
    next.config =
      { proxyEnabled :=
          if cs.names "proxyEnabled" then next.settings.proxyEnabled else s.config.proxyEnabled
        proxyUrl := if cs.names "proxyUrl" then keptUrl cs next.settings else s.config.proxyUrl
        mode := if cs.names "mode" then next.settings.mode else s.config.mode
        rules :=
          if cs.names "mode" || changesRules cs next.config.mode then
            next.settings.rulesFor next.config.mode
          else s.config.rules } := by
  intro next
  have hsettings : next.settings = s.settings.folded cs := settings_onChanges h s
  have hconfig := (config_onChanges h s).trans (merge_updateOf (s.settings.folded cs) cs s.config)
  rw [← hsettings] at hconfig
  have hmode : next.config.mode = if cs.names "mode" then next.settings.mode else s.config.mode :=
    congrArg Config.mode hconfig
  have hurl : (if cs.names "proxyUrl" then next.settings.effectiveUrl else s.config.proxyUrl)
      = if cs.names "proxyUrl" then keptUrl cs next.settings else s.config.proxyUrl := by
    split
    · next hn => exact effectiveUrl_onChanges h hn s
    · rfl
  rw [hmode, ← hurl]
  exact hconfig

/-- After an operation each field of the configuration is as the operation wrote it, or as it was
if the operation did not write it. -/
theorem config_perform_eq_written (s : Service) (o : Operation) :
    (s.perform o).config =
      { proxyEnabled := (s.proxyEnabledWritten o).getD s.config.proxyEnabled
        proxyUrl := (s.proxyUrlWritten o).getD s.config.proxyUrl
        mode := (s.modeWritten o).getD s.config.mode
        rules := (s.rulesWritten o).getD s.config.rules } := by
  cases o with
  | update u => exact config_perform s (.update u)
  | message m =>
      cases m with
      | update u => exact config_perform s (.message (.update u))
  | notice n =>
      cases n with
      | changes cs =>
          change (s.onChanges cs).1.config = _
          cases ha : cs.areAccepted with
          | false =>
              have htakes : s.takes cs = false := (isSome_onChanges s cs).trans ha
              simp [onChanges_of_refused ha, proxyEnabledWritten, proxyUrlWritten, modeWritten,
                rulesWritten, htakes]
          | true =>
              have htakes : s.takes cs = true := (isSome_onChanges s cs).trans ha
              refine (config_onChanges_eq_kept ha s).trans ?_
              simp only [proxyEnabledWritten, proxyUrlWritten, modeWritten, rulesWritten, htakes,
                Bool.true_and, getD_ite, changesRules, Bool.or_assoc]
              rfl
      | fetched m url l =>
          refine (config_perform s (.notice (.fetched m url l))).trans ?_
          have hkept : (s.setUrlRules m url l).1.settings = s.settings.setUrlRules m url l :=
            settings_perform s (.notice (.fetched m url l))
          simp only [updateFor, noticeUpdate, rulesWritten, hkept]
          split <;> rfl

theorem proxyEnabled_perform (s : Service) (o : Operation) :
    (s.perform o).config.proxyEnabled = (s.proxyEnabledWritten o).getD s.config.proxyEnabled :=
  (congrArg Config.proxyEnabled (s.config_perform_eq_written o) :)

theorem proxyUrl_perform (s : Service) (o : Operation) :
    (s.perform o).config.proxyUrl = (s.proxyUrlWritten o).getD s.config.proxyUrl :=
  (congrArg Config.proxyUrl (s.config_perform_eq_written o) :)

theorem mode_perform (s : Service) (o : Operation) :
    (s.perform o).config.mode = (s.modeWritten o).getD s.config.mode :=
  (congrArg Config.mode (s.config_perform_eq_written o) :)

theorem rules_perform (s : Service) (o : Operation) :
    (s.perform o).config.rules = (s.rulesWritten o).getD s.config.rules :=
  (congrArg Config.rules (s.config_perform_eq_written o) :)

/-! ### What a run writes -/

section Runs

variable {α : Type}

/-- What a run writes to a field, the first value first; `written` says what a single operation
writes to it. -/
def writes (written : Service → Operation → Option α) : Service → List Operation → List α
  | _, [] => []
  | s, o :: os => (written s o).toList ++ writes written (s.perform o) os

@[simp] theorem writes_nil (written : Service → Operation → Option α) (s : Service) :
    s.writes written [] = [] := rfl

theorem writes_cons (written : Service → Operation → Option α) (s : Service) (o : Operation)
    (os : List Operation) :
    s.writes written (o :: os) = (written s o).toList ++ (s.perform o).writes written os := rfl

theorem getLastD_toList_append (a : Option α) (as : List α) (initial : α) :
    (a.toList ++ as).getLastD initial = as.getLastD (a.getD initial) := by
  cases a with
  | none => rfl
  | some a => cases as <;> rfl

/-- A field that every operation leaves as it wrote it, or as it was, is left by a run as written
last. -/
theorem field_run (field : Service → α) {written : Service → Operation → Option α}
    (hstep : ∀ s o, field (s.perform o) = (written s o).getD (field s)) (os : List Operation) :
    ∀ s : Service, field (s.run os) = (s.writes written os).getLastD (field s) := by
  induction os with
  | nil => intro s; rfl
  | cons o os ih =>
      intro s
      rw [run_cons, ih, writes_cons, getLastD_toList_append, hstep]

end Runs

/-- **The last write counts**: after any run of operations of all four kinds, each field of the live
configuration holds the last value that the run wrote to it, or, if it wrote none, the value that
the settings stood for when the service started. -/
theorem config_run_eq_last_written (fallback : Proxy) (settings : Settings)
    (os : List Operation) :
    let s := start fallback settings
    let initial := settings.toConfig
    (s.run os).config =
      { proxyEnabled := (s.writes proxyEnabledWritten os).getLastD initial.proxyEnabled
        proxyUrl := (s.writes proxyUrlWritten os).getLastD initial.proxyUrl
        mode := (s.writes modeWritten os).getLastD initial.mode
        rules := (s.writes rulesWritten os).getLastD initial.rules } := by
  intro s initial
  have henabled := field_run (fun s => s.config.proxyEnabled) proxyEnabled_perform os s
  have hurl := field_run (fun s => s.config.proxyUrl) proxyUrl_perform os s
  have hmode := field_run (fun s => s.config.mode) mode_perform os s
  have hrules := field_run (fun s => s.config.rules) rules_perform os s
  change Config.mk (s.run os).config.proxyEnabled (s.run os).config.proxyUrl
    (s.run os).config.mode (s.run os).config.rules = _
  rw [henabled, hurl, hmode, hrules]
  rfl

/-- A message that carries a blank URL, a mode and a text that is no rule, and then a list of the
mode that is not live any more. -/
example :
    let message : Config.Update := ⟨none, some " ", some .blacklist, some ["*.cn", "bad rule"]⟩
    let changes := Changes.ofList [("whitelistRules", .set (.texts ["a.com"]))]
    ((start Proxy.standard Settings.standard).run
      [.message (.update message), .notice (.changes changes)]).config
        = ⟨true, Proxy.defaultUrl, .blacklist, ["*.cn"]⟩ := by
  decide +kernel

end HostRouting.Service
