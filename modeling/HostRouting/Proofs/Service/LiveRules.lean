/-
**Whose rules the live rules are.**

The rules of the live configuration are meant to be those of its mode.  Changes of the settings see
to that: whenever they set the mode or touch a list of the live mode, the rules are taken anew.  An
update that carries a mode does not: it sets the mode and leaves the rules of the mode before under
it, whatever is kept for the new one.  So the live rules belong to the live mode exactly as long as
no update has set another mode, or since rules were taken again after that.

Main definitions:

* `Service.HasRulesOfMode` — the live rules are those kept for the live mode;
* `Service.tied` — what an operation does to this.

Main results:

* `Service.hasRulesOfMode_perform` — what one operation keeps or restores;
* `Service.hasRulesOfMode_run` — **the live rules belong to the live mode** unless an update has set
  another mode since they were taken;
* `Service.not_hasRulesOfMode_after_message` — a message that only sets the mode leaves the rules of
  the other mode live.
-/

import HostRouting.Proofs.Service.LastWrite
import HostRouting.Proofs.Service.Mirror

set_option autoImplicit false

namespace HostRouting

/-- Whether an operation carries rules of its own. -/
def Operation.carriesRules : Operation → Bool
  | .update u | .message (.update u) => u.rules.isSome
  | .notice _ => false

namespace Service

/-- The live rules are those that the settings keep for the live mode. -/
def HasRulesOfMode (s : Service) : Prop := s.config.rules = s.settings.rulesFor s.config.mode

instance (s : Service) : Decidable s.HasRulesOfMode :=
  inferInstanceAs (Decidable (s.config.rules = s.settings.rulesFor s.config.mode))

/-- What an operation does to the tie between the live rules and the live mode: an update that sets
another mode cuts it, a notice by which the rules are taken from the settings ties it again, and
anything else leaves it as it was. -/
def tied (s : Service) : Operation → Option Bool
  | .update u | .message (.update u) =>
      if u.mode.getD s.config.mode = s.config.mode then none else some false
  | .notice n => (s.rulesWritten (.notice n)).map fun _ => true

/-! ### One operation -/

/-- An update without rules leaves the rules alone, so that they have to suit the mode it sets. -/
theorem hasRulesOfMode_apply {u : Config.Update} (h : u.rules = none) (s : Service) :
    (s.apply u).1.HasRulesOfMode ↔
      s.config.rules = s.settings.rulesFor (u.mode.getD s.config.mode) := by
  rw [HasRulesOfMode, config_apply, settings_apply]
  simp only [Config.merge, h, Option.getD_none]

/-- An update that sets no other mode is neutral. -/
theorem tied_update_of_ne {s : Service} {u : Config.Update} (h : s.tied (.update u) ≠ some false) :
    s.tied (.update u) = none ∧ u.mode.getD s.config.mode = s.config.mode := by
  rw [tied] at h ⊢
  split at h
  · next hmode => exact ⟨if_pos hmode, hmode⟩
  · exact absurd rfl h

theorem cleaned_of_rules_eq_none {u : Config.Update} (h : u.rules = none) : cleaned u = u := by
  rw [cleaned, h]
  cases u
  subst h
  rfl

/-- A notice by which rules are taken takes those of the mode that it leaves live. -/
theorem hasRulesOfMode_of_taken {s : Service} {n : Notice} {rules : List String}
    (h : s.rulesWritten (.notice n) = some rules) : (s.perform (.notice n)).HasRulesOfMode := by
  have hrules : (s.perform (.notice n)).config.rules = rules := by rw [rules_perform, h]; rfl
  rw [HasRulesOfMode, hrules]
  cases n with
  | changes cs =>
      simp only [rulesWritten, Option.ite_none_right_eq_some, Option.some.injEq] at h
      exact h.2.symm
  | fetched m url l =>
      simp only [rulesWritten, Option.ite_none_right_eq_some, Option.some.injEq] at h
      obtain ⟨rfl, rfl⟩ := h
      rw [mode_perform]
      rfl

/-- A notice by which no rules are taken concerns neither the live mode nor its lists. -/
theorem hasRulesOfMode_of_not_taken {s : Service} {n : Notice} (hs : s.HasRulesOfMode)
    (h : s.rulesWritten (.notice n) = none) : (s.perform (.notice n)).HasRulesOfMode := by
  have hrules : (s.perform (.notice n)).config.rules = s.config.rules := by
    rw [rules_perform, h]
    rfl
  rw [HasRulesOfMode, hrules, hs]
  cases n with
  | changes cs =>
      cases ha : cs.areAccepted with
      | false => rw [perform, receive, onChanges_of_refused ha]
      | true =>
          have htakes : s.takes cs = true := (isSome_onChanges s cs).trans ha
          have hkeys : (cs.names "mode" || changesRules cs (s.onChanges cs).1.config.mode)
              = false := by
            simpa [rulesWritten, htakes, changesRules, ← Bool.or_assoc] using h
          obtain ⟨hmode, hlists⟩ := Bool.or_eq_false_iff.1 hkeys
          have hlive : (s.onChanges cs).1.config.mode = s.config.mode := by
            refine (s.mode_perform (.notice (.changes cs))).trans ?_
            simp [modeWritten, hmode]
          rw [hlive] at hlists
          change _ = (s.onChanges cs).1.settings.rulesFor (s.onChanges cs).1.config.mode
          rw [hlive, settings_onChanges ha, Settings.rulesFor_folded hlists]
  | fetched m url l =>
      have hne : s.config.mode ≠ m := by
        intro hm
        simp [rulesWritten, hm] at h
      rw [mode_perform, settings_perform]
      exact (Settings.rulesFor_setUrlRules_of_ne hne url l).symm

/-- What an update without rules does, be it applied directly or sent in a message. -/
theorem hasRulesOfMode_apply_of_tied {s : Service} {u : Config.Update} (hown : u.rules = none)
    (hs : s.tied (.update u) = none → s.HasRulesOfMode) (hcut : s.tied (.update u) ≠ some false) :
    (s.apply u).1.HasRulesOfMode := by
  obtain ⟨hneutral, hmode⟩ := tied_update_of_ne hcut
  rw [hasRulesOfMode_apply hown, hmode]
  exact hs hneutral

/-- What one operation without rules of its own does: unless it cuts rules and mode apart, it ties
them or leaves them as they were. -/
theorem hasRulesOfMode_perform {s : Service} {o : Operation} (hown : o.carriesRules = false)
    (hs : s.tied o = none → s.HasRulesOfMode) (hcut : s.tied o ≠ some false) :
    (s.perform o).HasRulesOfMode := by
  cases o with
  | update u =>
      have hu : u.rules = none := by simpa [Operation.carriesRules] using hown
      exact hasRulesOfMode_apply_of_tied hu hs hcut
  | message m =>
      cases m with
      | update u =>
          have hu : u.rules = none := by simpa [Operation.carriesRules] using hown
          rw [perform, handle, cleaned_of_rules_eq_none hu]
          exact hasRulesOfMode_apply_of_tied hu hs hcut
  | notice n =>
      cases h : s.rulesWritten (.notice n) with
      | none => exact hasRulesOfMode_of_not_taken (hs (by rw [tied, h]; rfl)) h
      | some rules => exact hasRulesOfMode_of_taken h

/-! ### Runs -/

theorem hasRulesOfMode_run_of_tied (os : List Operation) : ∀ {s : Service} {isTied : Bool},
    (∀ o ∈ os, o.carriesRules = false) → (isTied = true → s.HasRulesOfMode) →
      (s.writes tied os).getLastD isTied = true → (s.run os).HasRulesOfMode := by
  induction os with
  | nil => intro s isTied _ hs htied; exact hs htied
  | cons o os ih =>
      intro s isTied hown hs htied
      rw [List.forall_mem_cons] at hown
      rw [writes_cons, getLastD_toList_append] at htied
      refine ih hown.2 ?_ htied
      intro hnow
      refine hasRulesOfMode_perform hown.1 ?_ ?_
      · intro hnone
        rw [hnone] at hnow
        exact hs hnow
      · intro hcut
        rw [hcut] at hnow
        exact absurd hnow Bool.false_ne_true

/-- **The live rules belong to the live mode** after any run in which no update carries rules,
unless an update has set another mode and nothing has made the service take rules since. -/
theorem hasRulesOfMode_run (fallback : Proxy) (settings : Settings) (os : List Operation)
    (hown : ∀ o ∈ os, o.carriesRules = false)
    (htied : ((start fallback settings).writes tied os).getLastD true = true) :
    ((start fallback settings).run os).HasRulesOfMode :=
  hasRulesOfMode_run_of_tied os hown (fun _ => rfl) htied

/-- Settings with rules for both modes. -/
def bothLists : Settings :=
  { Settings.standard with
    whitelist := { RuleSource.empty with manual := ["a.com"] }
    blacklist := { RuleSource.empty with manual := ["*.cn"] } }

/-- A message sets the other mode, and then a list of that mode changes. -/
theorem hasRulesOfMode_run_after_list :
    let os : List Operation :=
      [.message (.update { Config.Update.empty with mode := some .blacklist }),
        .notice (.changes (Changes.ofList [("blacklistRules", .set (.texts ["*.org"]))]))]
    (∀ o ∈ os, o.carriesRules = false) ∧
      ((start Proxy.standard bothLists).writes tied os).getLastD true = true ∧
      ((start Proxy.standard bothLists).run os).HasRulesOfMode := by
  intro os
  have hown : ∀ o ∈ os, o.carriesRules = false := by
    simp only [os, List.forall_mem_cons, List.not_mem_nil, false_implies, implies_true, and_true]
    exact ⟨rfl, rfl⟩
  have htied : ((start Proxy.standard bothLists).writes tied os).getLastD true = true := by
    decide +kernel
  exact ⟨hown, htied, hasRulesOfMode_run _ _ os hown htied⟩

/-- The live rules do not always belong to the live mode, even if no update carries rules: a message
that only sets the mode leaves the rules of the other mode live. -/
theorem not_hasRulesOfMode_after_message :
    ¬ ∀ (fallback : Proxy) (settings : Settings) (os : List Operation),
      (∀ o ∈ os, o.carriesRules = false) → ((start fallback settings).run os).HasRulesOfMode := by
  intro h
  have hrun := h Proxy.standard bothLists
    [.message (.update { Config.Update.empty with mode := some .blacklist })]
    (List.forall_mem_singleton.2 rfl)
  revert hrun
  decide +kernel

end Service

end HostRouting
