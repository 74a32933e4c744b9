/-
**Changes may come in parts.**

The store may tell the service of several changed keys at once, or of one after the other, in any
order.  On the way the service may take the rules of a mode that is about to be left, or pass over a
list that is about to become the one that counts; in the end this makes no difference, neither to
the settings nor to the live snapshot.  Nothing is assumed of the state it starts from: its mode and
rules may come from messages and differ from those of the settings.

Main definitions:

* `Service.deliver` — the service after several changes, one after the other.

Main results:

* `Service.merge_updateOf_twice` — two parts one after the other give the configuration that both
  together give;
* `Service.deliver_parts` — **any parts in any order** give settings and snapshot of the whole.
-/

import HostRouting.Proofs.Service.Mirror

set_option autoImplicit false

namespace HostRouting.Service

/-- The service after several changes, one after the other. -/
def deliver (s : Service) (parts : List Changes) : Service :=
  parts.foldl (fun s cs => (s.onChanges cs).1) s

@[simp] theorem fallback_onChanges (s : Service) (cs : Changes) :
    (s.onChanges cs).1.live.fallback = s.live.fallback :=
  fallback_perform s (.notice (.changes cs))

theorem fallback_deliver (parts : List Changes) : ∀ s : Service,
    (s.deliver parts).live.fallback = s.live.fallback := by
  induction parts with
  | nil => intro s; rfl
  | cons p ps ih => intro s; exact (ih _).trans (fallback_onChanges s p)

/-! ### Two parts -/

section Two

variable {cs a b : Changes} (h : cs.IsSplit [a, b])

include h

theorem changesRules_eq (m : Mode) :
    changesRules cs m = (changesRules a m || changesRules b m) := by
  simp only [changesRules, h.names_eq]
  ac_rfl

/-- A field that is written only if its key changes is written by the last part that names it, and
that part knows its final value. -/
theorem written_twice {α : Type} {key : String} {first last old : α}
    (hlast : b.names key = false → first = last) :
    (if b.names key then last else if a.names key then first else old)
      = if cs.names key then last else old := by
  rw [h.names_eq]
  cases hb : b.names key with
  | true => simp
  | false => simp [hlast hb]

/-- The rules that two parts one after the other leave, when the first one comes in mode `m₁` and
the last one in mode `m`.  If the last part does not concern the rules, they have not changed since
the first part took them, and neither has the mode. -/
theorem rules_twice (settings : Settings) (old : List String) {m₁ m : Mode}
    (hm : b.names "mode" = false → m₁ = m) :
    (if b.names "mode" || changesRules b m then (settings.folded cs).rulesFor m
      else if a.names "mode" || changesRules a m₁ then (settings.folded a).rulesFor m₁ else old)
      = if cs.names "mode" || changesRules cs m then (settings.folded cs).rulesFor m else old := by
  have hcond : (cs.names "mode" || changesRules cs m)
      = ((a.names "mode" || changesRules a m) || (b.names "mode" || changesRules b m)) := by
    rw [h.names_eq, changesRules_eq h]
    ac_rfl
  rw [hcond]
  cases hb : b.names "mode" || changesRules b m with
  | true => simp
  | false =>
      obtain ⟨hbm, hbr⟩ := Bool.or_eq_false_iff.1 hb
      obtain rfl := hm hbm
      have hr : (settings.folded a).rulesFor m₁ = (settings.folded cs).rulesFor m₁ := by
        rw [← settings.folded_folded h]
        exact (Settings.rulesFor_folded hbr (settings.folded a)).symm
      simp [hr]

/-- Two parts one after the other give the configuration that both together give. -/
theorem merge_updateOf_twice (settings : Settings) (c : Config) :
    let first := c.merge (updateOf (settings.folded a) c.mode a)
    first.merge (updateOf (settings.folded cs) first.mode b)
      = c.merge (updateOf (settings.folded cs) c.mode cs) := by
  intro first
  have hfold := settings.folded_folded h
  have hmode : (if b.names "mode" then (settings.folded cs).mode
      else if a.names "mode" then (settings.folded a).mode else c.mode)
        = if cs.names "mode" then (settings.folded cs).mode else c.mode :=
    written_twice h fun hb => hfold ▸ (Settings.mode_folded hb (settings.folded a)).symm
  -- the mode between the parts is the final one unless the last part sets it
  have hlast (hb : b.names "mode" = false) :
      (if a.names "mode" then (settings.folded a).mode else c.mode)
        = if cs.names "mode" then (settings.folded cs).mode else c.mode := by
    simpa [hb] using hmode
  have hfirst : first = _ := merge_updateOf (settings.folded a) a c
  rw [merge_updateOf, merge_updateOf, hfirst]
  simp only [hmode, Config.mk.injEq, true_and]
  refine ⟨?_, ?_, rules_twice h settings c.rules hlast⟩
  · exact written_twice h fun hb =>
      hfold ▸ (Settings.proxyEnabled_folded hb (settings.folded a)).symm
  · exact written_twice h fun hb =>
      hfold ▸ (Settings.effectiveUrl_folded hb (settings.folded a)).symm

end Two

/-! ### Any parts in any order -/

theorem deliver_cons (s : Service) (p : Changes) (ps : List Changes) :
    s.deliver (p :: ps) = (s.onChanges p).1.deliver ps := rfl

/-- Changes without any key leave settings and configuration as they are. -/
theorem onChanges_of_isSplit_nil {cs : Changes} (h : cs.IsSplit []) (s : Service) :
    s.settings.folded cs = s.settings ∧
      s.config.merge (updateOf (s.settings.folded cs) s.config.mode cs) = s.config := by
  have hnone (key : String) : cs.change? key = none := by
    have he : cs.entries = [] := List.Perm.eq_nil h
    rw [Changes.change?, he]
    rfl
  have hn (key : String) : cs.names key = false := by rw [Changes.names_eq, hnone]; rfl
  have hf : s.settings.folded cs = s.settings := by
    simp only [Settings.folded, RuleSource.folded, Changes.folded_of_not_names (hn _)]
  refine ⟨hf, ?_⟩
  rw [merge_updateOf]
  simp [changesRules, hn]

theorem settings_and_config_deliver (parts : List Changes) : ∀ (cs : Changes) (s : Service),
    cs.IsSplit parts → cs.areAccepted = true →
      (s.deliver parts).settings = (s.onChanges cs).1.settings ∧
        (s.deliver parts).config = (s.onChanges cs).1.config := by
  -- the first part is put together with the rest of the keys, which by induction behave as one
  induction parts with
  | nil =>
      intro cs s h ha
      obtain ⟨hs, hc⟩ := onChanges_of_isSplit_nil h s
      rw [settings_onChanges ha, config_onChanges ha, hs]
      exact ⟨rfl, (hs ▸ hc).symm⟩
  | cons p ps ih =>
      intro cs s h ha
      obtain ⟨rest, hrest, htwo⟩ := h.exists_rest
      have hp : p.areAccepted = true ∧ rest.areAccepted = true := by
        have he := htwo.areAccepted_eq
        simpa [ha] using he.symm
      obtain ⟨hs, hc⟩ := ih rest (s.onChanges p).1 hrest hp.2
      rw [settings_onChanges hp.2, settings_onChanges hp.1] at hs
      rw [config_onChanges hp.2, config_onChanges hp.1, settings_onChanges hp.1,
        Settings.folded_folded htwo] at hc
      rw [deliver_cons, settings_onChanges ha, config_onChanges ha]
      refine ⟨hs.trans (Settings.folded_folded htwo s.settings), hc.trans ?_⟩
      exact merge_updateOf_twice htwo s.settings s.config

/-- **Changes may come in parts**: in whatever state the service is, and however accepted changes
are split into parts, telling it of these parts in any order leaves the settings and the live
snapshot, and with it every decision and the setting for the system, that telling it of all at once
leaves. -/
theorem deliver_parts (s : Service) (cs : Changes) (parts : List Changes)
    (hsplit : cs.IsSplit parts) (haccepted : cs.areAccepted = true) :
    (s.deliver parts).settings = (s.onChanges cs).1.settings ∧
      (s.deliver parts).live = (s.onChanges cs).1.live := by
  obtain ⟨hs, hc⟩ := settings_and_config_deliver parts cs s hsplit haccepted
  refine ⟨hs, Snapshot.ext_config ?_ hc⟩
  rw [fallback_deliver, fallback_onChanges]

/-- A message has put the service into another mode than its settings; then rules of both modes and
the mode itself change, in two parts and in the wrong order. -/
theorem deliver_parts_rules_before_mode :
    let s := (start Proxy.standard Settings.standard).run
      [.update { Config.Update.empty with mode := some .blacklist }]
    let rules := Changes.ofList [("blacklistRules", .set (.texts ["*.cn"])),
      ("whitelistRules", .set (.texts ["a.com"]))]
    let mode := Changes.ofList [("mode", .set .null)]
    let cs := Changes.ofList [("mode", .set .null), ("whitelistRules", .set (.texts ["a.com"])),
      ("blacklistRules", .set (.texts ["*.cn"]))]
    cs.IsSplit [rules, mode] ∧ cs.areAccepted = true ∧
      (s.deliver [rules, mode]).settings = (s.onChanges cs).1.settings ∧
      (s.deliver [rules, mode]).live = (s.onChanges cs).1.live := by
  intro s rules mode cs
  have hsplit : cs.IsSplit [rules, mode] := by
    exact (List.reverse_perm _).symm
  have haccepted : cs.areAccepted = true := by decide
  exact ⟨hsplit, haccepted, deliver_parts s cs [rules, mode] hsplit haccepted⟩

end HostRouting.Service
