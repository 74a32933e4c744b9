/-
**Updates one after the other.**

Of two updates that follow each other the second one counts where it carries a field, and the first
one elsewhere.  So they come to a single update, and a sequence of them does as well; what a field
holds at the end was carried last.  The proxy URL is the exception that all of this has to respect: a
blank one is carried but counts for nothing, so updates that differ may have the same effect, and an
update may have none without being empty.

Main definitions:

* `Config.Update.andThen` — two updates in one;
* `Config.Update.ActsLike` — two updates that have the same effect on every configuration;
* `Config.reports` — whether the updates of a sequence change anything, one by one.

Main results:

* `Config.merge_andThen`, `Config.merge_foldl_andThen` — merging updates in one is merging them one
  after the other;
* `Config.Update.actsLike_iff` — the effect of an update is what it carries, blank URLs apart;
* `Config.field_foldl_merge` — of a sequence of updates the last one that carries a field counts;
* `Config.foldl_merge_of_reports` — updates that report no change leave things as they are;
* `Config.merge_laws` — **the laws of partial updates**.
-/

import HostRouting.Routing.Config

set_option autoImplicit false

namespace HostRouting.Config

/-! ### Two updates in one -/

namespace Update

/-- An update and then another, in one: a field is the one that `v` carries, and otherwise the one of
`u`; a blank URL counts as not carried. -/
def andThen (u v : Update) : Update where
  proxyEnabled := v.proxyEnabled.or u.proxyEnabled
  proxyUrl := v.effectiveUrl.or u.proxyUrl
  mode := v.mode.or u.mode
  rules := v.rules.or u.rules

/-- Leaving blank URLs out twice is leaving them out once. -/
theorem filter_effectiveUrl (u : Update) :
    u.effectiveUrl.filter (!Text.isBlankText ·) = u.effectiveUrl := by
  rw [effectiveUrl, Option.filter_filter]
  simp only [Bool.and_self]

@[simp] theorem effectiveUrl_andThen (u v : Update) :
    (u.andThen v).effectiveUrl = v.effectiveUrl.or u.effectiveUrl := by
  have hkept := v.filter_effectiveUrl
  rw [effectiveUrl, andThen]
  cases hurl : v.effectiveUrl with
  | none => rfl
  | some url =>
      rw [hurl] at hkept
      exact hkept

/-- Updates are put together in any grouping. -/
theorem andThen_assoc (u v w : Update) :
    (u.andThen v).andThen w = u.andThen (v.andThen w) := by
  have hurl : w.effectiveUrl.or (v.effectiveUrl.or u.proxyUrl)
      = (v.andThen w).effectiveUrl.or u.proxyUrl := by
    rw [effectiveUrl_andThen, Option.or_assoc]
  simp only [andThen, Option.or_assoc, mk.injEq, true_and, and_true]
  exact hurl

@[simp] theorem andThen_empty (u : Update) : u.andThen .empty = u := rfl

end Update

theorem getD_or {α : Type} (a b : Option α) (c : α) : (a.or b).getD c = a.getD (b.getD c) := by
  cases a <;> rfl

/-- **Merging two updates in one is merging the one and then the other.** -/
theorem merge_andThen (c : Config) (u v : Update) :
    c.merge (u.andThen v) = (c.merge u).merge v := by
  simp only [merge, Update.effectiveUrl_andThen, getD_or]
  simp only [Update.andThen, getD_or]

/-- A sequence of updates comes to a single one. -/
theorem merge_foldl_andThen (us : List Update) : ∀ (c : Config) (u : Update),
    c.merge (us.foldl Update.andThen u) = us.foldl merge (c.merge u) := by
  induction us with
  | nil => intro c u; rfl
  | cons v us ih =>
      intro c u
      rw [List.foldl_cons, List.foldl_cons, ih, merge_andThen]

/-! ### The effect of an update -/

/-- Two updates that have the same effect on every configuration. -/
def Update.ActsLike (u v : Update) : Prop := ∀ c : Config, c.merge u = c.merge v

/-- What is carried shows in what comes of two different values. -/
theorem eq_of_getD_eq {α : Type} {a b : Option α} {x y : α} (hne : x ≠ y)
    (hx : a.getD x = b.getD x) (hy : a.getD y = b.getD y) : a = b := by
  cases a with
  | none =>
      cases b with
      | none => rfl
      | some z => exact absurd (hx.trans hy.symm) hne
  | some z =>
      cases b with
      | none => exact absurd (hx.symm.trans hy) hne
      | some w => exact congrArg some hx

/-- **The effect of an update is what it carries**, blank URLs apart. -/
theorem Update.actsLike_iff {u v : Update} :
    u.ActsLike v ↔ u.proxyEnabled = v.proxyEnabled ∧ u.effectiveUrl = v.effectiveUrl ∧
      u.mode = v.mode ∧ u.rules = v.rules := by
  constructor
  · intro h
    -- two configurations that have no field in common tell all fields apart
    have hone := h standard
    have hother := h ⟨false, "", .blacklist, [""]⟩
    simp only [merge, Config.mk.injEq] at hone hother
    obtain ⟨henabled, hurl, hmode, hrules⟩ := hone
    obtain ⟨henabled', hurl', hmode', hrules'⟩ := hother
    exact ⟨eq_of_getD_eq (by decide) henabled henabled', eq_of_getD_eq (by decide) hurl hurl',
      eq_of_getD_eq (by decide) hmode hmode', eq_of_getD_eq (by decide) hrules hrules'⟩
  · rintro ⟨henabled, hurl, hmode, hrules⟩ c
    rw [merge, merge, henabled, hurl, hmode, hrules]

/-- Merging an update a second time changes nothing. -/
theorem merge_merge_self (c : Config) (u : Update) : (c.merge u).merge u = c.merge u := by
  have htwice : (u.andThen u).ActsLike u := by
    rw [Update.actsLike_iff, Update.effectiveUrl_andThen]
    simp only [Update.andThen, Option.or_self, and_self]
  rw [← merge_andThen, htwice c]

theorem isChangedBy_iff (c : Config) (u : Update) : c.isChangedBy u = true ↔ c.merge u ≠ c :=
  bne_iff_ne

/-! ### Sequences of updates -/

/-- A field that every update leaves as it carries it, or as it was, is left by a sequence as it was
carried last. -/
theorem field_foldl_merge {α : Type} (field : Config → α) {carried : Update → Option α}
    (hstep : ∀ c u, field (c.merge u) = (carried u).getD (field c)) (us : List Update) :
    ∀ c : Config, field (us.foldl merge c) = (us.filterMap carried).getLastD (field c) := by
  induction us with
  | nil => intro c; rfl
  | cons u us ih =>
      intro c
      rw [List.foldl_cons, ih, hstep, List.filterMap_cons]
      cases carried u with
      | none => rfl
      | some a => rw [List.getLastD_cons, Option.getD_some]

/-- **Of a sequence of updates the last one that carries a field counts.** -/
theorem foldl_merge (c : Config) (us : List Update) :
    us.foldl merge c =
      { proxyEnabled := (us.filterMap Update.proxyEnabled).getLastD c.proxyEnabled
        proxyUrl := (us.filterMap Update.effectiveUrl).getLastD c.proxyUrl
        mode := (us.filterMap Update.mode).getLastD c.mode
        rules := (us.filterMap Update.rules).getLastD c.rules } := by
  rw [← field_foldl_merge Config.proxyEnabled (fun _ _ => rfl),
    ← field_foldl_merge Config.proxyUrl (fun _ _ => rfl),
    ← field_foldl_merge Config.mode (fun _ _ => rfl),
    ← field_foldl_merge Config.rules (fun _ _ => rfl)]

/-- Whether the updates of a sequence, merged one after the other, change the configuration that they
find. -/
def reports (c : Config) : List Update → List Bool
  | [] => []
  | u :: us => c.isChangedBy u :: (c.merge u).reports us

/-- Updates none of which reports a change leave the configuration as it is. -/
theorem foldl_merge_of_reports (us : List Update) : ∀ c : Config, true ∉ c.reports us →
    us.foldl merge c = c := by
  induction us with
  | nil => intro c _; rfl
  | cons u us ih =>
      intro c h
      rw [reports, List.mem_cons, not_or] at h
      have hsame : c.merge u = c :=
        Decidable.byContradiction fun hne => h.1 ((c.isChangedBy_iff u).2 hne).symm
      rw [hsame] at h
      rw [List.foldl_cons, hsame, ih c h.2]

/-- **The laws of partial updates.**  Merging one update and then another is merging the two in one,
and a sequence of updates comes to a single one; updates are put together in any grouping, and the
empty one makes no difference to the effect.  So after any sequence each field is as the last update
that carries it has it, where a blank URL counts as not carried.  An update reports a change exactly
if the configuration is another one afterwards, it reports none the second time in a row, and a
sequence that reports none has left the configuration as it was. -/
theorem merge_laws (c : Config) (u v w : Update) (us : List Update) :
    c.merge (u.andThen v) = (c.merge u).merge v ∧
    c.merge (us.foldl Update.andThen .empty) = us.foldl merge c ∧
    (u.andThen v).andThen w = u.andThen (v.andThen w) ∧
    (u.andThen .empty).ActsLike u ∧ (Update.empty.andThen u).ActsLike u ∧
    us.foldl merge c =
      { proxyEnabled := (us.filterMap Update.proxyEnabled).getLastD c.proxyEnabled
        proxyUrl := (us.filterMap Update.effectiveUrl).getLastD c.proxyUrl
        mode := (us.filterMap Update.mode).getLastD c.mode
        rules := (us.filterMap Update.rules).getLastD c.rules } ∧
    (c.isChangedBy u = true ↔ c.merge u ≠ c) ∧
    (c.merge u).isChangedBy u = false ∧
    (true ∉ c.reports us → us.foldl merge c = c) := by
  have hagain : (c.merge u).isChangedBy u = false := by
    rw [isChangedBy, merge_merge_self, bne_self_eq_false]
  have hfront : (Update.empty.andThen u).ActsLike u := by
    intro d
    rw [merge_andThen, merge_empty]
  have hback : (u.andThen .empty).ActsLike u := by
    intro d
    rw [Update.andThen_empty]
  refine ⟨c.merge_andThen u v, ?_, u.andThen_assoc v w, hback, hfront, c.foldl_merge us,
    c.isChangedBy_iff u, hagain, foldl_merge_of_reports us c⟩
  rw [merge_foldl_andThen, merge_empty]

/-- A blank URL, a repetition of what is there already with a blank URL beside it, and the empty
update: the first two are not empty, and none reports a change. -/
theorem merge_laws_blank_urls :
    let c : Config := ⟨true, "http://10.0.0.1:3128", .blacklist, ["*.cn"]⟩
    let us : List Update :=
      [⟨none, some " \t", none, none⟩, ⟨some true, some "", some .blacklist, none⟩, .empty]
    us.map Update.isEmpty = [false, false, true] ∧ true ∉ c.reports us ∧
      us.foldl merge c = c := by
  intro c us
  have hreports : true ∉ c.reports us := by decide
  obtain ⟨-, -, -, -, -, -, -, -, hkept⟩ := c.merge_laws .empty .empty .empty us
  exact ⟨by decide, hreports, hkept hreports⟩

end HostRouting.Config
