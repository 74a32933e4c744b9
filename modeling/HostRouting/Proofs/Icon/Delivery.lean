/-
**When an icon is delivered.**

A refresh of a tab waits for its time.  If a newer refresh of that tab or the end of the tab comes
first, it never takes place; otherwise it takes place at the first moment at which the clock has
reached its time, and the icon is that of its page at that moment.  Nothing else is ever delivered
to the tab, and what happens to other tabs makes no difference.

Main definitions:

* `Moment.IsFirstDue` — after which events the clock has just reached a time;
* `Moment.fate` — what becomes of a refresh that waits, from the events to come;
* `Moment.fates` — what becomes of all refreshes of a tab that events ask for.

Main results:

* `Moment.fate_eq_some_iff` — a refresh is delivered at the first moment at which it is due, unless
  something puts an end to it before;
* `Moment.fates_filter` — events of other tabs make no difference;
* `Toolbar.deliveredTo_run_of_isSettled` — what a run delivers to a tab, from any settled toolbar;
* `Toolbar.delivers_fates` — **what is delivered to a tab is what becomes of its refreshes**.
-/

import HostRouting.Proofs.Icon.Toolbar

set_option autoImplicit false

namespace HostRouting

open Toolbar (Event)

/-! ### The fate of a refresh -/

namespace Moment

/-- After these events, and not before the last of them, the clock has reached a time. -/
structure IsFirstDue (m : Moment) (due : Nat) (es : List Event) : Prop where
  reached : due ≤ (m.afterAll es).now
  not_before : ∀ earlier, earlier <+: es → earlier ≠ es → (m.afterAll earlier).now < due

/-- What becomes of a refresh of a tab that is due at a certain time, from a moment on and with
given events to come. -/
def fate (tab : Tab) (url : String) (due : Nat) (m : Moment) : List Event → Option Delivery
  | [] => if due ≤ m.now then some (m.delivery tab url) else none
  | e :: es =>
      if due ≤ m.now then some (m.delivery tab url)
      else if e.ends tab then none
      else fate tab url due (m.after e) es

/-- What becomes of all refreshes of a tab that events ask for, in the order in which they do. -/
def fates (window : Nat) (tab : Tab) (m : Moment) : List Event → List Delivery
  | [] => []
  | e :: es =>
      ((e.page? tab).bind fun url => fate tab url (m.now + window) m es).toList
        ++ fates window tab (m.after e) es

variable {tab : Tab} {url : String} {due : Nat} {m : Moment}

theorem isFirstDue_nil_iff : m.IsFirstDue due [] ↔ due ≤ m.now := by
  constructor
  · intro h
    exact h.reached
  · intro h
    refine ⟨h, ?_⟩
    intro earlier hprefix hne
    exact absurd (List.prefix_nil.1 hprefix) hne

theorem isFirstDue_cons_iff {e : Event} {es : List Event} :
    m.IsFirstDue due (e :: es) ↔ m.now < due ∧ (m.after e).IsFirstDue due es := by
  constructor
  · intro h
    refine ⟨h.not_before [] List.nil_prefix (by simp), h.reached, ?_⟩
    intro earlier hprefix hne
    exact h.not_before (e :: earlier) ((List.prefix_cons_inj e).2 hprefix) (by simpa using hne)
  · rintro ⟨hlt, h⟩
    refine ⟨h.reached, ?_⟩
    intro earlier hprefix hne
    obtain rfl | ⟨rest, rfl, hrest⟩ := List.prefix_cons_iff.1 hprefix
    · exact hlt
    · exact h.not_before rest hrest (by simpa using hne)

theorem fate_of_le (h : due ≤ m.now) (es : List Event) :
    fate tab url due m es = some (m.delivery tab url) := by
  cases es with
  | nil => exact if_pos h
  | cons e es => exact if_pos h

theorem fate_nil_of_lt (h : m.now < due) : fate tab url due m [] = none :=
  if_neg (Nat.not_le.2 h)

theorem fate_cons_of_lt (h : m.now < due) (e : Event) (es : List Event) :
    fate tab url due m (e :: es)
      = if e.ends tab then none else fate tab url due (m.after e) es :=
  if_neg (Nat.not_le.2 h)

/-- **A refresh is delivered at the first moment at which it is due**, unless a newer one or the end
of its tab comes before. -/
theorem fate_eq_some_iff (tab : Tab) (url : String) (due : Nat) (d : Delivery) (es : List Event) :
    ∀ m : Moment, fate tab url due m es = some d ↔
      ∃ before later, es = before ++ later ∧ (∀ e ∈ before, e.ends tab = false) ∧
        m.IsFirstDue due before ∧ d = (m.afterAll before).delivery tab url := by
  induction es with
  | nil =>
      intro m
      constructor
      · intro h
        by_cases hdue : due ≤ m.now
        · rw [fate_of_le hdue] at h
          refine ⟨[], [], rfl, ?_, isFirstDue_nil_iff.2 hdue, (Option.some.inj h).symm⟩
          intro e he
          cases he
        · rw [fate_nil_of_lt (Nat.not_le.1 hdue)] at h
          cases h
      · rintro ⟨before, later, hsplit, -, hfirst, rfl⟩
        obtain ⟨rfl, rfl⟩ := List.append_eq_nil_iff.1 hsplit.symm
        exact fate_of_le (isFirstDue_nil_iff.1 hfirst) []
  | cons e es ih =>
      intro m
      by_cases hdue : due ≤ m.now
      · rw [fate_of_le hdue]
        constructor
        · intro h
          refine ⟨[], e :: es, rfl, ?_, isFirstDue_nil_iff.2 hdue, (Option.some.inj h).symm⟩
          intro e he
          cases he
        · rintro ⟨before, later, -, -, hfirst, rfl⟩
          cases before with
          | nil => rfl
          | cons b before =>
              exact absurd hdue (Nat.not_le.2 (isFirstDue_cons_iff.1 hfirst).1)
      · have hlt : m.now < due := Nat.not_le.1 hdue
        rw [fate_cons_of_lt hlt]
        constructor
        · intro h
          split at h
          · cases h
          · next hends =>
              obtain ⟨before, later, rfl, hkeep, hfirst, rfl⟩ := (ih (m.after e)).1 h
              refine ⟨e :: before, later, rfl, ?_, isFirstDue_cons_iff.2 ⟨hlt, hfirst⟩, rfl⟩
              exact List.forall_mem_cons.2 ⟨Bool.not_eq_true _ ▸ hends, hkeep⟩
        · rintro ⟨before, later, hsplit, hkeep, hfirst, rfl⟩
          cases before with
          | nil => exact absurd (isFirstDue_nil_iff.1 hfirst) hdue
          | cons b before =>
              obtain ⟨rfl, rfl⟩ := List.cons_eq_cons.1 hsplit
              rw [List.forall_mem_cons] at hkeep
              rw [hkeep.1]
              exact (ih (m.after e)).2
                ⟨before, later, rfl, hkeep.2, (isFirstDue_cons_iff.1 hfirst).2, rfl⟩

end Moment

/-! ### Other tabs -/

/-- The tab that an event is about. -/
def TabEvent.tab : TabEvent → Tab
  | .activated tab _ | .beforeNavigate tab _ _ | .updated tab _ _ => tab

/-- Whether an event is about a tab, or about all tabs alike. -/
def Toolbar.Event.isFor (tab : Tab) : Event → Bool
  | .schedule t _ | .forget t => t == tab
  | .tabEvent e => e.tab == tab
  | .operation _ | .advance _ => true

namespace Moment

variable {tab : Tab} {url : String} {due : Nat} {m : Moment}

/-- An event of another tab asks for no refresh, puts an end to none and leaves the moment as it
is. -/
theorem of_isFor_eq_false {e : Event} (h : e.isFor tab = false) :
    e.page? tab = none ∧ e.ends tab = false ∧ m.after e = m := by
  cases e with
  | schedule t url =>
      have hne : t ≠ tab := beq_eq_false_iff_ne.1 h
      simp [Event.page?, Event.ends, Event.forgets, after, hne]
  | tabEvent e =>
      have hne : e.tab ≠ tab := beq_eq_false_iff_ne.1 h
      cases e <;> simp_all [Event.page?, Event.ends, Event.forgets, after, TabEvent.tab]
  | forget t =>
      have hne : t ≠ tab := beq_eq_false_iff_ne.1 h
      simp [Event.page?, Event.ends, Event.forgets, after, hne]
  | operation o => cases h
  | advance time => cases h

theorem fate_filter (es : List Event) : ∀ m : Moment,
    fate tab url due m es = fate tab url due m (es.filter (·.isFor tab)) := by
  induction es with
  | nil => intro m; rfl
  | cons e es ih =>
      intro m
      by_cases hdue : due ≤ m.now
      · rw [fate_of_le hdue, fate_of_le hdue]
      · have hlt : m.now < due := Nat.not_le.1 hdue
        rw [fate_cons_of_lt hlt, List.filter_cons]
        cases hfor : e.isFor tab with
        | true =>
            simp only [↓reduceIte]
            rw [fate_cons_of_lt hlt, ih (m.after e)]
        | false =>
            obtain ⟨-, hends, hafter⟩ := of_isFor_eq_false (m := m) hfor
            rw [hends, hafter, ih m]
            rfl

/-- **Events of other tabs make no difference.** -/
theorem fates_filter (window : Nat) (tab : Tab) (es : List Event) : ∀ m : Moment,
    fates window tab m es = fates window tab m (es.filter (·.isFor tab)) := by
  induction es with
  | nil => intro m; rfl
  | cons e es ih =>
      intro m
      rw [fates, List.filter_cons]
      cases hfor : e.isFor tab with
      | true =>
          simp only [↓reduceIte, fates]
          rw [ih (m.after e)]
          simp only [fate_filter es]
      | false =>
          obtain ⟨hpage, -, hafter⟩ := of_isFor_eq_false (m := m) hfor
          rw [hpage, hafter, ih m]
          rfl

end Moment

/-! ### Runs -/

namespace Toolbar

variable {t : Toolbar} {tab : Tab}

/-- What has been delivered to a tab, with what will become of the tasks that wait. -/
def prospect (t : Toolbar) (tab : Tab) (es : List Event) : List Delivery :=
  t.deliveredTo tab ++ (t.waiting tab).filterMap fun u => Moment.fate tab u.url u.due t.moment es

/-- Delivering only carries out what would have become of the tasks. -/
theorem prospect_settle (h : t.scheduler.IsTracked) (tab : Tab) (es : List Event) :
    t.settle.prospect tab es = t.prospect tab es := by
  rw [prospect, prospect, deliveredTo_settle, waiting_settle h, moment_settle h,
    List.append_assoc]
  congr 1
  obtain hnil | ⟨u, hu⟩ := waiting_eq_nil_or_singleton h tab
  · rw [hnil]
    rfl
  · rw [hu]
    by_cases hdue : u.due ≤ t.moment.now
    · have hisDue : t.scheduler.isDue u = true := decide_eq_true hdue
      simp [hisDue, Moment.fate_of_le hdue]
    · have hisDue : t.scheduler.isDue u = false := decide_eq_false hdue
      simp [hisDue]

/-- An event adds what becomes of the refresh that it asks for. -/
theorem prospect_act (h : t.IsSettled) (tab : Tab) (e : Event) (es : List Event) :
    (t.act e).prospect tab es = t.prospect tab (e :: es) ++
      ((e.page? tab).bind fun url =>
        Moment.fate tab url (t.moment.now + t.scheduler.window) t.moment es).toList := by
  -- nothing is due, so what waits looks at the event
  have hfate : (t.waiting tab).filterMap (fun u => Moment.fate tab u.url u.due t.moment (e :: es))
      = if e.ends tab then []
        else (t.waiting tab).filterMap fun u => Moment.fate tab u.url u.due (t.moment.after e) es := by
    have hcons : ∀ u ∈ t.waiting tab, Moment.fate tab u.url u.due t.moment (e :: es)
        = if e.ends tab then none
          else Moment.fate tab u.url u.due (t.moment.after e) es :=
      fun u hu => Moment.fate_cons_of_lt (h.now_lt_due u (List.mem_of_mem_filter hu)) e es
    rw [List.filterMap_congr hcons]
    split
    · rw [List.filterMap_eq_nil_iff]
      exact fun u _ => rfl
    · rfl
  rw [prospect, prospect, deliveredTo_act, moment_act, waiting_act h.isTracked, hfate]
  cases hpage : e.page? tab with
  | some url =>
      have hends : e.ends tab = true := by simp [Event.ends, hpage]
      rw [hends, Moment.after_of_ends hends]
      cases hfate : Moment.fate tab url (t.moment.now + t.scheduler.window) t.moment es <;>
        simp [hfate]
  | none =>
      have hends : e.ends tab = e.forgets tab := by simp [Event.ends, hpage]
      rw [hends]
      cases e.forgets tab <;> simp

/-- What a run delivers to a tab, from a toolbar on which nothing is due: what becomes of the task
that waits, and of the refreshes that the events ask for. -/
theorem deliveredTo_run_of_isSettled (tab : Tab) (es : List Event) :
    ∀ {t : Toolbar}, t.IsSettled → (t.run es).deliveredTo tab
      = t.prospect tab es ++ Moment.fates t.scheduler.window tab t.moment es := by
  induction es with
  | nil =>
      intro t h
      have hnone : (t.waiting tab).filterMap (fun u => Moment.fate tab u.url u.due t.moment [])
          = [] := by
        rw [List.filterMap_eq_nil_iff]
        exact fun u hu => Moment.fate_nil_of_lt (h.now_lt_due u (List.mem_of_mem_filter hu))
      rw [prospect, hnone, Moment.fates, List.append_nil, List.append_nil]
      rfl
  | cons e es ih =>
      intro t h
      have htracked := isTracked_act h.isTracked e
      have hwindow : (t.act e).settle.scheduler.window = t.scheduler.window := by
        rw [scheduler_settle htracked, Scheduler.window_keeping, window_act]
      calc (t.run (e :: es)).deliveredTo tab
          = ((t.act e).settle.run es).deliveredTo tab := rfl
        _ = (t.act e).prospect tab es
              ++ Moment.fates t.scheduler.window tab (t.moment.after e) es := by
            rw [ih (isSettled_settle htracked), prospect_settle htracked, hwindow,
              moment_settle htracked, moment_act]
        _ = t.prospect tab (e :: es) ++ Moment.fates t.scheduler.window tab t.moment (e :: es) := by
            rw [prospect_act h, Moment.fates, List.append_assoc]

/-- What the toolbar of a service has delivered to a tab after a run. -/
theorem deliveredTo_run_start (window : Nat) (service : Service) (tab : Tab) (es : List Event) :
    ((start window service).run es).deliveredTo tab
      = Moment.fates window tab ⟨service, 0⟩ es := by
  rw [deliveredTo_run_of_isSettled tab es (isSettled_start window service)]
  rfl

/-- **What is delivered to a tab is what becomes of its refreshes.**  However long refreshes wait and
whatever the service is, for every run and every tab: the icons delivered to the tab are those that
become of the refreshes of it that events ask for, one for each at most and in their order.  What
becomes of a refresh is an icon exactly if no newer refresh of the tab and no end of it comes before
the clock reaches its time; it is delivered at that moment, once, and is the icon of its page under
the snapshot of that moment.  Of what happens to a tab, activation, navigation of the main frame and
the beginning of loading act like a refresh that is asked for, and everything else like nothing.
What happens to other tabs makes no difference. -/
theorem delivers_fates (window : Nat) (service : Service) (tab : Tab) (es : List Event) :
    ((start window service).run es).deliveredTo tab
        = Moment.fates window tab ⟨service, 0⟩ es ∧
      (∀ url due later d m, Moment.fate tab url due m later = some d ↔
        ∃ before rest, later = before ++ rest ∧ (∀ e ∈ before, e.ends tab = false) ∧
          m.IsFirstDue due before ∧ d = (m.afterAll before).delivery tab url) ∧
      (∀ (t : Toolbar) (e : TabEvent), t.act (.tabEvent e) =
        match e with
        | .activated other url => t.act (.schedule other url)
        | .beforeNavigate other frame url => if frame = 0 then t.act (.schedule other url) else t
        | .updated other status url =>
            if status = some "loading" then t.act (.schedule other url) else t) ∧
      ((start window service).run es).deliveredTo tab
        = ((start window service).run (es.filter (·.isFor tab))).deliveredTo tab := by
  refine ⟨deliveredTo_run_start window service tab es, ?_, act_tabEvent, ?_⟩
  · intro url due later d m
    exact Moment.fate_eq_some_iff tab url due d later m
  · rw [deliveredTo_run_start, deliveredTo_run_start, Moment.fates_filter]

/-- Two tabs, of which one is forgotten; the other turns to another page and is decided on after the
blacklist has become a whitelist, 100 after it began to load. -/
theorem delivers_fates_burst :
    let service := Service.start Proxy.standard { Settings.standard with
      mode := .blacklist, blacklist := { RuleSource.empty with manual := ["a.com"] } }
    let es : List Event := [.schedule 1 "http://b.com/", .schedule 2 "http://a.com/",
      .advance 60, .tabEvent (.updated 1 (some "loading") "http://a.com/x"),
      .operation (.update { Config.Update.empty with mode := some .whitelist }), .forget 2,
      .tabEvent (.beforeNavigate 1 7 "http://c.com/"), .advance 99, .advance 1, .advance 100]
    ((start 100 service).run es).deliveredTo 1
        = [⟨160, 1, ⟨.standard, some "a.com: DIRECT"⟩⟩] ∧
      ((start 100 service).run es).deliveredTo 2 = [] := by
  intro service es
  rw [(delivers_fates 100 service 1 es).1, (delivers_fates 100 service 2 es).1]
  exact ⟨by decide +kernel, by decide +kernel⟩

end Toolbar

end HostRouting
