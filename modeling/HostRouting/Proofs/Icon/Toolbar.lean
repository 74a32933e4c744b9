/-
**The toolbar.**

The toolbar is the service and the scheduler at work together: refreshes are asked for and
forgotten, the configuration changes, time passes, and after each of these whatever is due is
delivered.  For any one tab there is little to say about it: at most one task waits, an event for
another tab does not concern it, and of the service and the clock it only sees the moment at which
its task is due.

Main definitions:

* `Toolbar`, `Toolbar.Event`, `Toolbar.run` — the toolbar, what can happen to it, and what comes of
  it, with `Delivery` for an icon that was set;
* `Moment` — what a delivery depends on, which events change in ways of their own;
* `Toolbar.Event.page?`, `Toolbar.Event.ends` — the refresh of a tab that an event asks for, and
  whether an event puts an end to one that waits;
* `Toolbar.waiting` — the tasks of a tab.

Main results:

* `Toolbar.isSettled_run` — after each step the scheduler keeps track and nothing is due;
* `Toolbar.act_tabEvent` — an event of a tab acts like a refresh or like nothing;
* `Toolbar.waiting_act` — what an event does to the tasks of a tab;
* `Toolbar.waiting_settle`, `Toolbar.deliveredTo_settle` — what delivering does to them.
-/

import HostRouting.Proofs.Icon.Tracking
import HostRouting.Proofs.Service.Operation

set_option autoImplicit false

namespace HostRouting

/-! ### Moments -/

/-- An icon that was set for a tab. -/
structure Delivery where
  /-- The time on the clock. -/
  time : Nat
  tab : Tab
  badge : Badge
  deriving DecidableEq, Repr

/-- What the delivery of an icon depends on. -/
structure Moment where
  service : Service
  now : Nat

/-- The delivery of the icon of a page at a moment. -/
def Moment.delivery (m : Moment) (tab : Tab) (url : String) : Delivery :=
  ⟨m.now, tab, m.service.live.badge url⟩

/-! ### The machine -/

/-- The service and the scheduler at work. -/
structure Toolbar where
  service : Service
  scheduler : Scheduler
  /-- The icons that were set, the first one first. -/
  delivered : List Delivery

namespace Toolbar

/-- What can happen while icons are kept up to date. -/
inductive Event where
  /-- A refresh is asked for. -/
  | schedule (tab : Tab) (url : String)
  /-- Something happens to a tab. -/
  | tabEvent (e : TabEvent)
  /-- A tab is forgotten. -/
  | forget (tab : Tab)
  /-- Something happens to the service. -/
  | operation (o : Operation)
  /-- Time passes. -/
  | advance (time : Nat)

/-- The toolbar of a service, when nothing has happened yet. -/
def start (window : Nat) (service : Service) : Toolbar := ⟨service, .start window, []⟩

/-- The toolbar after an event, before anything is delivered. -/
def act (t : Toolbar) : Event → Toolbar
  | .schedule tab url => { t with scheduler := t.scheduler.schedule tab url }
  | .tabEvent e => { t with scheduler := t.scheduler.onEvent e }
  | .forget tab => { t with scheduler := t.scheduler.forget tab }
  | .operation o => { t with service := t.service.perform o }
  | .advance time => { t with scheduler := t.scheduler.advance time }

/-- The moment that a toolbar has come to. -/
def moment (t : Toolbar) : Moment := ⟨t.service, t.scheduler.now⟩

/-- The toolbar once everything that is due has been delivered. -/
def settle (t : Toolbar) : Toolbar :=
  { t with
    scheduler := (t.scheduler.deliver t.service.live).1
    delivered := t.delivered ++
      (t.scheduler.deliver t.service.live).2.map fun d => ⟨t.scheduler.now, d.1, d.2⟩ }

/-- The toolbar after an event. -/
def step (t : Toolbar) (e : Event) : Toolbar := (t.act e).settle

/-- The toolbar after events, the first one first. -/
def run (t : Toolbar) (es : List Event) : Toolbar := es.foldl step t

/-- The icons that were set for a tab. -/
def deliveredTo (t : Toolbar) (tab : Tab) : List Delivery := t.delivered.filter (·.tab == tab)

/-- The tasks of a tab. -/
def waiting (t : Toolbar) (tab : Tab) : List Task := t.scheduler.tasks.filter (·.tab == tab)

/-! ### Events for a tab -/

namespace Event

/-- The page for which an event asks a refresh of a tab: activation of the tab, navigation of its
main frame and the beginning of loading ask for one, and nothing else that happens to it does. -/
def page? (tab : Tab) : Event → Option String
  | .schedule t url => if t = tab then some url else none
  | .tabEvent (.activated t url) => if t = tab then some url else none
  | .tabEvent (.beforeNavigate t frame url) => if t = tab ∧ frame = 0 then some url else none
  | .tabEvent (.updated t status url) =>
      if t = tab ∧ status = some "loading" then some url else none
  | .forget _ | .operation _ | .advance _ => none

/-- Whether an event forgets a tab. -/
def forgets (tab : Tab) : Event → Bool
  | .forget t => t == tab
  | _ => false

/-- Whether an event puts an end to a refresh of a tab that waits: a newer one takes its place, or
the tab is forgotten. -/
def ends (tab : Tab) (e : Event) : Bool := (e.page? tab).isSome || e.forgets tab

end Event

/-! ### Moments in a run -/

end Toolbar

namespace Moment

open Toolbar (Event)

/-- The moment after an event. -/
def after (m : Moment) : Event → Moment
  | .operation o => { m with service := m.service.perform o }
  | .advance time => { m with now := m.now + time }
  | .schedule .. | .tabEvent _ | .forget _ => m

/-- The moment after events, the first one first. -/
def afterAll (m : Moment) (es : List Event) : Moment := es.foldl after m

/-- What concerns the tasks of a tab leaves the moment as it is. -/
theorem after_of_ends {tab : Tab} {e : Event} (h : e.ends tab = true) (m : Moment) :
    m.after e = m := by
  cases e with
  | schedule t url => rfl
  | tabEvent e => rfl
  | forget t => rfl
  | operation o => cases h
  | advance time => cases h

end Moment

namespace Toolbar

variable {t : Toolbar}

@[simp] theorem moment_act (t : Toolbar) (e : Event) : (t.act e).moment = t.moment.after e := by
  cases e with
  | schedule tab url => simp [act, moment, Moment.after]
  | tabEvent e => simp [act, moment, Moment.after]
  | forget tab => simp [act, moment, Moment.after]
  | operation o => rfl
  | advance time => rfl

@[simp] theorem window_act (t : Toolbar) (e : Event) :
    (t.act e).scheduler.window = t.scheduler.window := by
  cases e with
  | schedule tab url => exact Scheduler.window_schedule ..
  | tabEvent e => exact Scheduler.window_onEvent ..
  | forget tab => exact Scheduler.window_forget ..
  | operation o => rfl
  | advance time => rfl

@[simp] theorem deliveredTo_act (t : Toolbar) (e : Event) (tab : Tab) :
    (t.act e).deliveredTo tab = t.deliveredTo tab := by
  cases e <;> rfl

/-! ### Nothing is due -/

/-- The scheduler keeps track, and nothing is due. -/
structure IsSettled (t : Toolbar) : Prop where
  isTracked : t.scheduler.IsTracked
  now_lt_due : ∀ u ∈ t.scheduler.tasks, t.moment.now < u.due

theorem isSettled_start (window : Nat) (service : Service) : (start window service).IsSettled where
  isTracked := Scheduler.isTracked_start window
  now_lt_due := by intro u hu; cases hu

theorem isTracked_act (h : t.scheduler.IsTracked) (e : Event) :
    (t.act e).scheduler.IsTracked := by
  cases e with
  | schedule tab url => exact Scheduler.isTracked_schedule h tab url
  | tabEvent e => exact Scheduler.isTracked_onEvent h e
  | forget tab => exact Scheduler.isTracked_forget h tab
  | operation o => exact h
  | advance time => exact Scheduler.isTracked_advance h time

theorem scheduler_settle (h : t.scheduler.IsTracked) :
    t.settle.scheduler = t.scheduler.keeping (!t.scheduler.isDue ·) :=
  h.deliver_fst t.service.live

@[simp] theorem moment_settle (h : t.scheduler.IsTracked) : t.settle.moment = t.moment := by
  rw [moment, scheduler_settle h, Scheduler.now_keeping]
  rfl

theorem isSettled_settle (h : t.scheduler.IsTracked) : t.settle.IsSettled := by
  constructor
  · exact Scheduler.isTracked_deliver h t.service.live
  · intro u hu
    rw [scheduler_settle h, Scheduler.tasks_keeping, List.mem_filter, Scheduler.isDue,
      Bool.not_eq_true', decide_eq_false_iff_not, Nat.not_le] at hu
    rw [moment_settle h]
    exact hu.2

theorem isSettled_step (h : t.IsSettled) (e : Event) : (t.step e).IsSettled :=
  isSettled_settle (isTracked_act h.isTracked e)

/-- **After each step the scheduler keeps track and nothing is due.** -/
theorem isSettled_run (es : List Event) : ∀ {t : Toolbar}, t.IsSettled → (t.run es).IsSettled := by
  induction es with
  | nil => intro t h; exact h
  | cons e es ih => intro t h; exact ih (isSettled_step h e)

/-! ### The tasks of a tab -/

/-- A tab has no second task. -/
theorem eq_of_mem_waiting (h : t.scheduler.IsTracked) {tab : Tab} {u v : Task}
    (hu : u ∈ t.waiting tab) (hv : v ∈ t.waiting tab) : u = v := by
  rw [waiting, List.mem_filter, beq_iff_eq] at hu hv
  exact h.eq_of_tab_eq hu.1 hv.1 (hu.2.trans hv.2.symm)

/-- At most one task of a tab waits. -/
theorem waiting_eq_nil_or_singleton (h : t.scheduler.IsTracked) (tab : Tab) :
    t.waiting tab = [] ∨ ∃ u, t.waiting tab = [u] := by
  have hsame : ∀ u ∈ t.waiting tab, ∀ v ∈ t.waiting tab, u = v :=
    fun _ hu _ hv => eq_of_mem_waiting h hu hv
  have hnodup : (t.waiting tab).Nodup := (List.Nodup.of_map Task.id h.nodup_ids).filter _
  cases hwaiting : t.waiting tab with
  | nil => exact .inl rfl
  | cons u us =>
      rw [hwaiting] at hsame hnodup
      cases us with
      | nil => exact .inr ⟨u, rfl⟩
      | cons v vs =>
          obtain rfl := hsame u List.mem_cons_self v (List.mem_cons_of_mem _ List.mem_cons_self)
          exact absurd List.mem_cons_self (List.nodup_cons.1 hnodup).1

/-- The tasks of a tab, when those of some tab are taken away. -/
theorem filter_tab_filter_ne (tasks : List Task) (tab other : Tab) :
    (tasks.filter (·.tab != other)).filter (·.tab == tab)
      = if other = tab then [] else tasks.filter (·.tab == tab) := by
  rw [List.filter_filter]
  split
  · next h =>
      subst h
      rw [List.filter_eq_nil_iff]
      intro u _
      simp
  · next h =>
      refine List.filter_congr fun u _ => ?_
      by_cases hu : u.tab = tab
      · simp [hu, Ne.symm h]
      · simp [hu]

/-- A refresh of a tab is the only task of that tab afterwards, and concerns no other tab. -/
theorem filter_tab_schedule {s : Scheduler} (h : s.IsTracked) (tab other : Tab) (url : String) :
    (s.schedule other url).tasks.filter (·.tab == tab)
      = if other = tab then [⟨s.nextId, tab, url, s.now + s.window⟩]
        else s.tasks.filter (·.tab == tab) := by
  rw [h.tasks_schedule, List.filter_append, filter_tab_filter_ne]
  split
  · next heq =>
      subst heq
      simp
  · next hne => simp [hne]

/-- **An event of a tab acts like a refresh that is asked for, or like nothing.** -/
theorem act_tabEvent (t : Toolbar) (e : TabEvent) :
    t.act (.tabEvent e) =
      match e with
      | .activated other url => t.act (.schedule other url)
      | .beforeNavigate other frame url => if frame = 0 then t.act (.schedule other url) else t
      | .updated other status url =>
          if status = some "loading" then t.act (.schedule other url) else t := by
  cases e with
  | activated other url => rfl
  | beforeNavigate other frame url =>
      by_cases hframe : frame = 0 <;>
        simp [act, Scheduler.onEvent, TabEvent.refresh?, mainFrame, hframe]
  | updated other status url =>
      by_cases hstatus : status = some "loading" <;>
        simp [act, Scheduler.onEvent, TabEvent.refresh?, hstatus]

/-- The refresh that an event of a tab acts like is asked for by that event. -/
theorem page?_tabEvent (tab : Tab) (e : TabEvent) :
    Event.page? tab (.tabEvent e) =
      match e with
      | .activated other url => Event.page? tab (.schedule other url)
      | .beforeNavigate other frame url =>
          if frame = 0 then Event.page? tab (.schedule other url) else none
      | .updated other status url =>
          if status = some "loading" then Event.page? tab (.schedule other url) else none := by
  cases e with
  | activated other url => rfl
  | beforeNavigate other frame url => by_cases hframe : frame = 0 <;> simp [Event.page?, hframe]
  | updated other status url =>
      by_cases hstatus : status = some "loading" <;> simp [Event.page?, hstatus]

theorem waiting_act_schedule (h : t.scheduler.IsTracked) (tab other : Tab) (url : String) :
    (t.act (.schedule other url)).waiting tab =
      match Event.page? tab (.schedule other url) with
      | some url => [⟨t.scheduler.nextId, tab, url, t.moment.now + t.scheduler.window⟩]
      | none => t.waiting tab := by
  rw [waiting, act, filter_tab_schedule h, Event.page?]
  split <;> rfl

/-- **What an event does to the tasks of a tab.**  A refresh that it asks for takes the place of
what waits, forgetting the tab leaves nothing, and other events change nothing. -/
theorem waiting_act (h : t.scheduler.IsTracked) (tab : Tab) (e : Event) :
    (t.act e).waiting tab =
      match e.page? tab with
      | some url => [⟨t.scheduler.nextId, tab, url, t.moment.now + t.scheduler.window⟩]
      | none => if e.forgets tab then [] else t.waiting tab := by
  cases e with
  | schedule other url => exact waiting_act_schedule h tab other url
  | tabEvent e =>
      rw [act_tabEvent, page?_tabEvent]
      cases e with
      | activated other url => exact waiting_act_schedule h tab other url
      | beforeNavigate other frame url =>
          by_cases hframe : frame = 0
          · simp only [hframe, ↓reduceIte]
            exact waiting_act_schedule h tab other url
          · simp only [hframe, ↓reduceIte]
            rfl
      | updated other status url =>
          by_cases hstatus : status = some "loading"
          · simp only [hstatus, ↓reduceIte]
            exact waiting_act_schedule h tab other url
          · simp only [hstatus, ↓reduceIte]
            rfl
  | forget other =>
      have htasks : (t.act (.forget other)).waiting tab
          = (t.scheduler.tasks.filter (·.tab != other)).filter (·.tab == tab) := by
        rw [waiting, act, h.forget_eq]
        rfl
      rw [htasks, filter_tab_filter_ne]
      simp [Event.page?, Event.forgets, waiting]
  | operation o => rfl
  | advance time => rfl

/-- Delivering leaves the tasks that are not due. -/
theorem waiting_settle (h : t.scheduler.IsTracked) (tab : Tab) :
    t.settle.waiting tab = (t.waiting tab).filter (!t.scheduler.isDue ·) := by
  rw [waiting, scheduler_settle h, Scheduler.tasks_keeping, waiting, List.filter_filter,
    List.filter_filter]
  exact List.filter_congr fun u _ => Bool.and_comm ..

/-- What is due is delivered as the moment has it. -/
theorem deliveredTo_settle (t : Toolbar) (tab : Tab) :
    t.settle.deliveredTo tab = t.deliveredTo tab ++
      ((t.waiting tab).filter t.scheduler.isDue).map fun u => t.moment.delivery tab u.url := by
  have hsent : t.settle.delivered = t.delivered ++
      (t.scheduler.tasks.filter t.scheduler.isDue).map fun u => t.moment.delivery u.tab u.url := by
    simp only [settle, Scheduler.deliver, List.map_map]
    rfl
  have hdue : (t.scheduler.tasks.filter t.scheduler.isDue).filter (·.tab == tab)
      = (t.waiting tab).filter t.scheduler.isDue := by
    rw [waiting, List.filter_filter, List.filter_filter]
    exact List.filter_congr fun u _ => Bool.and_comm ..
  have htab : ∀ u ∈ (t.waiting tab).filter t.scheduler.isDue,
      t.moment.delivery u.tab u.url = t.moment.delivery tab u.url := by
    intro u hu
    have hmem := List.mem_of_mem_filter hu
    rw [waiting, List.mem_filter, beq_iff_eq] at hmem
    rw [hmem.2]
  rw [deliveredTo, hsent, List.filter_append, List.filter_map, ← List.map_congr_left htab, ← hdue]
  rfl

end Toolbar

end HostRouting
