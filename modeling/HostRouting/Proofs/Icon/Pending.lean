/-
**Which tabs wait for an icon.**

The map of pending refreshes has entries put in by every refresh that is asked for, and taken out
when a newer one replaces them, when the tab is forgotten and when the task has run.  What it holds
after a run can be read off the events alone: a request is open if no later event replaces it or
forgets its tab, and if nothing has been delivered to the tab since.  A tab has at most one open
request, the tasks are those of the open requests, and the entries are those of the tasks.

A request gets its number by counting the requests before it, so the task of one that is not open
any more carries a number that is not in the map, and can finish without taking anything out.

Main definitions:

* `Toolbar.Event.refresh?` — the tab and the page whose refresh an event asks for;
* `Toolbar.asked` — how many refreshes events ask for;
* `Toolbar.Request` — an event of a run that asks for a refresh of a tab, `Request.task` its task;
* `Toolbar.Request.IsOpen` — the request is neither replaced nor forgotten nor delivered.

Main results:

* `Toolbar.nextId_run` — numbers are given out in the order of the requests;
* `Toolbar.mem_waiting_run_iff` — **what waits is what the open requests have asked for**;
* `Toolbar.finish_task_of_not_isOpen` — a task whose request is not open changes nothing when it
  finishes;
* `Toolbar.tracks_open_requests` — the map of pending refreshes tracks exactly the tabs with an
  open request.
-/

import HostRouting.Proofs.Icon.Toolbar
import Mathlib.Data.Finset.Card
import Mathlib.Data.List.Induction

set_option autoImplicit false

namespace HostRouting

namespace Scheduler

variable {s : Scheduler}

@[simp] theorem nextId_forget (s : Scheduler) (tab : Tab) : (s.forget tab).nextId = s.nextId := by
  rw [forget]
  split <;> rfl

@[simp] theorem nextId_schedule (s : Scheduler) (tab : Tab) (url : String) :
    (s.schedule tab url).nextId = s.nextId + 1 :=
  congrArg (· + 1) (nextId_forget s tab)

/-- A task whose number is not there changes nothing when it finishes. -/
theorem IsTracked.finish_eq_self (h : s.IsTracked) {u : Task} (hid : ∀ v ∈ s.tasks, v.id ≠ u.id) :
    s.finish u = s := by
  have htasks : s.tasks.filter (·.id != u.id) = s.tasks :=
    List.filter_eq_self.2 fun v hv => bne_iff_ne.2 (hid v hv)
  have hpending : s.pending.filter (· != (u.tab, u.id)) = s.pending := by
    rw [List.filter_eq_self, h.pending_eq, List.forall_mem_map]
    intro v hv
    exact bne_iff_ne.2 fun hentry => hid v hv (congrArg Prod.snd hentry)
  rw [finish, htasks, hpending]

end Scheduler

namespace Toolbar

/-! ### Requests and their numbers -/

/-- The tab and the page whose refresh an event asks for. -/
def Event.refresh? : Event → Option (Tab × String)
  | .schedule tab url => some (tab, url)
  | .tabEvent e => e.refresh?
  | .forget _ | .operation _ | .advance _ => none

theorem Event.page?_eq_some_iff {tab : Tab} {e : Event} {url : String} :
    e.page? tab = some url ↔ e.refresh? = some (tab, url) := by
  cases e with
  | schedule other page => simp [page?, refresh?]
  | tabEvent e =>
      cases e with
      | activated other page => simp [page?, refresh?, TabEvent.refresh?]
      | beforeNavigate other frame page =>
          by_cases hframe : frame = 0 <;>
            simp [page?, refresh?, TabEvent.refresh?, mainFrame, hframe]
      | updated other status page =>
          by_cases hstatus : status = some "loading" <;>
            simp [page?, refresh?, TabEvent.refresh?, hstatus]
  | forget other => simp [page?, refresh?]
  | operation o => simp [page?, refresh?]
  | advance time => simp [page?, refresh?]

/-- How many refreshes events ask for. -/
def asked (es : List Event) : Nat := es.countP (·.refresh?.isSome)

/-- The number of a request is below that of each later one. -/
theorem asked_lt_of_isSome {e : Event} (h : e.refresh?.isSome = true) (before later : List Event) :
    asked before < asked (before ++ e :: later) := by
  have hcons : asked (e :: later) = asked later + 1 := List.countP_cons_of_pos h
  have happend : asked (before ++ e :: later) = asked before + asked (e :: later) :=
    List.countP_append
  omega

variable {t : Toolbar}

theorem nextId_act (t : Toolbar) (e : Event) :
    (t.act e).scheduler.nextId = t.scheduler.nextId + asked [e] := by
  cases e with
  | schedule tab url => exact Scheduler.nextId_schedule ..
  | tabEvent e =>
      have hasked : asked [.tabEvent e] = if e.refresh?.isSome then 1 else 0 :=
        List.countP_singleton
      rw [act, hasked]
      simp only [Scheduler.onEvent]
      split
      · next tab url hrefresh => simp [hrefresh]
      · next hrefresh => simp [hrefresh]
  | forget tab => exact Scheduler.nextId_forget ..
  | operation o => rfl
  | advance time => rfl

theorem run_append (t : Toolbar) (es later : List Event) :
    t.run (es ++ later) = (t.run es).run later :=
  List.foldl_append ..

/-! ### The window, the numbers and the clock in a run -/

theorem window_step (h : t.IsSettled) (e : Event) :
    (t.step e).scheduler.window = t.scheduler.window := by
  rw [step, scheduler_settle (isTracked_act h.isTracked e), Scheduler.window_keeping, window_act]

theorem window_run (es : List Event) : ∀ {t : Toolbar}, t.IsSettled →
    (t.run es).scheduler.window = t.scheduler.window := by
  induction es with
  | nil => intro t _; rfl
  | cons e es ih =>
      intro t h
      exact (ih (isSettled_step h e)).trans (window_step h e)

theorem nextId_step (h : t.IsSettled) (e : Event) :
    (t.step e).scheduler.nextId = t.scheduler.nextId + asked [e] := by
  rw [step, scheduler_settle (isTracked_act h.isTracked e)]
  exact nextId_act t e

/-- **Numbers are given out in the order of the requests.** -/
theorem nextId_run (es : List Event) : ∀ {t : Toolbar}, t.IsSettled →
    (t.run es).scheduler.nextId = t.scheduler.nextId + asked es := by
  induction es with
  | nil => intro t _; rfl
  | cons e es ih =>
      intro t h
      have hasked : asked ([e] ++ es) = asked [e] + asked es := List.countP_append
      rw [List.singleton_append] at hasked
      rw [hasked, ← Nat.add_assoc, ← nextId_step h e]
      exact ih (isSettled_step h e)

theorem now_le_step (h : t.IsSettled) (e : Event) : t.moment.now ≤ (t.step e).moment.now := by
  rw [step, moment_settle (isTracked_act h.isTracked e), moment_act]
  cases e with
  | advance time => exact Nat.le_add_right ..
  | _ => exact Nat.le_refl _

/-- The clock does not run backwards. -/
theorem now_le_run (es : List Event) : ∀ {t : Toolbar}, t.IsSettled →
    t.moment.now ≤ (t.run es).moment.now := by
  induction es with
  | nil => intro t _; exact Nat.le_refl _
  | cons e es ih =>
      intro t h
      exact (now_le_step h e).trans (ih (isSettled_step h e))

/-! ### What has been delivered only grows -/

theorem deliveredTo_step (t : Toolbar) (e : Event) (tab : Tab) :
    (t.step e).deliveredTo tab = t.deliveredTo tab ++
      (((t.act e).waiting tab).filter (t.act e).scheduler.isDue).map
        fun u => (t.act e).moment.delivery tab u.url := by
  rw [step, deliveredTo_settle, deliveredTo_act]

/-- Nothing is delivered to a tab in a step exactly if no task of it is due. -/
theorem deliveredTo_step_eq_iff {e : Event} {tab : Tab} :
    (t.step e).deliveredTo tab = t.deliveredTo tab ↔
      ∀ u ∈ (t.act e).waiting tab, (t.act e).scheduler.isDue u = false := by
  rw [deliveredTo_step, List.append_right_eq_self, List.map_eq_nil_iff, List.filter_eq_nil_iff]
  simp only [Bool.not_eq_true]

theorem deliveredTo_prefix_run (tab : Tab) (es : List Event) :
    ∀ t : Toolbar, t.deliveredTo tab <+: (t.run es).deliveredTo tab := by
  induction es with
  | nil => intro t; exact List.prefix_refl _
  | cons e es ih =>
      intro t
      refine List.IsPrefix.trans ?_ (ih (t.step e))
      rw [deliveredTo_step]
      exact List.prefix_append ..

/-! ### Requests -/

/-- An event, among events, that asks for a refresh of a tab. -/
@[ext]
structure Request (tab : Tab) (es : List Event) where
  before : List Event
  event : Event
  url : String
  later : List Event
  split : before ++ event :: later = es
  asks : event.page? tab = some url

namespace Request

variable {tab : Tab} {es : List Event}

/-- The task that does what was asked for in a run. -/
def task (r : Request tab es) (t : Toolbar) : Task :=
  ⟨asked r.before, tab, r.url, (t.run r.before).scheduler.now + t.scheduler.window⟩

/-- A newer refresh of the tab has been asked for. -/
def IsReplaced (r : Request tab es) : Prop := ∃ e ∈ r.later, (e.page? tab).isSome

/-- The refresh that was asked for is still to come: it is the latest one of its tab, which has not
been forgotten since, and nothing has been delivered to the tab since. -/
structure IsOpen (r : Request tab es) (t : Toolbar) : Prop where
  not_replaced : ¬ r.IsReplaced
  not_forgotten : ∀ e ∈ r.later, e.forgets tab = false
  not_delivered : (t.run es).deliveredTo tab = (t.run r.before).deliveredTo tab

theorem refresh?_event (r : Request tab es) : r.event.refresh? = some (tab, r.url) :=
  Event.page?_eq_some_iff.1 r.asks

/-- A request with a smaller number, or the same one, comes first. -/
theorem isPrefix_before {other : Tab} (r : Request tab es) (q : Request other es)
    (h : asked r.before ≤ asked q.before) : r.before <+: q.before := by
  obtain ⟨mid, hbefore, -⟩ | ⟨mid, hbefore, hmid⟩ :=
    List.append_eq_append_iff.1 (r.split.trans q.split.symm)
  · exact ⟨mid, hbefore.symm⟩
  · cases mid with
    | nil => exact ⟨[], by rw [hbefore, List.append_nil, List.append_nil]⟩
    | cons e mid =>
        -- the other event comes first, and asks for a refresh before this one does
        obtain ⟨rfl, -⟩ := List.cons_eq_cons.1 hmid
        have hlt : asked q.before < asked r.before :=
          hbefore ▸ asked_lt_of_isSome (by simp [q.refresh?_event]) q.before mid
        exact absurd h (Nat.not_le.2 hlt)

/-- **Requests with the same number are the same request.** -/
theorem eq_of_asked_eq {other : Tab} (r : Request tab es) (q : Request other es)
    (h : asked r.before = asked q.before) :
    (⟨tab, r⟩ : (tab : Tab) × Request tab es) = ⟨other, q⟩ := by
  have hbefore : r.before = q.before :=
    (isPrefix_before r q h.le).eq_of_length_le (isPrefix_before q r h.ge).length_le
  have hrest : r.event :: r.later = q.event :: q.later := by
    have hsplit := r.split.trans q.split.symm
    rw [hbefore] at hsplit
    exact List.append_cancel_left hsplit
  obtain ⟨hevent, hlater⟩ := List.cons_eq_cons.1 hrest
  have hrefresh : (tab, r.url) = (other, q.url) := by
    rw [← Option.some_inj, ← r.refresh?_event, ← q.refresh?_event, hevent]
  obtain ⟨rfl, hurl⟩ := Prod.mk.inj hrefresh
  rw [Request.ext hbefore hevent hurl hlater]

/-! ### Requests of a longer run -/

/-- The request of the last event. -/
def last (es : List Event) {e : Event} {url : String} (h : e.page? tab = some url) :
    Request tab (es ++ [e]) :=
  ⟨es, e, url, [], rfl, h⟩

/-- A request seen from one event later. -/
def extend (r : Request tab es) (e : Event) : Request tab (es ++ [e]) where
  before := r.before
  event := r.event
  url := r.url
  later := r.later ++ [e]
  split := by rw [← List.cons_append, ← List.append_assoc, r.split]
  asks := r.asks

/-- A request is that of the last event, or one of the events before it. -/
theorem exists_append_singleton_iff {e : Event} {p : Request tab (es ++ [e]) → Prop} :
    (∃ r, p r) ↔ (∃ url, ∃ h : e.page? tab = some url, p (last es h)) ∨
      ∃ r : Request tab es, p (r.extend e) := by
  constructor
  · rintro ⟨⟨before, event, url, later, split, asks⟩, hp⟩
    obtain rfl | ⟨front, final, rfl⟩ := List.eq_nil_or_concat' later
    · obtain ⟨rfl, hevent⟩ := List.append_inj' split rfl
      obtain rfl := List.singleton_inj.1 hevent
      exact .inl ⟨url, asks, hp⟩
    · have hfront : (before ++ event :: front) ++ [final] = es ++ [e] := by
        rw [← split, List.append_assoc, List.cons_append]
      obtain ⟨rfl, hfinal⟩ := List.append_inj' hfront rfl
      obtain rfl := List.singleton_inj.1 hfinal
      exact .inr ⟨⟨before, event, url, front, rfl, asks⟩, hp⟩
  · rintro (⟨url, h, hp⟩ | ⟨r, hp⟩)
    · exact ⟨last es h, hp⟩
    · exact ⟨r.extend e, hp⟩

variable {t : Toolbar} {e : Event}

/-- A request is open if nothing has put an end to it and nothing has been delivered. -/
theorem isOpen_iff (r : Request tab es) :
    r.IsOpen t ↔ (∀ e ∈ r.later, e.ends tab = false) ∧
      (t.run es).deliveredTo tab = (t.run r.before).deliveredTo tab := by
  constructor
  · intro h
    refine ⟨?_, h.not_delivered⟩
    intro e he
    rw [Event.ends, h.not_forgotten e he, Bool.or_false]
    exact Bool.eq_false_iff.2 fun hsome => h.not_replaced ⟨e, he, hsome⟩
  · rintro ⟨hends, hdelivered⟩
    have hboth : ∀ e ∈ r.later, (e.page? tab).isSome = false ∧ e.forgets tab = false :=
      fun e he => Bool.or_eq_false_iff.1 (hends e he)
    refine ⟨?_, fun e he => (hboth e he).2, hdelivered⟩
    rintro ⟨e, he, hsome⟩
    exact absurd hsome (Bool.eq_false_iff.1 (hboth e he).1)

/-- A new request is open unless it is delivered at once. -/
theorem isOpen_last_iff {url : String} (h : e.page? tab = some url) :
    (last es h).IsOpen t ↔ (t.run (es ++ [e])).deliveredTo tab = (t.run es).deliveredTo tab := by
  rw [isOpen_iff]
  exact and_iff_right (by intro e he; cases he)

/-- A request stays open unless the event puts an end to it or something is delivered. -/
theorem isOpen_extend_iff (r : Request tab es) :
    (r.extend e).IsOpen t ↔ r.IsOpen t ∧ e.ends tab = false ∧
      (t.run (es ++ [e])).deliveredTo tab = (t.run es).deliveredTo tab := by
  have hstep : (t.run es).deliveredTo tab <+: (t.run (es ++ [e])).deliveredTo tab := by
    rw [run_append]
    exact deliveredTo_prefix_run tab [e] _
  have hrun : (t.run r.before).deliveredTo tab <+: (t.run es).deliveredTo tab := by
    have hsplit := congrArg t.run r.split
    rw [run_append] at hsplit
    rw [← hsplit]
    exact deliveredTo_prefix_run tab _ _
  have hlater : (∀ other ∈ (r.extend e).later, other.ends tab = false) ↔
      (∀ other ∈ r.later, other.ends tab = false) ∧ e.ends tab = false := by
    rw [extend, List.forall_mem_append, List.forall_mem_singleton]
  rw [isOpen_iff, isOpen_iff, hlater]
  constructor
  · rintro ⟨⟨hends, hlast⟩, hall⟩
    -- what lies between two equal lists is equal to them
    have hes : (t.run es).deliveredTo tab = (t.run r.before).deliveredTo tab :=
      (hrun.eq_of_length_le (hall ▸ hstep.length_le)).symm
    exact ⟨⟨hends, hes⟩, hlast, hall.trans hes.symm⟩
  · rintro ⟨⟨hends, hes⟩, hlast, hdelivered⟩
    exact ⟨⟨hends, hlast⟩, hdelivered.trans hes⟩

/-- After an event that asks for a refresh of the tab, its request is the only one that can be
open. -/
theorem exists_isOpen_iff_of_eq_some {url : String} {u : Task} (h : e.page? tab = some url) :
    (∃ r : Request tab (es ++ [e]), r.IsOpen t ∧ r.task t = u) ↔
      (last es h).task t = u ∧ (t.run (es ++ [e])).deliveredTo tab = (t.run es).deliveredTo tab := by
  have hends : e.ends tab = true := by simp [Event.ends, h]
  rw [exists_append_singleton_iff]
  constructor
  · rintro (⟨other, hother, hopen, htask⟩ | ⟨r, hopen, -⟩)
    · obtain rfl := Option.some.inj (h.symm.trans hother)
      exact ⟨htask, (isOpen_last_iff h).1 hopen⟩
    · exact absurd hends (Bool.eq_false_iff.1 ((isOpen_extend_iff r).1 hopen).2.1)
  · rintro ⟨htask, hdelivered⟩
    exact .inl ⟨url, h, (isOpen_last_iff h).2 hdelivered, htask⟩

/-- After any other event, what was open before is open, unless the tab is forgotten or something
is delivered to it. -/
theorem exists_isOpen_iff_of_eq_none {u : Task} (h : e.page? tab = none) :
    (∃ r : Request tab (es ++ [e]), r.IsOpen t ∧ r.task t = u) ↔
      (∃ r : Request tab es, r.IsOpen t ∧ r.task t = u) ∧ e.forgets tab = false ∧
        (t.run (es ++ [e])).deliveredTo tab = (t.run es).deliveredTo tab := by
  have hends : e.ends tab = e.forgets tab := by simp [Event.ends, h]
  rw [exists_append_singleton_iff, ← hends]
  constructor
  · rintro (⟨url, hurl, -⟩ | ⟨r, hopen, htask⟩)
    · cases h.symm.trans hurl
    · obtain ⟨hbefore, hkept⟩ := (isOpen_extend_iff r).1 hopen
      exact ⟨⟨r, hbefore, htask⟩, hkept⟩
  · rintro ⟨⟨r, hbefore, htask⟩, hkept⟩
    exact .inr ⟨r, (isOpen_extend_iff r).2 ⟨hbefore, hkept⟩, htask⟩

end Request

/-! ### What waits -/

variable {window : Nat} {service : Service}

theorem isSettled_run_start (window : Nat) (service : Service) (es : List Event) :
    ((start window service).run es).IsSettled :=
  isSettled_run es (isSettled_start window service)

theorem nextId_run_start (window : Nat) (service : Service) (es : List Event) :
    ((start window service).run es).scheduler.nextId = asked es := by
  rw [nextId_run es (isSettled_start window service)]
  exact Nat.zero_add _

/-- **What waits is what the open requests have asked for.** -/
theorem mem_waiting_run_iff (tab : Tab) (u : Task) (es : List Event) :
    u ∈ ((start window service).run es).waiting tab ↔
      ∃ r : Request tab es, r.IsOpen (start window service) ∧ r.task (start window service) = u := by
  induction es using List.reverseRecOn with
  | nil =>
      constructor
      · intro hu
        cases hu
      · rintro ⟨r, -⟩
        exact absurd r.split (by simp)
  | append_singleton es e ih =>
      have hsettled := isSettled_run_start window service es
      have hwindow : ((start window service).run es).scheduler.window = window :=
        window_run es (isSettled_start window service)
      have hid := nextId_run_start window service es
      have hstep : (start window service).run (es ++ [e]) = ((start window service).run es).step e :=
        run_append ..
      have hdelivered : ((start window service).run (es ++ [e])).deliveredTo tab
          = ((start window service).run es).deliveredTo tab ↔
            ∀ v ∈ (((start window service).run es).act e).waiting tab,
              (((start window service).run es).act e).scheduler.isDue v = false := by
        rw [hstep]
        exact deliveredTo_step_eq_iff
      have hwaiting := waiting_act hsettled.isTracked tab e
      rw [hstep, step, waiting_settle (isTracked_act hsettled.isTracked e), List.mem_filter,
        Bool.not_eq_true']
      obtain hpage | ⟨url, hpage⟩ := (e.page? tab).eq_none_or_eq_some
      · simp only [hpage] at hwaiting
        rw [Request.exists_isOpen_iff_of_eq_none hpage, hdelivered, ← ih, hwaiting]
        cases e.forgets tab with
        | true => simp
        | false =>
            simp only [Bool.false_eq_true, ↓reduceIte, true_and]
            refine and_congr_right fun hu => ?_
            constructor
            · intro hdue v hv
              rw [eq_of_mem_waiting hsettled.isTracked hv hu]
              exact hdue
            · intro hdue
              exact hdue u hu
      · simp only [hpage, hid, hwindow] at hwaiting
        rw [Request.exists_isOpen_iff_of_eq_some hpage, hdelivered, hwaiting, List.mem_singleton,
          List.forall_mem_singleton, eq_comm]
        refine and_congr_right fun hu => ?_
        rw [← hu]

/-- **A task whose request is not open changes nothing when it finishes.** -/
theorem finish_task_of_not_isOpen {tab : Tab} {es : List Event} (r : Request tab es)
    (h : ¬ r.IsOpen (start window service)) :
    ((start window service).run es).scheduler.finish (r.task (start window service))
      = ((start window service).run es).scheduler := by
  have htracked := (isSettled_run_start window service es).isTracked
  refine htracked.finish_eq_self fun v hv hid => h ?_
  have hwaiting : v ∈ ((start window service).run es).waiting v.tab :=
    List.mem_filter.2 ⟨hv, beq_self_eq_true _⟩
  obtain ⟨q, hopen, htask⟩ := (mem_waiting_run_iff v.tab v es).1 hwaiting
  have hasked : asked q.before = asked r.before := (congrArg Task.id htask).trans hid
  exact Eq.mp (congrArg (fun p : (tab : Tab) × Request tab es => p.2.IsOpen (start window service))
    (Request.eq_of_asked_eq q r hasked)) hopen

/-- The time of an open request has not come. -/
theorem Request.IsOpen.now_lt {tab : Tab} {es : List Event} {r : Request tab es}
    (h : r.IsOpen (start window service)) :
    ((start window service).run es).moment.now
      < ((start window service).run r.before).moment.now + window := by
  have hwaiting := (mem_waiting_run_iff tab _ es).2 ⟨r, h, rfl⟩
  exact (isSettled_run_start window service es).now_lt_due _ (List.mem_of_mem_filter hwaiting)

/-- Once nothing more is asked for and the window is over, nothing waits. -/
theorem tasks_run_append_eq_nil {es later : List Event} (hlater : ∀ e ∈ later, e.refresh? = none)
    (hnow : ((start window service).run es).moment.now + window
      ≤ ((start window service).run (es ++ later)).moment.now) :
    ((start window service).run (es ++ later)).scheduler.tasks = [] := by
  refine List.eq_nil_iff_forall_not_mem.2 fun u hu => ?_
  obtain ⟨r, hopen, -⟩ := (mem_waiting_run_iff u.tab u (es ++ later)).1
    (List.mem_filter.2 ⟨hu, beq_self_eq_true _⟩)
  -- the request is one of the first events, so it is due by now
  have hbefore : r.before <+: es := by
    obtain ⟨mid, hes, -⟩ | ⟨mid, hes, hmid⟩ := List.append_eq_append_iff.1 r.split
    · exact ⟨mid, hes.symm⟩
    · have hmem : r.event ∈ mid ++ r.event :: r.later :=
        List.mem_append_right _ List.mem_cons_self
      rw [← hmid] at hmem
      cases (hlater _ hmem).symm.trans r.refresh?_event
  obtain ⟨mid, hes⟩ := hbefore
  have hle := now_le_run mid (isSettled_run_start window service r.before)
  rw [← run_append, hes] at hle
  have hlt := hopen.now_lt
  omega

/-- **The map of pending refreshes tracks exactly the tabs with an open request.**  However long
refreshes wait and whatever the service is, after every run: no tab and no number occurs twice in
the map; its entries are those of the tasks, and the tasks are those of the open requests, each of
which is the latest one of its tab; the tabs that are counted are those whose latest request is
neither delivered nor forgotten; the task of a request that a newer one of its tab has replaced
changes nothing when it finishes; and the map is empty as soon as the window has passed without a
further request. -/
theorem tracks_open_requests (window : Nat) (service : Service) (es : List Event) :
    let t := start window service
    let s := (t.run es).scheduler
    (s.pending.map Prod.fst).Nodup ∧ (s.pending.map Prod.snd).Nodup ∧
      s.pending = s.tasks.map Task.entry ∧
      (∀ u, u ∈ s.tasks ↔ ∃ r : Request u.tab es, r.IsOpen t ∧ r.task t = u) ∧
      (∃ tabs : Finset Tab, (∀ tab, tab ∈ tabs ↔ ∃ r : Request tab es, r.IsOpen t) ∧
        s.pendingCount = tabs.card) ∧
      (∀ tab, ∀ r : Request tab es, r.IsReplaced → s.finish (r.task t) = s) ∧
      (∀ later, (∀ e ∈ later, e.refresh? = none) →
        s.now + window ≤ (t.run (es ++ later)).scheduler.now →
        (t.run (es ++ later)).scheduler.pending = []) := by
  intro t s
  have htracked : s.IsTracked := (isSettled_run_start window service es).isTracked
  have htabs : s.pending.map Prod.fst = s.tasks.map Task.tab := by
    rw [htracked.pending_eq, List.map_map]
    rfl
  have hids : s.pending.map Prod.snd = s.tasks.map Task.id := by
    rw [htracked.pending_eq, List.map_map]
    rfl
  have hmem : ∀ tab u, (u ∈ s.tasks ∧ u.tab = tab) ↔
      ∃ r : Request tab es, r.IsOpen t ∧ r.task t = u := by
    intro tab u
    rw [← mem_waiting_run_iff tab u es, waiting, List.mem_filter, beq_iff_eq]
  refine ⟨?_, ?_, htracked.pending_eq, ?_, ?_, ?_, ?_⟩
  · rw [htabs]
    exact htracked.nodup_tabs
  · rw [hids]
    exact htracked.nodup_ids
  · intro u
    rw [← hmem, and_iff_left rfl]
  · refine ⟨(s.tasks.map Task.tab).toFinset, ?_, ?_⟩
    · intro tab
      rw [List.mem_toFinset, List.mem_map]
      constructor
      · rintro ⟨u, hu⟩
        obtain ⟨r, hopen, -⟩ := (hmem tab u).1 hu
        exact ⟨r, hopen⟩
      · rintro ⟨r, hopen⟩
        exact ⟨r.task t, (hmem tab _).2 ⟨r, hopen, rfl⟩⟩
    · rw [List.toFinset_card_of_nodup htracked.nodup_tabs, Scheduler.pendingCount,
        htracked.pending_eq, List.length_map, List.length_map]
  · intro tab r hreplaced
    exact finish_task_of_not_isOpen r fun hopen => hopen.not_replaced hreplaced
  · intro later hlater hnow
    have hnone := tasks_run_append_eq_nil hlater hnow
    rw [(isSettled_run_start window service (es ++ later)).isTracked.pending_eq, hnone]
    rfl

/-- Of three tabs, one turns to another page while it waits and one is forgotten: two wait, the task
of the page that was left changes nothing when it finishes, and 100 later nothing waits. -/
theorem tracks_open_requests_three_tabs :
    let t := start 100 (Service.start Proxy.standard Settings.standard)
    let es : List Event := [.schedule 1 "http://a.com/", .schedule 2 "http://b.com/", .advance 60,
      .tabEvent (.activated 1 "http://c.com/"), .schedule 3 "http://a.com/", .forget 2, .advance 50]
    let s := (t.run es).scheduler
    s.pending = [(1, 2), (3, 3)] ∧ s.finish ⟨0, 1, "http://a.com/", 100⟩ = s ∧
      (t.run (es ++ [.forget 4, .advance 100])).scheduler.pending = [] := by
  intro t es s
  obtain ⟨-, -, -, -, -, hfinish, hempty⟩ :=
    tracks_open_requests 100 (Service.start Proxy.standard Settings.standard) es
  let left : Request 1 es := ⟨[], .schedule 1 "http://a.com/", "http://a.com/", es.tail, rfl, rfl⟩
  have hreplaced : left.IsReplaced :=
    ⟨.tabEvent (.activated 1 "http://c.com/"), by simp [left, es], rfl⟩
  refine ⟨by decide +kernel, hfinish 1 left hreplaced, hempty _ ?_ ?_⟩
  · exact List.forall_mem_cons.2 ⟨rfl, List.forall_mem_singleton.2 rfl⟩
  · decide +kernel

end Toolbar

end HostRouting
