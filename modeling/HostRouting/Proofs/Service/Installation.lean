/-
**Installation in order.**

Next to the service runs one task that hands settings to the system: it takes the oldest setting
that waits, hands it over, learns how that ended, and goes on with the next one.  Operations and
readers may come between any two of its steps, and any installation may fail.  Nothing the service
does waits for the task, and nothing the task does reaches back into the service, so what is handed
over is read off the operations alone.

Main definitions:

* `Installation` — the service, the task, and what has been handed over and answered so far;
* `Installation.Event`, `Installation.step`, `Installation.run` — what can happen next, and what
  comes of it;
* `Installation.due` — the settings of the snapshots that operations make, in their order.

Main results:

* `Installation.handed_append_queue` — **conservation**: what was handed over, followed by what
  waits, is what was due;
* `Installation.Agrees.run` — how installations end is of no consequence;
* `Installation.installs_in_order` — the settings are handed over in order, none is lost or
  repeated, and the last one is that of the live snapshot.
-/

import HostRouting.Proofs.Service.Operation

set_option autoImplicit false

namespace HostRouting

/-- The service together with the task that installs settings. -/
structure Installation where
  service : Service
  /-- Whether an installation is under way. -/
  isBusy : Bool
  /-- The settings handed to the system, oldest first. -/
  handed : List Setting
  /-- How installations ended, oldest first. -/
  outcomes : List Bool
  /-- What readers were answered, oldest first. -/
  answers : List Decision

namespace Installation

/-! ### Steps -/

/-- What can happen next. -/
inductive Event where
  /-- An operation on the service. -/
  | operation (o : Operation)
  /-- A reader asks where a host goes. -/
  | read (host : String)
  /-- The task hands over the setting that has waited longest. -/
  | handOver
  /-- The installation that is under way ends. -/
  | finish (succeeded : Bool)

/-- The beginning: the service has started, and nothing has been handed over. -/
def start (fallback : Proxy) (settings : Settings) : Installation :=
  ⟨.start fallback settings, false, [], [], []⟩

/-- What comes of an event.  The task hands over nothing while it is busy or while nothing waits,
and nothing ends while it is idle. -/
def step (i : Installation) : Event → Installation
  | .operation o => { i with service := i.service.perform o }
  | .read host => { i with answers := i.answers ++ [i.service.live.decision host] }
  | .handOver =>
      match i.isBusy, i.service.queue with
      | false, setting :: rest =>
          { i with
            service := { i.service with queue := rest }
            isBusy := true
            handed := i.handed ++ [setting] }
      | _, _ => i
  | .finish succeeded =>
      if i.isBusy then { i with isBusy := false, outcomes := i.outcomes ++ [succeeded] } else i

/-- What comes of events, the first one first. -/
def run (i : Installation) (es : List Event) : Installation := es.foldl step i

/-- The setting that an event makes due: that of the new snapshot if it is an operation that changes
the configuration. -/
def dueAt (i : Installation) : Event → List Setting
  | .operation o =>
      let next := i.service.perform o
      if next.config = i.service.config then [] else [next.live.setting]
  | _ => []

/-- The settings that events make due, in the order of the events. -/
def due (i : Installation) : List Event → List Setting
  | [] => []
  | e :: es => i.dueAt e ++ due (i.step e) es

@[simp] theorem run_nil (i : Installation) : i.run [] = i := rfl

@[simp] theorem run_cons (i : Installation) (e : Event) (es : List Event) :
    i.run (e :: es) = (i.step e).run es := rfl

/-! ### What the task leaves alone -/

theorem handOver_eq (i : Installation) :
    (i.step .handOver).service.live = i.service.live ∧
      (i.step .handOver).service.settings = i.service.settings ∧
      (i.step .handOver).handed ++ (i.step .handOver).service.queue
        = i.handed ++ i.service.queue := by
  rw [step]
  split
  · next h => simp [h]
  · exact ⟨rfl, rfl, rfl⟩

/-- The end of an installation changes nothing but whether the task is busy. -/
theorem finish_eq (i : Installation) (succeeded : Bool) :
    (i.step (.finish succeeded)).service = i.service ∧
      (i.step (.finish succeeded)).handed = i.handed := by
  rw [step]
  split <;> exact ⟨rfl, rfl⟩

/-! ### Conservation -/

/-- A single event adds what it makes due to what was handed over or waits. -/
theorem handed_append_queue_step (i : Installation) (e : Event) :
    (i.step e).handed ++ (i.step e).service.queue
      = i.handed ++ i.service.queue ++ i.dueAt e := by
  cases e with
  | operation o =>
      have hq := Service.queue_perform i.service o
      by_cases hc : (i.service.perform o).config = i.service.config <;>
        simp [step, dueAt, hq, hc]
  | read host => simp [step, dueAt]
  | handOver => simpa [dueAt] using (handOver_eq i).2.2
  | finish succeeded => simp [dueAt, finish_eq]

/-- **Conservation**: what was handed over, followed by what waits, is what was handed over or
waited before, followed by what became due. -/
theorem handed_append_queue (es : List Event) : ∀ i : Installation,
    (i.run es).handed ++ (i.run es).service.queue = i.handed ++ i.service.queue ++ due i es := by
  induction es with
  | nil => intro i; simp [due]
  | cons e es ih =>
      intro i
      rw [run_cons, ih (i.step e), handed_append_queue_step, due, List.append_assoc,
        List.append_assoc]

/-! ### Freshness -/

/-- Whether the setting that is handed over last, once all that waits has been, is that of the live
snapshot. -/
def IsFresh (i : Installation) : Prop :=
  (i.handed ++ i.service.queue).getLast? = some i.service.live.setting

theorem isFresh_step {i : Installation} (h : i.IsFresh) (e : Event) : (i.step e).IsFresh := by
  cases e with
  | operation o =>
      have hq := Service.queue_perform i.service o
      unfold IsFresh
      simp only [step, hq]
      split
      · next hc =>
          -- nothing is queued, so the live snapshot must not have changed
          have hl : (i.service.perform o).live = i.service.live :=
            Snapshot.ext_config (Service.fallback_perform i.service o) hc
          rw [hl]
          exact h
      · rw [← List.append_assoc, List.getLast?_concat]
  | read host => exact h
  | handOver =>
      -- the setting only moves from the front of the queue to the end of what was handed over
      obtain ⟨hl, -, hq⟩ := handOver_eq i
      rw [IsFresh, hq, hl]
      exact h
  | finish succeeded =>
      obtain ⟨hs, hh⟩ := finish_eq i succeeded
      rw [IsFresh, hs, hh]
      exact h

theorem isFresh_run (es : List Event) : ∀ {i : Installation}, i.IsFresh → (i.run es).IsFresh := by
  induction es with
  | nil => intro i h; exact h
  | cons e es ih => intro i h; exact ih (isFresh_step h e)

/-! ### Outcomes -/

/-- Whether two installations agree on everything but outcomes and answers. -/
structure Agrees (i j : Installation) : Prop where
  service : i.service = j.service
  isBusy : i.isBusy = j.isBusy
  handed : i.handed = j.handed

/-- Nothing that happens next depends on outcomes and answers. -/
theorem Agrees.step {i j : Installation} (h : i.Agrees j) (e : Event) :
    (i.step e).Agrees (j.step e) := by
  obtain ⟨s, b, hd, os, as⟩ := i
  obtain ⟨s', b', hd', os', as'⟩ := j
  obtain ⟨rfl, rfl, rfl⟩ := h
  cases e with
  | operation o => exact ⟨rfl, rfl, rfl⟩
  | read host => exact ⟨rfl, rfl, rfl⟩
  | handOver =>
      obtain ⟨settings, live, queue⟩ := s
      cases b <;> cases queue <;> exact ⟨rfl, rfl, rfl⟩
  | finish succeeded => cases b <;> exact ⟨rfl, rfl, rfl⟩

theorem Agrees.run (es : List Event) : ∀ {i j : Installation}, i.Agrees j →
    (i.run es).Agrees (j.run es) := by
  induction es with
  | nil => intro i j h; exact h
  | cons e es ih => intro i j h; exact ih (h.step e)

theorem finish_agrees (i : Installation) (a b : Bool) :
    (i.step (.finish a)).Agrees (i.step (.finish b)) := by
  obtain ⟨s, busy, hd, os, as⟩ := i
  cases busy <;> exact ⟨rfl, rfl, rfl⟩

/-! ### The order of installations -/

/-- **Settings are installed in order.**  However operations, readers and the task take turns, and
whichever installations fail: what was handed over is the beginning of the list of settings that
became due, and what waits is its rest; an operation that leaves the configuration as it is adds
nothing to the queue, and any other adds the setting of its snapshot; the last setting of the list
is that of the live snapshot, so it is also the last one handed over once nothing waits; neither the
end of an installation nor a reader changes anything about the service or about what was handed
over; and whether an installation fails makes no difference to either, then or later. -/
theorem installs_in_order (fallback : Proxy) (settings : Settings) (es : List Event) :
    let i := (start fallback settings).run es
    let all := (Service.start fallback settings).live.setting :: due (start fallback settings) es
    i.handed <+: all ∧
      i.handed ++ i.service.queue = all ∧
      all.getLast? = some i.service.live.setting ∧
      (i.service.queue = [] → i.handed.getLast? = some i.service.live.setting) ∧
      (∀ o, (i.step (.operation o)).service.queue =
        if (i.step (.operation o)).service.config = i.service.config then i.service.queue
        else i.service.queue ++ [(i.step (.operation o)).service.live.setting]) ∧
      (∀ succeeded, (i.step (.finish succeeded)).service = i.service ∧
        (i.step (.finish succeeded)).handed = i.handed) ∧
      (∀ host, (i.step (.read host)).service = i.service ∧
        (i.step (.read host)).handed = i.handed) ∧
      ∀ later, ((i.step (.finish false)).run later).Agrees ((i.step (.finish true)).run later) := by
  intro i all
  have hall : i.handed ++ i.service.queue = all := handed_append_queue es (start fallback settings)
  have hfresh : i.IsFresh := isFresh_run es (i := start fallback settings) rfl
  refine ⟨⟨_, hall⟩, hall, hall ▸ hfresh, ?_, ?_, finish_eq i, fun _ => ⟨rfl, rfl⟩,
    fun later => (finish_agrees i false true).run later⟩
  · intro hq
    rw [IsFresh, hq, List.append_nil] at hfresh
    exact hfresh
  · exact Service.queue_perform i.service

end Installation

end HostRouting
