/-
**When icons are refreshed.**

Events come in bursts, so a refresh waits for a while, and a newer one for the same tab takes its
place.  A task stands for each refresh that waits; a map from tabs to tasks says which one is
current.  When the clock reaches the time of a task, the icon is decided under the snapshot of that
moment, and the tab leaves the map unless a newer task has taken it over.

Main definitions:

* `Task`, `Scheduler` — a refresh that waits, and all of them with the clock;
* `Scheduler.schedule`, `Scheduler.onEvent`, `Scheduler.forget` — what changes them;
* `Scheduler.advance`, `Scheduler.deliver` — time passes, and what is due is delivered.
-/

import HostRouting.Icon.Page
import HostRouting.Icon.TabEvent

set_option autoImplicit false

namespace HostRouting

/-- A refresh that waits. -/
structure Task where
  id : Nat
  tab : Tab
  url : String
  /-- The time at which it is delivered. -/
  due : Nat
  deriving DecidableEq, Repr

/-- The refreshes that wait, and the clock. -/
structure Scheduler where
  /-- How long a refresh waits. -/
  window : Nat
  now : Nat
  /-- The number of the next task.  It is not bounded; a counter of 64 bits would begin anew after 2^64
  tasks, more than are ever scheduled. -/
  nextId : Nat
  tasks : List Task
  /-- The task of each tab that has one. -/
  pending : List (Tab × Nat)
  deriving DecidableEq, Repr

namespace Scheduler

/-- How long a refresh waits unless told otherwise. -/
def standardWindow : Nat := 100

/-- The scheduler with nothing to do. -/
def start (window : Nat) : Scheduler := ⟨window, 0, 0, [], []⟩

/-- The number of tabs with a refresh that waits. -/
def pendingCount (s : Scheduler) : Nat := s.pending.length

/-- The scheduler without the refresh of a tab. -/
def forget (s : Scheduler) (tab : Tab) : Scheduler :=
  match s.pending.lookup tab with
  | none => s
  | some id =>
      { s with
        tasks := s.tasks.filter (·.id != id)
        pending := s.pending.filter (·.1 != tab) }

/-- The scheduler with a refresh of a tab, in place of one that waits. -/
def schedule (s : Scheduler) (tab : Tab) (url : String) : Scheduler :=
  let s := s.forget tab
  { s with
    nextId := s.nextId + 1
    tasks := s.tasks ++ [⟨s.nextId, tab, url, s.now + s.window⟩]
    pending := s.pending ++ [(tab, s.nextId)] }

/-- The scheduler after an event. -/
def onEvent (s : Scheduler) (e : TabEvent) : Scheduler :=
  match e.refresh? with
  | some (tab, url) => s.schedule tab url
  | none => s

/-- The scheduler after some time. -/
def advance (s : Scheduler) (time : Nat) : Scheduler := { s with now := s.now + time }

/-- Whether the time of a task has come. -/
def isDue (s : Scheduler) (t : Task) : Bool := t.due ≤ s.now

/-- The scheduler once a task has run. -/
def finish (s : Scheduler) (t : Task) : Scheduler :=
  { s with
    tasks := s.tasks.filter (·.id != t.id)
    pending := s.pending.filter (· != (t.tab, t.id)) }

/-- The scheduler once all tasks whose time has come have run, and the icons they set. -/
def deliver (s : Scheduler) (live : Snapshot) : Scheduler × List (Tab × Badge) :=
  let due := s.tasks.filter s.isDue
  (due.foldl finish s, due.map fun t => (t.tab, live.badge t.url))

end Scheduler

end HostRouting
