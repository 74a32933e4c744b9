/-
**What the scheduler keeps track of.**

The scheduler keeps its tasks in one list and the current task of each tab in another, and a task is
taken away by its number in one place and by its tab in another.  The two lists never come apart:
the second one is the first one, seen by tab and number, and neither a tab nor a number occurs in it
twice.  So taking away by number is the same as taking away by tab, and all that the operations do
is to keep some tasks, and to add one.

Main definitions:

* `Scheduler.IsTracked` — the two lists agree, and tabs and numbers are distinct;
* `Scheduler.keeping` — the scheduler with some of its tasks.

Main results:

* `Scheduler.IsTracked.forget_eq`, `Scheduler.IsTracked.deliver_fst` — forgetting a tab and
  delivering keep some tasks;
* `Scheduler.isTracked_schedule`, `Scheduler.isTracked_forget`, `Scheduler.isTracked_deliver` —
  **the two lists stay in agreement**.
-/

import HostRouting.Icon.Scheduler
import Mathlib.Data.List.Nodup

set_option autoImplicit false

namespace HostRouting

/-- A task as it is found by its tab. -/
def Task.entry (t : Task) : Tab × Nat := (t.tab, t.id)

namespace Scheduler

/-! ### Agreement -/

/-- The two lists agree, and tabs and numbers are distinct. -/
structure IsTracked (s : Scheduler) : Prop where
  pending_eq : s.pending = s.tasks.map Task.entry
  nodup_tabs : (s.tasks.map Task.tab).Nodup
  nodup_ids : (s.tasks.map Task.id).Nodup
  /-- The next number is new. -/
  id_lt : ∀ t ∈ s.tasks, t.id < s.nextId

/-- The scheduler with some of its tasks. -/
def keeping (s : Scheduler) (p : Task → Bool) : Scheduler :=
  { s with tasks := s.tasks.filter p, pending := (s.tasks.filter p).map Task.entry }

variable {s : Scheduler}

@[simp] theorem tasks_keeping (s : Scheduler) (p : Task → Bool) :
    (s.keeping p).tasks = s.tasks.filter p := rfl

@[simp] theorem now_keeping (s : Scheduler) (p : Task → Bool) : (s.keeping p).now = s.now := rfl

@[simp] theorem window_keeping (s : Scheduler) (p : Task → Bool) :
    (s.keeping p).window = s.window := rfl

theorem keeping_keeping (s : Scheduler) (p q : Task → Bool) :
    (s.keeping p).keeping q = s.keeping fun t => q t && p t := by
  simp only [keeping, List.filter_filter]

theorem keeping_congr {p q : Task → Bool} (h : ∀ t ∈ s.tasks, p t = q t) :
    s.keeping p = s.keeping q := by
  rw [keeping, keeping, List.filter_congr h]

/-- A scheduler that keeps everything stays as it is. -/
theorem IsTracked.keeping_eq_self (h : s.IsTracked) {p : Task → Bool}
    (hall : ∀ t ∈ s.tasks, p t = true) : s.keeping p = s := by
  rw [keeping, List.filter_eq_self.2 hall, ← h.pending_eq]

/-- **Keeping some tasks keeps the two lists in agreement.** -/
theorem IsTracked.keeping (h : s.IsTracked) (p : Task → Bool) : (s.keeping p).IsTracked where
  pending_eq := rfl
  nodup_tabs := h.nodup_tabs.sublist (List.filter_sublist.map _)
  nodup_ids := h.nodup_ids.sublist (List.filter_sublist.map _)
  id_lt := fun t ht => h.id_lt t (List.mem_of_mem_filter ht)

theorem isTracked_start (window : Nat) : (start window).IsTracked where
  pending_eq := rfl
  nodup_tabs := List.nodup_nil
  nodup_ids := List.nodup_nil
  id_lt := by intro t ht; cases ht

/-! ### Taking tasks away -/

theorem IsTracked.eq_of_id_eq (h : s.IsTracked) {t u : Task} (ht : t ∈ s.tasks)
    (hu : u ∈ s.tasks) (hid : t.id = u.id) : t = u :=
  List.inj_on_of_nodup_map h.nodup_ids ht hu hid

theorem IsTracked.eq_of_tab_eq (h : s.IsTracked) {t u : Task} (ht : t ∈ s.tasks)
    (hu : u ∈ s.tasks) (htab : t.tab = u.tab) : t = u :=
  List.inj_on_of_nodup_map h.nodup_tabs ht hu htab

/-- A task that is found by its tab is there, and carries the number that was found. -/
theorem IsTracked.exists_of_lookup (h : s.IsTracked) {tab : Tab} {id : Nat}
    (hlookup : s.pending.lookup tab = some id) :
    ∃ t ∈ s.tasks, t.tab = tab ∧ t.id = id := by
  obtain ⟨before, after, hpending, -⟩ := List.lookup_eq_some_iff.1 hlookup
  have hmem : (tab, id) ∈ s.tasks.map Task.entry := by
    rw [← h.pending_eq, hpending]
    exact List.mem_append_right _ List.mem_cons_self
  obtain ⟨t, ht, hentry⟩ := List.mem_map.1 hmem
  exact ⟨t, ht, congrArg Prod.fst hentry, congrArg Prod.snd hentry⟩

/-- Forgetting a tab takes away the tasks of that tab. -/
theorem IsTracked.forget_eq (h : s.IsTracked) (tab : Tab) :
    s.forget tab = s.keeping (·.tab != tab) := by
  rw [forget]
  split
  · next hnone =>
      -- no task of that tab is there
      rw [h.keeping_eq_self]
      intro t ht
      rw [List.lookup_eq_none_iff, h.pending_eq] at hnone
      have hne : tab ≠ t.tab := bne_iff_ne.1 (hnone t.entry (List.mem_map_of_mem ht))
      exact bne_iff_ne.2 hne.symm
  · next id hsome =>
      obtain ⟨t, ht, rfl, rfl⟩ := h.exists_of_lookup hsome
      have hsame : ∀ u ∈ s.tasks, (u.id != t.id) = (u.tab != t.tab) := by
        intro u hu
        rw [Bool.eq_iff_iff, bne_iff_ne, bne_iff_ne, not_iff_not]
        exact ⟨fun hid => congrArg Task.tab (h.eq_of_id_eq hu ht hid),
          fun htab => congrArg Task.id (h.eq_of_tab_eq hu ht htab)⟩
      have htasks : s.tasks.filter (·.id != t.id) = s.tasks.filter (·.tab != t.tab) :=
        List.filter_congr hsame
      have hpending : s.pending.filter (·.1 != t.tab)
          = (s.tasks.filter (·.tab != t.tab)).map Task.entry := by
        rw [h.pending_eq, List.filter_map]
        rfl
      rw [Scheduler.keeping, htasks, hpending]

/-- A task that has run is taken away, and nothing else is. -/
theorem IsTracked.finish_eq (h : s.IsTracked) {t : Task} (ht : t ∈ s.tasks) :
    s.finish t = s.keeping (· != t) := by
  have hid : ∀ u ∈ s.tasks, (u.id != t.id) = (u != t) := by
    intro u hu
    rw [Bool.eq_iff_iff, bne_iff_ne, bne_iff_ne, not_iff_not]
    exact ⟨h.eq_of_id_eq hu ht, congrArg Task.id⟩
  have hentry : ∀ u ∈ s.tasks, (u.entry != t.entry) = (u != t) := by
    intro u hu
    rw [Bool.eq_iff_iff, bne_iff_ne, bne_iff_ne, not_iff_not]
    exact ⟨fun he => h.eq_of_id_eq hu ht (congrArg Prod.snd he), congrArg Task.entry⟩
  have hpending : s.pending.filter (· != (t.tab, t.id))
      = (s.tasks.filter (· != t)).map Task.entry := by
    rw [h.pending_eq, List.filter_map]
    exact congrArg (List.map Task.entry) (List.filter_congr hentry)
  rw [finish, Scheduler.keeping, hpending, List.filter_congr hid]

/-- Tasks that have run one after the other are taken away together. -/
theorem IsTracked.foldl_finish (ts : List Task) : ∀ {s : Scheduler}, s.IsTracked →
    ts.Nodup → (∀ t ∈ ts, t ∈ s.tasks) → ts.foldl finish s = s.keeping (!ts.contains ·) := by
  induction ts with
  | nil =>
      intro s h _ _
      exact (h.keeping_eq_self fun _ _ => rfl).symm
  | cons t ts ih =>
      intro s h hnodup hmem
      rw [List.nodup_cons] at hnodup
      rw [List.forall_mem_cons] at hmem
      have hrest : ∀ u ∈ ts, u ∈ (s.keeping (· != t)).tasks := by
        intro u hu
        refine List.mem_filter.2 ⟨hmem.2 u hu, bne_iff_ne.2 ?_⟩
        rintro rfl
        exact hnodup.1 hu
      rw [List.foldl_cons, h.finish_eq hmem.1, ih (h.keeping _) hnodup.2 hrest, keeping_keeping]
      refine keeping_congr fun u _ => ?_
      rw [List.contains_cons, Bool.not_or, Bool.and_comm]
      rfl

/-- Delivering takes away the tasks whose time has come. -/
theorem IsTracked.deliver_fst (h : s.IsTracked) (live : Snapshot) :
    (s.deliver live).1 = s.keeping (!s.isDue ·) := by
  have hnodup : (s.tasks.filter s.isDue).Nodup :=
    (List.Nodup.of_map Task.id h.nodup_ids).sublist List.filter_sublist
  have hfold := h.foldl_finish _ hnodup fun t ht => List.mem_of_mem_filter ht
  refine hfold.trans (keeping_congr fun t ht => ?_)
  congr 1
  rw [Bool.eq_iff_iff, List.contains_iff_mem, List.mem_filter]
  exact and_iff_right ht

/-! ### Agreement is kept -/

theorem isTracked_forget (h : s.IsTracked) (tab : Tab) : (s.forget tab).IsTracked := by
  rw [h.forget_eq]
  exact h.keeping _

/-- What a refresh of a tab leaves waiting. -/
theorem IsTracked.tasks_schedule (h : s.IsTracked) (tab : Tab) (url : String) :
    (s.schedule tab url).tasks
      = s.tasks.filter (·.tab != tab) ++ [⟨s.nextId, tab, url, s.now + s.window⟩] := by
  rw [schedule, h.forget_eq]
  rfl

/-- **A refresh of a tab keeps the two lists in agreement.** -/
theorem isTracked_schedule (h : s.IsTracked) (tab : Tab) (url : String) :
    (s.schedule tab url).IsTracked := by
  have hkept := isTracked_forget h tab
  have hid : (s.forget tab).nextId = s.nextId := by rw [h.forget_eq]; rfl
  have htab : ∀ t ∈ (s.forget tab).tasks, t.tab ≠ tab := by
    intro t ht
    rw [h.forget_eq, tasks_keeping, List.mem_filter] at ht
    exact bne_iff_ne.1 ht.2
  constructor
  · simp only [schedule, hkept.pending_eq, List.map_append]
    rfl
  · simp only [schedule, List.map_append]
    refine List.Nodup.append hkept.nodup_tabs (List.nodup_singleton _) ?_
    intro other hother hnew
    obtain ⟨t, ht, rfl⟩ := List.mem_map.1 hother
    exact htab t ht (List.mem_singleton.1 hnew)
  · simp only [schedule, List.map_append]
    refine List.Nodup.append hkept.nodup_ids (List.nodup_singleton _) ?_
    intro other hother hnew
    obtain ⟨t, ht, rfl⟩ := List.mem_map.1 hother
    exact Nat.ne_of_lt (hkept.id_lt t ht) (List.mem_singleton.1 hnew)
  · intro t ht
    simp only [schedule, List.mem_append, List.mem_singleton] at ht
    rcases ht with hold | rfl
    · exact Nat.lt_succ_of_lt (hkept.id_lt t hold)
    · exact Nat.lt_succ_self _

theorem isTracked_onEvent (h : s.IsTracked) (e : TabEvent) : (s.onEvent e).IsTracked := by
  rw [onEvent]
  split
  · exact isTracked_schedule h _ _
  · exact h

theorem isTracked_advance (h : s.IsTracked) (time : Nat) : (s.advance time).IsTracked :=
  ⟨h.pending_eq, h.nodup_tabs, h.nodup_ids, h.id_lt⟩

theorem isTracked_deliver (h : s.IsTracked) (live : Snapshot) :
    (s.deliver live).1.IsTracked := by
  rw [h.deliver_fst]
  exact h.keeping _

/-! ### Clock and window -/

@[simp] theorem now_forget (s : Scheduler) (tab : Tab) : (s.forget tab).now = s.now := by
  rw [forget]
  split <;> rfl

@[simp] theorem window_forget (s : Scheduler) (tab : Tab) :
    (s.forget tab).window = s.window := by
  rw [forget]
  split <;> rfl

@[simp] theorem now_schedule (s : Scheduler) (tab : Tab) (url : String) :
    (s.schedule tab url).now = s.now := now_forget s tab

@[simp] theorem window_schedule (s : Scheduler) (tab : Tab) (url : String) :
    (s.schedule tab url).window = s.window := window_forget s tab

@[simp] theorem now_onEvent (s : Scheduler) (e : TabEvent) : (s.onEvent e).now = s.now := by
  rw [onEvent]
  split
  · exact now_schedule ..
  · rfl

@[simp] theorem window_onEvent (s : Scheduler) (e : TabEvent) :
    (s.onEvent e).window = s.window := by
  rw [onEvent]
  split
  · exact window_schedule ..
  · rfl

end Scheduler

end HostRouting
