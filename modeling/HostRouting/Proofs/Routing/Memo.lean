/-
**Memory does not show.**

Deciders are updated into further deciders, in any order and from any of those that are there, so
that they form a tree; meanwhile any of them may be asked where hosts go.  Each has a cache of its
own, which may drop answers at any time.  None of this shows in an answer: a decider answers as one
that is built anew from the initial configuration with the updates on its way through the tree, and
whose cache has not been used.  What carries this is that a cache never gets to hold anything but
what the rules of its own snapshot say, and that nothing done to one decider touches another.

Main definitions:

* `Query`, `Answer`, `Decider.answer` — what a decider may be asked, and its answer;
* `Family`, `Family.Event`, `Family.run` — the deciders of a tree, and what comes of updates and
  queries;
* `Family.lineages` — the updates on the way to each decider.

Main results:

* `Decider.answer_eq` — one answer is right and keeps what is remembered right;
* `Family.fits_step`, `Family.fits_run` — so do updates and queries of a whole tree, whose snapshots
  stay those of their lineages;
* `Family.answers_like_new` — **every decider of a tree answers like a new one**, and nothing that
  happens later changes its answers.
-/

import HostRouting.Routing.Decider

set_option autoImplicit false

namespace HostRouting

/-! ### One decider -/

/-- What a decider may be asked. -/
inductive Query where
  | target (host : String)
  | decision (host : String)
  deriving DecidableEq, Repr

/-- What a decider answers. -/
inductive Answer where
  | target (t : Target)
  | decision (d : Decision)
  deriving DecidableEq, Repr

/-- What a snapshot says to a query, without remembering anything. -/
def Snapshot.answer (s : Snapshot) : Query → Answer
  | .target host => .target (s.target host)
  | .decision host => .decision (s.decision host)

namespace Decider

/-- The answer to a query, and the decider after it. -/
def answer (d : Decider) : Query → Answer × Decider
  | .target host => (.target (d.target host).1, (d.target host).2)
  | .decision host => (.decision (d.decision host).1, (d.decision host).2)

/-- Nothing was inserted into the cache but what the rules of the snapshot say. -/
def IsTrue (d : Decider) : Prop :=
  ∀ host target, Access.lastInserted? d.accesses host = some target →
    target = d.snapshot.rules.target d.snapshot.config.mode host

theorem isTrue_ofSnapshot (cache : Cache) (s : Snapshot) : (ofSnapshot cache s).IsTrue := by
  intro host target h
  cases h

/-- What the cache of a decider answers is what the rules say. -/
theorem IsTrue.get?_eq {d : Decider} (h : d.IsTrue) {host : String} {found : Target}
    (hfound : d.cache.get? d.accesses host = some found) :
    found = d.snapshot.rules.target d.snapshot.config.mode host := by
  rcases d.cache.get?_eq d.accesses host with hnone | hlast
  · rw [hnone] at hfound
    cases hfound
  · exact h host found (hlast ▸ hfound)

/-- Where a host goes does not depend on what is remembered, and asking keeps the snapshot and the
truth of what is remembered. -/
theorem target_eq {d : Decider} (h : d.IsTrue) (host : String) :
    (d.target host).1 = d.snapshot.target host ∧
      (d.target host).2.snapshot = d.snapshot ∧ (d.target host).2.IsTrue := by
  rw [target, Snapshot.target]
  split
  · exact ⟨rfl, rfl, h⟩
  · cases hfound : d.cache.get? d.accesses host with
    | some found => exact ⟨h.get?_eq hfound, rfl, h⟩
    | none =>
        refine ⟨rfl, rfl, ?_⟩
        intro other target hlast
        rw [Access.lastInserted?_insert] at hlast
        split at hlast
        · next heq =>
            subst heq
            exact (Option.some.inj hlast).symm
        · exact h other target hlast

/-- One answer is what the snapshot says, and keeps the snapshot and the truth of what is
remembered. -/
theorem answer_eq {d : Decider} (h : d.IsTrue) (q : Query) :
    (d.answer q).1 = d.snapshot.answer q ∧
      (d.answer q).2.snapshot = d.snapshot ∧ (d.answer q).2.IsTrue := by
  cases q with
  | target host =>
      obtain ⟨htarget, hnext⟩ := target_eq h host
      exact ⟨congrArg Answer.target htarget, hnext⟩
  | decision host =>
      obtain ⟨htarget, hnext⟩ := target_eq h host
      exact ⟨congrArg (fun t => Answer.decision (.ofTarget d.snapshot.proxy t)) htarget, hnext⟩

end Decider

/-! ### Families -/

/-- The deciders of a tree, numbered in the order in which they came about. -/
structure Family where
  members : List Decider
  /-- The caches of the deciders, by their numbers. -/
  caches : Nat → Cache

namespace Family

/-- What can happen to a family. -/
inductive Event where
  /-- A decider is updated, which adds a new one. -/
  | update (number : Nat) (u : Config.Update)
  /-- A decider is asked. -/
  | query (number : Nat) (q : Query)

/-- The family of a single decider. -/
def start (caches : Nat → Cache) (fallback : Proxy) (c : Config) : Family :=
  ⟨[.ofSnapshot (caches 0) (.ofConfig fallback c)], caches⟩

/-- The family after an event; nothing happens to a decider that is not there. -/
def step (f : Family) : Event → Family
  | .update number u =>
      let added := f.members[number]?.map fun d => d.updated (f.caches f.members.length) u
      { f with members := f.members ++ added.toList }
  | .query number q => { f with members := f.members.modify number fun d => (d.answer q).2 }

/-- The family after events, the first one first. -/
def run (f : Family) (es : List Event) : Family := es.foldl step f

/-- The answer of a decider, if it is there. -/
def answer? (f : Family) (number : Nat) (q : Query) : Option Answer :=
  f.members[number]?.map fun d => (d.answer q).1

/-- The lineages after an event: an update adds the lineage of its decider and itself. -/
def grown (lineages : List (List Config.Update)) : Event → List (List Config.Update)
  | .update number u => lineages ++ (lineages[number]?.map (· ++ [u])).toList
  | .query .. => lineages

/-- The updates on the way from the initial configuration to each decider, the first one first. -/
def lineages (es : List Event) : List (List Config.Update) := es.foldl grown [[]]

/-- The snapshot that is built from the initial configuration with the updates of a lineage. -/
def rebuilt (fallback : Proxy) (c : Config) (us : List Config.Update) : Snapshot :=
  .ofConfig fallback (us.foldl Config.merge c)

/-- The snapshots of a family are those of given lineages, and its deciders remember the truth. -/
structure Fits (f : Family) (fallback : Proxy) (c : Config) (ls : List (List Config.Update)) :
    Prop where
  snapshots : f.members.map Decider.snapshot = ls.map (rebuilt fallback c)
  isTrue : ∀ d ∈ f.members, d.IsTrue

theorem fits_start (caches : Nat → Cache) (fallback : Proxy) (c : Config) :
    (start caches fallback c).Fits fallback c [[]] where
  snapshots := rfl
  isTrue := by
    intro d hd
    rw [List.mem_singleton.1 hd]
    exact Decider.isTrue_ofSnapshot _ _

/-- An update of a snapshot is the next update of its lineage. -/
theorem rebuilt_append (fallback : Proxy) (c : Config) (us : List Config.Update)
    (u : Config.Update) :
    rebuilt fallback c (us ++ [u]) = (rebuilt fallback c us).updated u := by
  rw [rebuilt, List.foldl_append]
  rfl

/-- Two options that look alike stay so under functions that go by their looks. -/
theorem map_eq_map_of_eq {α β γ δ : Type} {look : α → γ} {look' : β → γ} {view : α → δ}
    {view' : β → δ} {a? : Option α} {b? : Option β} (h : a?.map look = b?.map look')
    (hview : ∀ a, a? = some a → ∀ b, look a = look' b → view a = view' b) :
    a?.map view = b?.map view' := by
  cases a? with
  | none =>
      rw [Option.map_none, eq_comm, Option.map_eq_none_iff] at h
      rw [h]
      rfl
  | some a =>
      rw [Option.map_some, eq_comm] at h
      obtain ⟨b, rfl, hlook⟩ := Option.map_eq_some_iff.1 h
      exact congrArg some (hview a rfl b hlook.symm)

/-- Changing one element in a way that a function does not see is not seen by the function. -/
theorem map_modify_eq {α β : Type} {view : α → β} {change : α → α} {as : List α}
    (h : ∀ a ∈ as, view (change a) = view a) (number : Nat) :
    (as.modify number change).map view = as.map view := by
  induction as generalizing number with
  | nil => simp
  | cons a as ih =>
      rw [List.forall_mem_cons] at h
      cases number with
      | zero => simp [h.1]
      | succ number => simp [ih h.2 number]

theorem forall_mem_modify {α : Type} {p : α → Prop} {change : α → α} {as : List α}
    (h : ∀ a ∈ as, p a) (hchange : ∀ a ∈ as, p (change a)) (number : Nat) :
    ∀ a ∈ as.modify number change, p a := by
  induction as generalizing number with
  | nil => simp
  | cons a as ih =>
      rw [List.forall_mem_cons] at h hchange
      cases number with
      | zero => simpa using ⟨hchange.1, h.2⟩
      | succ number => simpa using ⟨h.1, ih h.2 hchange.2 number⟩

variable {f : Family} {fallback : Proxy} {c : Config} {ls : List (List Config.Update)}

/-- If a decider has the snapshot of its lineage, so has the one that an update of it adds. -/
theorem snapshots_added {d? : Option Decider} {us? : Option (List Config.Update)}
    (h : d?.map Decider.snapshot = us?.map (rebuilt fallback c)) (u : Config.Update)
    (cache : Cache) :
    (d?.map fun d => d.updated cache u).toList.map Decider.snapshot
      = (us?.map (· ++ [u])).toList.map (rebuilt fallback c) := by
  have hadded : (d?.map fun d => (d.updated cache u).snapshot)
      = us?.map fun us => rebuilt fallback c (us ++ [u]) := by
    refine map_eq_map_of_eq h ?_
    intro d _ us hsnapshot
    rw [Decider.snapshot_updated, hsnapshot, rebuilt_append]
  have hlists := congrArg Option.toList hadded
  simpa only [Option.toList_map, List.map_map, Function.comp_def] using hlists

theorem Fits.getElem?_eq (h : f.Fits fallback c ls) (number : Nat) :
    f.members[number]?.map Decider.snapshot = ls[number]?.map (rebuilt fallback c) := by
  rw [← List.getElem?_map, h.snapshots, List.getElem?_map]

theorem fits_step (h : f.Fits fallback c ls) (e : Event) :
    (f.step e).Fits fallback c (grown ls e) := by
  cases e with
  | update number u =>
      constructor
      · simp only [step, grown, List.map_append, h.snapshots, List.append_cancel_left_eq]
        exact snapshots_added (h.getElem?_eq number) u _
      · -- the cache of the new decider has not been used
        simp only [step, List.forall_mem_append]
        refine ⟨h.isTrue, ?_⟩
        intro d hd
        obtain ⟨parent, -, rfl⟩ := Option.map_eq_some_iff.1 (Option.mem_toList.1 hd)
        exact Decider.isTrue_ofSnapshot _ _
  | query number q =>
      constructor
      · have hkeep : ∀ d ∈ f.members, (d.answer q).2.snapshot = d.snapshot :=
          fun d hd => (Decider.answer_eq (h.isTrue d hd) q).2.1
        exact (map_modify_eq hkeep number).trans h.snapshots
      · exact forall_mem_modify h.isTrue
          (fun d hd => (Decider.answer_eq (h.isTrue d hd) q).2.2) number

theorem fits_run (es : List Event) : ∀ {f : Family} {ls : List (List Config.Update)},
    f.Fits fallback c ls → (f.run es).Fits fallback c (es.foldl grown ls) := by
  induction es with
  | nil => intro f ls h; exact h
  | cons e es ih => intro f ls h; exact ih (fits_step h e)

/-- What a decider answers is what the snapshot of its lineage says. -/
theorem Fits.answer?_eq (h : f.Fits fallback c ls) (number : Nat) (q : Query) :
    f.answer? number q = ls[number]?.map fun us => (rebuilt fallback c us).answer q := by
  refine map_eq_map_of_eq (h.getElem?_eq number) ?_
  intro d hd us hsnapshot
  rw [(Decider.answer_eq (h.isTrue d (List.mem_of_getElem? hd)) q).1, hsnapshot]

/-- What happens later leaves the lineages that are there. -/
theorem grown_prefix (es : List Event) : ∀ ls : List (List Config.Update),
    ls <+: es.foldl grown ls := by
  induction es with
  | nil => intro ls; exact List.prefix_rfl
  | cons e es ih =>
      intro ls
      refine List.IsPrefix.trans ?_ (ih (grown ls e))
      cases e with
      | update number u => exact List.prefix_append ..
      | query number q => exact List.prefix_rfl

/-- **Every decider of a tree answers like a new one.**  Whatever updates and queries have come
about so far, in whatever order and with whatever caches: the snapshot of each decider is built from
the initial configuration with the updates of its lineage in their order and from the initial
fallback, and with it the configuration, the rules, the proxy, the script and the setting for the
system; to each query the decider answers what a decider answers that is new from this snapshot,
with any cache; and nothing that happens later changes what it answers. -/
theorem answers_like_new (caches : Nat → Cache) (fallback : Proxy) (c : Config)
    (es : List Event) :
    let f := (start caches fallback c).run es
    (∀ number : Nat, f.members[number]?.map Decider.snapshot
        = (lineages es)[number]?.map (rebuilt fallback c)) ∧
      (∀ number q cache, f.answer? number q = (lineages es)[number]?.map fun us =>
        ((Decider.ofSnapshot cache (rebuilt fallback c us)).answer q).1) ∧
      ∀ number q a later, f.answer? number q = some a →
        (f.run later).answer? number q = some a := by
  intro f
  have hfits : f.Fits fallback c (lineages es) := fits_run es (fits_start caches fallback c)
  refine ⟨hfits.getElem?_eq, ?_, ?_⟩
  · intro number q cache
    have hnew (us : List Config.Update) :=
      (Decider.answer_eq (Decider.isTrue_ofSnapshot cache (rebuilt fallback c us)) q).1
    simp only [hnew, hfits.answer?_eq]
    rfl
  · intro number q a later ha
    rw [hfits.answer?_eq] at ha
    obtain ⟨us, hus, rfl⟩ := Option.map_eq_some_iff.1 ha
    obtain ⟨more, hmore⟩ := grown_prefix later (lineages es)
    have hthere : number < (lineages es).length := (List.getElem?_eq_some_iff.1 hus).1
    rw [(fits_run later hfits).answer?_eq, ← hmore, List.getElem?_append_left hthere, hus]
    rfl

/-- A whitelist is updated into a blacklist after it was asked, and once more after that; the
blacklist, which forgets everything, keeps its answer. -/
theorem answers_like_new_blacklist :
    let caches (number : Nat) := if number = 0 then Cache.standard else Cache.recent 0
    let c : Config := ⟨true, Proxy.defaultUrl, .whitelist, ["a.com"]⟩
    let f := (start caches Proxy.standard c).run [.query 0 (.target "a.com"),
      .update 0 { Config.Update.empty with mode := some .blacklist }, .query 1 (.target "a.com"),
      .update 0 { Config.Update.empty with rules := some ["*.cn"] }, .query 0 (.target "a.com")]
    f.answer? 1 (.decision "a.com") = some (.decision (.proxy Proxy.standard)) ∧
      ∀ later, (f.run later).answer? 1 (.decision "a.com")
        = some (.decision (.proxy Proxy.standard)) := by
  intro caches c f
  have hanswer : f.answer? 1 (.decision "a.com") = some (.decision (.proxy Proxy.standard)) := by
    decide +kernel
  obtain ⟨-, -, hlater⟩ := answers_like_new caches Proxy.standard c
    [.query 0 (.target "a.com"), .update 0 { Config.Update.empty with mode := some .blacklist },
      .query 1 (.target "a.com"), .update 0 { Config.Update.empty with rules := some ["*.cn"] },
      .query 0 (.target "a.com")]
  exact ⟨hanswer, fun later => hlater 1 (.decision "a.com") _ later hanswer⟩

end Family

end HostRouting
