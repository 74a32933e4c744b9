/-
**Deciders.**

A decider is a snapshot that remembers where hosts go.  It keeps its answers in a cache, which may
drop any of them at any time, for reasons of its own.  So a cache is not described by what it holds
but by what it answers after it has been used in some way, and of that no more is known than that
it is nothing, or what was inserted last under the very host that is asked for.  As no two uses of
one cache come after the same uses, this leaves open what it drops and when.

Main definitions:

* `Access`, `Access.lastInserted?` — uses of a cache, and what was inserted last under a host;
* `Cache` — a cache that may drop what it holds, with `Cache.recent`, which looks back a limited
  number of uses, and `Cache.standard`;
* `Decider` — a snapshot with a cache, with `Decider.ofSnapshot` and `Decider.updated`;
* `Decider.target`, `Decider.decision` — where a host goes, and the decider after it was asked.
-/

import HostRouting.Routing.Snapshot

set_option autoImplicit false

namespace HostRouting

/-! ### Caches -/

/-- A use of a cache. -/
inductive Access where
  /-- It is asked for the target of a host. -/
  | get (host : String)
  /-- The target of a host is inserted. -/
  | insert (host : String) (target : Target)
  deriving DecidableEq, Repr

namespace Access

/-- The target inserted last under a host, by the uses of a cache, the last one first. -/
def lastInserted? : List Access → String → Option Target
  | [], _ => none
  | .get _ :: earlier, host => lastInserted? earlier host
  | .insert h target :: earlier, host =>
      if h = host then some target else lastInserted? earlier host

@[simp] theorem lastInserted?_nil (host : String) : lastInserted? [] host = none := rfl

@[simp] theorem lastInserted?_get (h host : String) (earlier : List Access) :
    lastInserted? (.get h :: earlier) host = lastInserted? earlier host := rfl

@[simp] theorem lastInserted?_insert (h host : String) (target : Target) (earlier : List Access) :
    lastInserted? (.insert h target :: earlier) host =
      if h = host then some target else lastInserted? earlier host := rfl

/-- Looking back a limited number of uses finds what was inserted last, or nothing. -/
theorem lastInserted?_take (count : Nat) (earlier : List Access) (host : String) :
    lastInserted? (earlier.take count) host = none ∨
      lastInserted? (earlier.take count) host = lastInserted? earlier host := by
  induction earlier generalizing count with
  | nil => simp
  | cons access earlier ih =>
      cases count with
      | zero => simp
      | succ count =>
          cases access with
          | get h => exact ih count
          | insert h target =>
              simp only [List.take_succ_cons, lastInserted?_insert]
              split
              · exact .inr rfl
              · exact ih count

end Access

/-- A cache, by its answer for a host after uses of which the last one comes first. -/
structure Cache where
  get? : List Access → String → Option Target
  get?_eq : ∀ earlier host,
    get? earlier host = none ∨ get? earlier host = Access.lastInserted? earlier host

namespace Cache

/-- The cache that looks back a limited number of uses. -/
def recent (count : Nat) : Cache where
  get? earlier := Access.lastInserted? (earlier.take count)
  get?_eq := Access.lastInserted?_take count

/-- The cache of a decider where no other is asked for. -/
def standard : Cache := recent 10000

/-- A cache that has not been used yet has nothing to answer with. -/
@[simp] theorem get?_nil (c : Cache) (host : String) : c.get? [] host = none := by
  rcases c.get?_eq [] host with h | h
  · exact h
  · exact h

end Cache

/-! ### Deciders -/

/-- A snapshot that remembers its answers. -/
structure Decider where
  snapshot : Snapshot
  cache : Cache
  /-- How the cache has been used, the last use first. -/
  accesses : List Access

namespace Decider

/-- The decider with a given cache that has not been asked yet. -/
def ofSnapshot (cache : Cache) (s : Snapshot) : Decider := ⟨s, cache, []⟩

/-- The decider after an update; it has a cache of its own. -/
def updated (d : Decider) (cache : Cache) (u : Config.Update) : Decider :=
  ofSnapshot cache (d.snapshot.updated u)

/-- Where a host goes.  While routing is off, and for the machine itself, nothing is looked up;
otherwise the rules are only asked if the cache has no answer, which is then inserted. -/
def target (d : Decider) (host : String) : Target × Decider :=
  if !d.snapshot.config.proxyEnabled || isLoopback host then (.direct, d)
  else
    let asked := { d with accesses := .get host :: d.accesses }
    match d.cache.get? d.accesses host with
    | some found => (found, asked)
    | none =>
        let target := d.snapshot.rules.target d.snapshot.config.mode host
        (target, { asked with accesses := .insert host target :: asked.accesses })

/-- Where a host goes, with the proxy. -/
def decision (d : Decider) (host : String) : Decision × Decider :=
  let (target, next) := d.target host
  (.ofTarget d.snapshot.proxy target, next)

@[simp] theorem snapshot_ofSnapshot (cache : Cache) (s : Snapshot) :
    (ofSnapshot cache s).snapshot = s := rfl

@[simp] theorem snapshot_updated (d : Decider) (cache : Cache) (u : Config.Update) :
    (d.updated cache u).snapshot = d.snapshot.updated u := rfl

end Decider

end HostRouting
