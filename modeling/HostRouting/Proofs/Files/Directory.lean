/-
**What an operation on files leaves alone.**

Taking an entry away or putting one changes what stands under its own path only.  Whether a path can
be used depends on the paths above it, which are shorter, so an operation on a path of the same
length makes no difference to that either.  Written and renamed files therefore need to be looked at
under two paths only.

Main definitions:

* `Directory.Takes` — whether a file may be written under a path.

Main results:

* `Directory.entry?_erase_of_ne`, `Directory.entry?_insert_of_ne` — other paths are left alone;
* `Directory.write_eq_ok_iff`, `Directory.rename_eq_ok_iff`, `Directory.read_eq_ok_iff` — when the
  operations succeed, and with what;
* `Directory.takes_insert_iff` — a written file does not change which paths take a file.
-/

import HostRouting.Files.Directory
import HostRouting.Proofs.Record

set_option autoImplicit false

namespace HostRouting.Directory

variable {d e : Directory} {p q : Path}

/-! ### Entries -/

theorem entry?_of_isNone (d : Directory) (h : (Path.fileName? p).isNone = true) :
    d.entry? p = some .directory := by
  unfold entry?
  exact if_pos h

theorem entry?_of_named (d : Directory) (h : (Path.fileName? p).isNone = false) :
    d.entry? p = d.entries.lookup p := by
  unfold entry?
  exact if_neg (Bool.eq_false_iff.1 h)

theorem entry?_erase_self (d : Directory) (h : (Path.fileName? p).isNone = false) :
    entry? (d.erase p) p = none := by
  rw [entry?_of_named _ h, List.lookup_eq_none_iff]
  intro f hf
  obtain ⟨-, hne⟩ := List.mem_filter.1 hf
  rw [bne_comm]
  exact hne

theorem entry?_erase_of_ne (d : Directory) (h : q ≠ p) : entry? (d.erase p) q = d.entry? q := by
  cases hq : (Path.fileName? q).isNone with
  | true => rw [entry?_of_isNone _ hq, entry?_of_isNone _ hq]
  | false =>
      rw [entry?_of_named _ hq, entry?_of_named _ hq]
      exact Record.lookup_filter d.entries (· != p) (bne_iff_ne.2 h)

theorem entry?_insert_self (d : Directory) (h : (Path.fileName? p).isNone = false) (x : Entry) :
    entry? (d.insert p x) p = some x := by
  have hnone := entry?_erase_self d h
  rw [entry?_of_named _ h] at hnone ⊢
  rw [insert, List.lookup_append, hnone, List.lookup_cons_self, Option.none_or]

theorem entry?_insert_of_ne (d : Directory) (h : q ≠ p) (x : Entry) :
    entry? (d.insert p x) q = d.entry? q := by
  cases hq : (Path.fileName? q).isNone with
  | true => rw [entry?_of_isNone _ hq, entry?_of_isNone _ hq]
  | false =>
      have herase := entry?_erase_of_ne d h
      have hb : (q == p) = false := beq_eq_false_iff_ne.2 h
      rw [entry?_of_named _ hq] at herase ⊢
      rw [insert, List.lookup_append, herase, List.lookup_cons, hb, List.lookup_nil, Option.or_none]

/-! ### Paths that can be used -/

/-- Whether a path can be used depends on the entries above it only. -/
theorem obstacle?_congr (names : List String) :
    ∀ above : Path,
      (∀ q : Path, q.length < above.length + names.length → d.entry? q = e.entry? q) →
      d.obstacle? above names = e.obstacle? above names := by
  induction names with
  | nil => intro above _; rfl
  | cons name rest ih =>
      intro above h
      cases rest with
      | nil => rfl
      | cons next rest =>
          have hhere : d.entry? (above ++ [name]) = e.entry? (above ++ [name]) := by
            refine h _ ?_
            simp only [List.length_append, List.length_cons, List.length_nil]
            omega
          have hrest := ih (above ++ [name]) fun q hq => h q (by
            simp only [List.length_append, List.length_cons, List.length_nil] at hq ⊢
            omega)
          unfold obstacle?
          dsimp only
          rw [hhere, hrest]

/-- Whether a file may be written under a path: it can be used, and no directory stands there. -/
def Takes (d : Directory) (p : Path) : Prop :=
  d.obstacle? [] p = none ∧ d.entry? p ≠ some .directory

/-- A path that takes a file ends in a name. -/
theorem Takes.named (h : d.Takes p) : (Path.fileName? p).isNone = false := by
  cases hname : (Path.fileName? p).isNone with
  | true => exact absurd (entry?_of_isNone d hname) h.2
  | false => rfl

/-- A plain name takes a file unless a directory stands there. -/
theorem takes_name_iff (d : Directory) {name : String} (h : name ≠ "") :
    d.Takes [name] ↔ d.entry? [name] ≠ some .directory := by
  have hfree : d.obstacle? [] [name] = none := by
    rw [obstacle?, if_neg (by simpa using h)]
  exact ⟨fun ht => ht.2, fun hne => ⟨hfree, hne⟩⟩

theorem obstacle?_insert (d : Directory) (h : q.length ≤ p.length) (x : Entry) :
    (d.insert p x).obstacle? [] q = d.obstacle? [] q := by
  refine obstacle?_congr q [] fun r hr => entry?_insert_of_ne d ?_ x
  rintro rfl
  simp only [List.length_nil] at hr
  omega

theorem obstacle?_erase (d : Directory) (h : q.length ≤ p.length) :
    (d.erase p).obstacle? [] q = d.obstacle? [] q := by
  refine obstacle?_congr q [] fun r hr => entry?_erase_of_ne d ?_
  rintro rfl
  simp only [List.length_nil] at hr
  omega

/-- A written file does not change which paths take a file, as long as they are no longer. -/
theorem takes_insert_iff (hp : d.Takes p) (h : q.length ≤ p.length) (bytes : List UInt8) :
    (d.insert p (.file bytes)).Takes q ↔ d.Takes q := by
  rw [Takes, Takes, obstacle?_insert d h]
  by_cases hne : q = p
  · subst hne
    simp [entry?_insert_self d hp.named, hp.2]
  · rw [entry?_insert_of_ne d hne]

/-! ### Operations -/

theorem read_eq_ok_iff {bytes : List UInt8} :
    d.read p = .ok bytes ↔ d.obstacle? [] p = none ∧ d.entry? p = some (.file bytes) := by
  rw [read]
  split
  · next f hf => simp [hf]
  · next hfree =>
      split
      · next h => simp [h]
      · next h => simp [h]
      · next h => simp [h, hfree]

theorem write_eq_ok_iff {bytes : List UInt8} :
    d.write p bytes = .ok e ↔ d.Takes p ∧ e = d.insert p (.file bytes) := by
  rw [write, Takes]
  split
  · next f hf => simp [hf]
  · next hfree =>
      split
      · next h => simp [h]
      · next h =>
          constructor
          · intro hok
            exact ⟨⟨hfree, h⟩, (Except.ok.inj hok).symm⟩
          · rintro ⟨-, rfl⟩
            rfl

theorem rename_eq_ok_iff :
    d.rename p q = .ok e ↔ ∃ bytes, d.read p = .ok bytes ∧ d.Takes q ∧
      e = (d.erase p).insert q (.file bytes) := by
  rw [rename, Takes]
  cases hread : d.read p with
  | error f => simp [bind, Except.bind]
  | ok bytes =>
      simp only [bind, Except.bind]
      split
      · next f hf => simp [hf]
      · next hfree =>
          split
          · next h => simp [h]
          · next h =>
              constructor
              · intro hok
                exact ⟨bytes, rfl, ⟨hfree, h⟩, (Except.ok.inj hok).symm⟩
              · rintro ⟨moved, hmoved, -, rfl⟩
                rw [← Except.ok.inj hmoved]

end HostRouting.Directory
