/-
**Looking up the fields of a record.**

A record only sees what is under its own keys.  Leaving out unknown keys, and the order in which the
members of a document stand, therefore make no difference to its fields as long as no key is given
twice.

Main results:

* `Record.lookup_filter` — leaving out other keys does not change what is under a key;
* `Record.lookup_of_perm` — nor does another order of distinct keys;
* `Json.fields?_ofMembers` — a document with distinct keys gives a record its members.
-/

import HostRouting.Json.Fields

set_option autoImplicit false

namespace HostRouting

namespace Record

variable {α β : Type}

/-! ### Distinct keys -/

theorem any_key_iff {fs : Fields α} {key : String} :
    fs.any (·.1 == key) = true ↔ key ∈ fs.map (·.1) := by
  simp only [List.any_eq_true, List.mem_map, beq_iff_eq]

theorem areDistinct_iff {fs : Fields α} : areDistinct fs = true ↔ (fs.map (·.1)).Nodup := by
  induction fs with
  | nil => simp [areDistinct]
  | cons f fs ih =>
      rw [areDistinct, Bool.and_eq_true, Bool.not_eq_true', List.map_cons, List.nodup_cons, ih,
        ← any_key_iff, Bool.not_eq_true]

/-! ### Looking up -/

theorem lookup_eq_none_iff {fs : Fields α} {key : String} :
    fs.lookup key = none ↔ key ∉ fs.map (·.1) := by
  rw [List.lookup_eq_none_iff]
  simp only [bne_iff_ne, List.mem_map, not_exists, not_and]
  constructor
  · intro h f hf he
    exact h f hf he.symm
  · intro h f hf he
    exact h f hf he.symm

/-- Of distinct keys, each has the value that stands with it. -/
theorem lookup_eq_some_iff {fs : Fields α} (h : (fs.map (·.1)).Nodup) {key : String} {a : α} :
    fs.lookup key = some a ↔ (key, a) ∈ fs := by
  induction fs with
  | nil => simp
  | cons f fs ih =>
      obtain ⟨k, b⟩ := f
      rw [List.map_cons, List.nodup_cons] at h
      rw [List.lookup_cons]
      by_cases hk : key = k
      · subst hk
        have hnot : (key, a) ∉ fs := fun hm => h.1 (List.mem_map.2 ⟨_, hm, rfl⟩)
        simp [hnot, eq_comm]
      · have hb : (key == k) = false := by simpa using hk
        simp [hb, hk, ih h.2]

/-- Leaving out other keys does not change what is under a key, of whatever kind the keys are. -/
theorem lookup_filter {κ : Type} [BEq κ] [LawfulBEq κ] (fs : List (κ × α)) (p : κ → Bool) {key : κ}
    (hp : p key = true) : (fs.filter fun f => p f.1).lookup key = fs.lookup key := by
  induction fs with
  | nil => rfl
  | cons f fs ih =>
      obtain ⟨k, b⟩ := f
      by_cases hk : key = k
      · subst hk
        simp [hp]
      · have hb : (key == k) = false := by simpa using hk
        rw [List.filter_cons, List.lookup_cons, hb]
        split
        · rw [List.lookup_cons, hb]
          exact ih
        · exact ih

/-- The order of distinct keys does not change what is under a key. -/
theorem lookup_of_perm {fs gs : Fields α} (h : fs.Perm gs) (hd : (fs.map (·.1)).Nodup)
    (key : String) : fs.lookup key = gs.lookup key := by
  have hg : (gs.map (·.1)).Nodup := (h.map _).nodup hd
  apply Option.ext
  intro a
  rw [lookup_eq_some_iff hd, lookup_eq_some_iff hg]
  exact h.mem_iff

end Record

namespace Json

theorem named?_map (ms : List (String × Json)) :
    named? (ms.map fun (k, v) => (some k, v)) = some ms := by
  unfold named?
  induction ms with
  | nil => rfl
  | cons m ms ih =>
      rw [List.map_cons, List.mapM_cons, ih]
      rfl

/-- A document with distinct keys gives a record its members under the keys of the record. -/
theorem fields?_ofMembers (keys : List String) {ms : List (String × Json)}
    (h : (ms.map (·.1)).Nodup) :
    (ofMembers ms).fields? keys = some (ms.filter fun m => keys.contains m.1) := by
  have hd : Record.areDistinct (ms.filter fun m => keys.contains m.1) = true := by
    rw [Record.areDistinct_iff]
    exact h.sublist (List.filter_sublist.map _)
  simp only [ofMembers, fields?, named?_map, Option.bind_some, Record.known?, hd, if_true]

end Json

end HostRouting
