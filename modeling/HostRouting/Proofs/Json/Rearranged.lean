/-
**Documents in another order.**

A document may be written with its members in any order and with other members among them.  A record
that is read from it looks up each of its keys, so it comes out the same: the members under its keys
are those it was written with, and what stands under other keys is left out unseen.

Main definitions:

* `Json.Rearranges` — a document with its members in some order and other members among them.

Main results:

* `Record.field_of_perm` — a field does not depend on the order of distinct keys;
* `Json.bind_fields?_of_rearranges` — **nor does a record that is read field by field**.
-/

import HostRouting.Proofs.Record

set_option autoImplicit false

namespace HostRouting

/-! ### Fields in another order -/

namespace Record

variable {α β : Type}

/-- A field does not depend on the order of distinct keys. -/
theorem field_of_perm {fs gs : Fields α} (h : fs.Perm gs) (hd : (fs.map (·.1)).Nodup)
    (key : String) (value? : α → Option β) (default : β) :
    field fs key value? default = field gs key value? default := by
  rw [field, field, lookup_of_perm h hd]

/-- A reader of fields for which the order of distinct keys makes no difference. -/
def IgnoresOrder (read? : Fields α → Option β) : Prop :=
  ∀ fs gs : Fields α, fs.Perm gs → (fs.map (·.1)).Nodup → read? fs = read? gs

end Record

namespace Json

/-! ### Members in another order -/

theorem ofMembers_injective {ms ns : List (String × Json)} (h : ofMembers ms = ofMembers ns) :
    ms = ns := by
  have hnamed := congrArg named? (Json.object.inj h)
  rw [named?_map, named?_map] at hnamed
  exact Option.some.inj hnamed

/-- The document `j` has the members of `written` in some order, and the members `others` among them,
all of these under keys not in `keys`. -/
def Rearranges (keys : List String) (written : Json) (others : List (String × Json)) (j : Json) :
    Prop :=
  ∃ own ms, written = ofMembers own ∧ j = ofMembers ms ∧ ms.Perm (own ++ others) ∧
    ∀ m ∈ others, m.1 ∉ keys

/-- A document is a rearrangement of itself. -/
theorem rearranges_self (keys : List String) (ms : List (String × Json)) :
    Rearranges keys (ofMembers ms) [] (ofMembers ms) :=
  ⟨ms, ms, rfl, rfl, by rw [List.append_nil], by simp⟩

/-- The members under the keys of a record are the same, in some order. -/
theorem exists_fields?_of_perm {keys : List String} {own others ms : List (String × Json)}
    (hperm : ms.Perm (own ++ others)) (hothers : ∀ m ∈ others, m.1 ∉ keys)
    (hd : (own.map (·.1)).Nodup) :
    ∃ fs gs, (ofMembers ms).fields? keys = some fs ∧ (ofMembers own).fields? keys = some gs ∧
      fs.Perm gs ∧ (fs.map (·.1)).Nodup := by
  have hnone : others.filter (fun m => keys.contains m.1) = [] := by
    rw [List.filter_eq_nil_iff]
    intro m hm
    simpa using hothers m hm
  have hknown : (ms.filter fun m => keys.contains m.1).Perm
      (own.filter fun m => keys.contains m.1) := by
    have hfilter := hperm.filter fun m => keys.contains m.1
    rwa [List.filter_append, hnone, List.append_nil] at hfilter
  have hdistinct : ((ms.filter fun m => keys.contains m.1).map (·.1)).Nodup :=
    (hknown.map _).nodup_iff.2 (hd.sublist (List.filter_sublist.map _))
  have hfields : (ofMembers ms).fields? keys
      = some (ms.filter fun m => keys.contains m.1) := by
    simp only [ofMembers, fields?, named?_map, Option.bind_some, Record.known?,
      Record.areDistinct_iff.2 hdistinct, if_true]
  exact ⟨_, _, hfields, fields?_ofMembers keys hd, hknown, hdistinct⟩

/-- **A record that is read field by field is the same** from a rearrangement of its document. -/
theorem bind_fields?_of_rearranges {α : Type} {read? : Record.Fields Json → Option α}
    {keys : List String} {own others : List (String × Json)} {j : Json}
    (hread : Record.IgnoresOrder read?) (hd : (own.map (·.1)).Nodup)
    (h : Rearranges keys (ofMembers own) others j) :
    (j.fields? keys).bind read? = ((ofMembers own).fields? keys).bind read? := by
  obtain ⟨own', ms, heq, rfl, hperm, hothers⟩ := h
  obtain rfl := ofMembers_injective heq
  obtain ⟨fs, gs, hfs, hgs, hsame, hdistinct⟩ := exists_fields?_of_perm hperm hothers hd
  rw [hfs, hgs, Option.bind_some, Option.bind_some]
  exact hread fs gs hsame hdistinct

end Json

end HostRouting
