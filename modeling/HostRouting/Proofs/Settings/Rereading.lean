/-
**Changes that are written and read back.**

A document of changes has null in two places: where a key is set to null, and where there is no new
value because the key was removed.  Reading such a document back takes both for a removal.  For a
key that may be unset this makes no difference, and unknown keys do no harm anyway.  But null is no
flag, no URL and no list of texts: changes that set such a key to null are refused, while what is
read back of them brings the key back to its default, unless another value stands in the way.

Main definitions:

* `Json.reread?`, `Change.reread`, `Changes.reread` — what is read back of a value, of a change and
  of changes;
* `Changes.Misfits` — a value is set under a known key that takes values of another kind;
* `Settings.outcome` — what changes make of settings, with whether they changed the configuration.

Main results:

* `Changes.ofDocument?_document` — which changes can be read back, and as what;
* `Changes.isMisfit_iff_null_or` — what is refused of changes, and what of it is read back;
* `Settings.LeadsTo.reread` — where changes lead to, what is read back of them leads to as well;
* `Changes.outcome_reread` — **what is read back, and when that comes to the same**;
* `Changes.not_outcome_reread` — a key that is set to null, and then is removed.
-/

import HostRouting.Proofs.Json.RoundTrip
import HostRouting.Proofs.Settings.Notified

set_option autoImplicit false

namespace HostRouting

/-! ### Values that are read back -/

namespace Json

/-- What is read back of a value that was written: null stands for no value, and of several members
with the same key the last one counts. -/
def reread? : Json → Option Json
  | .null => none
  | j => some j.settled

theorem reread?_of_ne_null {j : Json} (h : j ≠ .null) : j.reread? = some j.settled := by
  cases j with
  | null => exact absurd rfl h
  | _ => rfl

/-- A value is read back if it is pure data. -/
theorem optional_data? (depth : Nat) (value : Option Json) :
    optional (data? depth) (orNull id value) =
      if value.all (·.isData depth) then some (value.bind reread?) else none := by
  cases value with
  | none => rfl
  | some j =>
      cases j with
      | null => rfl
      | _ =>
          simp only [orNull, id_eq, optional, data?, Option.all_some, Option.bind_some,
            reread?]
          split <;> rfl

/-! ### Values of a kind -/

theorem settled_eq_bool_iff {j : Json} {b : Bool} : j.settled = .bool b ↔ j = .bool b := by
  cases j <;> simp [settled]

theorem settled_eq_null_iff {j : Json} : j.settled = .null ↔ j = .null := by
  cases j <;> simp [settled]

theorem settled_eq_text_iff {j : Json} {s : String} : j.settled = text s ↔ j = text s := by
  cases j <;> simp [settled, text]

theorem settledItems_eq_texts_iff {js : List Json} {ss : List String} :
    settledItems js = ss.map text ↔ js = ss.map text := by
  induction js generalizing ss with
  | nil => rfl
  | cons j js ih =>
      cases ss with
      | nil => simp [settledItems]
      | cons s ss => simp [settledItems, settled_eq_text_iff, ih]

theorem settled_eq_texts_iff {j : Json} {ss : List String} : j.settled = texts ss ↔ j = texts ss := by
  cases j <;> simp [settled, texts, settledItems_eq_texts_iff]

end Json

namespace Settings

/-- Settling a document does not change of which kind it is. -/
theorem Kind.takes_settled_iff {kind : Kind} {j : Json} : kind.Takes j.settled ↔ kind.Takes j := by
  cases kind <;>
    simp only [Takes, Json.settled_eq_bool_iff, Json.settled_eq_text_iff,
      Json.settled_eq_texts_iff, Json.settled_eq_null_iff]

theorem Kind.takes_null_iff {kind : Kind} : kind.Takes .null ↔ kind = .optionalText := by
  cases kind <;> simp [Takes, Json.text, Json.texts]

/-- A document of some kind has nothing to settle. -/
theorem Kind.settled_of_takes (kind : Kind) {j : Json} (h : kind.Takes j) : j.settled = j := by
  cases kind with
  | flag =>
      obtain ⟨b, rfl⟩ := h
      rfl
  | text =>
      obtain ⟨s, rfl⟩ := h
      rfl
  | texts =>
      obtain ⟨ss, rfl⟩ := h
      exact Json.settled_eq_texts_iff.2 rfl
  | optionalText =>
      obtain rfl | ⟨s, rfl⟩ := h
      · rfl
      · rfl

end Settings

/-! ### Changes that are read back -/

namespace Change

/-- Whether both values of a change are pure data, nested no deeper than `depth`. -/
def isData (depth : Nat) (c : Change) : Bool :=
  c.old.all (·.isData depth) && c.new.all (·.isData depth)

/-- What is read back of a change. -/
def reread (c : Change) : Change := ⟨c.old.bind Json.reread?, c.new.bind Json.reread?⟩

theorem ofDocument?_document (depth : Nat) (c : Change) :
    ofDocument? depth c.document = if c.isData depth then some c.reread else none := by
  have hfields : c.document.fields? ["oldValue", "newValue"]
      = some [("oldValue", Json.orNull id c.old), ("newValue", Json.orNull id c.new)] := by
    rw [document, Json.fields?_ofMembers _ (by simp)]
    rfl
  have hold : Record.field [("oldValue", Json.orNull id c.old), ("newValue", Json.orNull id c.new)]
      "oldValue" (Json.optional (Json.data? depth)) none
        = if c.old.all (·.isData depth) then some (c.old.bind Json.reread?) else none :=
    Json.optional_data? depth c.old
  have hnew : Record.field [("oldValue", Json.orNull id c.old), ("newValue", Json.orNull id c.new)]
      "newValue" (Json.optional (Json.data? depth)) none
        = if c.new.all (·.isData depth) then some (c.new.bind Json.reread?) else none :=
    Json.optional_data? depth c.new
  rw [ofDocument?, hfields, Option.bind_eq_bind, Option.bind_some, hold, hnew,
    Settings.bind_ite_some, Settings.bind_ite_some, Settings.ite_ite_none]
  rfl

end Change

namespace Changes

/-- Whether all values of changes are pure data, nested no deeper than can be read. -/
def isData (cs : Changes) : Bool := cs.entries.all fun e => e.2.isData (Change.valueDepth - 1)

/-- What is read back of changes. -/
def reread (cs : Changes) : Changes where
  entries := cs.entries.map fun e => (e.1, e.2.reread)
  nodup_keys := by
    rw [List.map_map]
    exact cs.nodup_keys

/-- Of distinct keys no entry is replaced. -/
theorem lastEntries_of_nodup {es : List (String × Change)} (h : (es.map (·.1)).Nodup) :
    lastEntries es = es := by
  induction es with
  | nil => rfl
  | cons e es ih =>
      rw [List.map_cons, List.nodup_cons, ← Record.any_key_iff] at h
      rw [lastEntries, if_neg h.1, ih h.2]

theorem ofList_entries (cs : Changes) : ofList cs.entries = cs := by
  cases cs with
  | mk es h => simp only [ofList, lastEntries_of_nodup h]

theorem mapM_ofDocument? (depth : Nat) (es : List (String × Change)) :
    (es.map fun e => (e.1, e.2.document)).mapM
        (fun (e : String × Json) => (Change.ofDocument? depth e.2).map (e.1, ·)) =
      if es.all (·.2.isData depth) then some (es.map fun e => (e.1, e.2.reread)) else none := by
  induction es with
  | nil => rfl
  | cons e es ih =>
      rw [List.map_cons, List.mapM_cons, ih, Change.ofDocument?_document, List.all_cons]
      cases e.2.isData depth <;> cases es.all (·.2.isData depth) <;> rfl

/-- **Changes are read back if all their values are pure data.** -/
theorem ofDocument?_document (cs : Changes) :
    ofDocument? cs.document = if cs.isData then some cs.reread else none := by
  have hread := mapM_ofDocument? (Change.valueDepth - 1) cs.entries
  rw [document, Json.ofMembers, ofDocument?, Json.named?_map, Option.bind_eq_bind,
    Option.bind_some, hread, Settings.bind_ite_some]
  exact congrArg (fun read => if cs.isData then some read else none) (ofList_entries cs.reread)

/-- What is written of changes in any layout is read back in the same way. -/
theorem bind_parse_write (l : Json.Layout) (cs : Changes) :
    (Json.parse (l.write cs.document)).bind ofDocument?
      = if cs.isData then some cs.reread else none := by
  rw [Json.parse_write, Option.bind_some, ofDocument?_document]

/-! ### What the changes set -/

@[simp] theorem keys_reread (cs : Changes) : cs.reread.keys = cs.keys := by
  rw [keys, reread, List.map_map]
  rfl

theorem change?_reread (cs : Changes) (key : String) :
    cs.reread.change? key = (cs.change? key).map Change.reread := by
  have hlookup (es : List (String × Change)) :
      (es.map fun e => (e.1, e.2.reread)).lookup key = (es.lookup key).map Change.reread := by
    induction es with
    | nil => rfl
    | cons e es ih =>
        rw [List.map_cons, List.lookup_cons, List.lookup_cons, ih]
        cases key == e.1 <;> rfl
  exact hlookup cs.entries

theorem value?_reread (cs : Changes) (key : String) :
    cs.reread.value? key = (cs.value? key).bind Json.reread? := by
  rw [value?, value?, change?_reread]
  cases cs.change? key <;> rfl

/-! ### Misfits -/

/-- Under a known key a value is set that is of another kind. -/
def Misfits (cs : Changes) (key : String) (j : Json) : Prop :=
  cs.value? key = some j ∧ ∃ kind, Settings.kinds.lookup key = some kind ∧ ¬kind.Takes j

theorem isMisfit_iff_misfits {cs : Changes} : cs.IsMisfit ↔ ∃ key j, cs.Misfits key j := by
  constructor
  · rintro ⟨key, c, j, kind, hc, hj, hkind, hnot⟩
    refine ⟨key, j, ?_, kind, hkind, hnot⟩
    rw [value?, mem_entries_iff.1 hc]
    exact hj
  · rintro ⟨key, j, hvalue, kind, hkind, hnot⟩
    obtain ⟨c, hc, hj⟩ := Option.bind_eq_some_iff.1 hvalue
    exact ⟨key, c, j, kind, mem_entries_iff.2 hc, hj, hkind, hnot⟩

/-- Null may not be set for the flag, for the URL and for the lists. -/
theorem misfits_null_iff {cs : Changes} {key : String} :
    cs.Misfits key .null ↔
      key ∈ "proxyEnabled" :: "proxyUrl" :: Settings.listKeys ∧ cs.value? key = some .null := by
  have hkeys : (∃ kind, (key, kind) ∈ Settings.kinds ∧ ¬kind.Takes .null) ↔
      key ∈ "proxyEnabled" :: "proxyUrl" :: Settings.listKeys := by
    have hlist : (Settings.kinds.filter (·.2 ≠ .optionalText)).map (·.1)
        = "proxyEnabled" :: "proxyUrl" :: Settings.listKeys := by decide
    rw [← hlist]
    simp [Settings.Kind.takes_null_iff]
  simp only [Misfits, ← Settings.mem_kinds_iff, hkeys, and_comm]

/-- What is read back has a misfit exactly if a value other than null is one. -/
theorem isMisfit_reread_iff {cs : Changes} :
    cs.reread.IsMisfit ↔ ∃ key j, j ≠ .null ∧ cs.Misfits key j := by
  rw [isMisfit_iff_misfits]
  constructor
  · rintro ⟨key, k, hvalue, kind, hkind, hnot⟩
    rw [value?_reread] at hvalue
    obtain ⟨j, hj, hread⟩ := Option.bind_eq_some_iff.1 hvalue
    have hne : j ≠ .null := by
      rintro rfl
      cases hread
    rw [Json.reread?_of_ne_null hne] at hread
    obtain rfl := Option.some.inj hread
    exact ⟨key, j, hne, hj, kind, hkind, fun h => hnot (Settings.Kind.takes_settled_iff.2 h)⟩
  · rintro ⟨key, j, hne, hvalue, kind, hkind, hnot⟩
    refine ⟨key, j.settled, ?_, kind, hkind, fun h => hnot (Settings.Kind.takes_settled_iff.1 h)⟩
    rw [value?_reread, hvalue, Option.bind_some, Json.reread?_of_ne_null hne]

theorem isMisfit_iff_null_or {cs : Changes} :
    cs.IsMisfit ↔
      (∃ key ∈ "proxyEnabled" :: "proxyUrl" :: Settings.listKeys, cs.value? key = some .null) ∨
        cs.reread.IsMisfit := by
  rw [isMisfit_reread_iff, isMisfit_iff_misfits]
  simp only [← misfits_null_iff]
  constructor
  · rintro ⟨key, j, hj⟩
    by_cases hnull : j = .null
    · subst hnull
      exact .inl ⟨key, hj⟩
    · exact .inr ⟨key, j, hnull, hj⟩
  · rintro (⟨key, hj⟩ | ⟨key, j, -, hj⟩)
    · exact ⟨key, .null, hj⟩
    · exact ⟨key, j, hj⟩

/-! ### Where the changes lead to -/

/-- What becomes of a field is the same, provided that null, where it may be set, stands for the
default. -/
theorem Leaves.reread {α : Type} {cs : Changes} {key : String} {IsWritten : α → Json → Prop}
    {default old new : α} (hsettled : ∀ a j, IsWritten a j → j.settled = j)
    (hnull : ∀ a, IsWritten a .null → a = default)
    (h : cs.Leaves key IsWritten default old new) :
    cs.reread.Leaves key IsWritten default old new := by
  have hchange := cs.change?_reread key
  cases h with
  | kept h =>
      rw [h] at hchange
      exact .kept hchange
  | removed h =>
      rw [h] at hchange
      exact .removed hchange
  | @set prior j a h hj =>
      rw [h] at hchange
      by_cases hne : j = .null
      · subst hne
        rw [hnull new hj]
        exact .removed hchange
      · have hread : Change.reread ⟨prior, some j⟩ = ⟨prior.bind Json.reread?, some j⟩ := by
          rw [Change.reread, Option.bind_some, Json.reread?_of_ne_null hne, hsettled new j hj]
        rw [Option.map_some, hread] at hchange
        exact .set hchange hj

end Changes

section

variable {cs : Changes} {key : String}

open Settings (Kind)

theorem Changes.Leaves.reread_texts {old new : List String}
    (h : cs.Leaves key (fun ss j => j = .texts ss) [] old new) :
    cs.reread.Leaves key (fun ss j => j = .texts ss) [] old new :=
  h.reread (fun ss _ hj => Kind.settled_of_takes .texts ⟨ss, hj⟩)
    fun _ hnull => by simp [Json.texts] at hnull

theorem Changes.Leaves.reread_optionalText {old new : Option String}
    (h : cs.Leaves key (fun s j => j = Json.orNull .text s) none old new) :
    cs.reread.Leaves key (fun s j => j = Json.orNull .text s) none old new := by
  refine h.reread (fun s j hj => ?_) fun s hnull => ?_
  · cases s <;> (rw [hj]; rfl)
  · cases s with
    | none => rfl
    | some s => simp [Json.orNull, Json.text] at hnull

theorem RuleSource.LeadsTo.reread {r next : RuleSource} {m : Mode} (h : r.LeadsTo m cs next) :
    r.LeadsTo m cs.reread next :=
  ⟨h.manual.reread_texts, h.manualText.reread_optionalText, h.url.reread_optionalText,
    h.fetchedText.reread_optionalText, h.fetched.reread_texts⟩

/-- **Where changes lead to, what is read back of them leads to as well.** -/
theorem Settings.LeadsTo.reread {s next : Settings} (h : s.LeadsTo cs next) :
    s.LeadsTo cs.reread next := by
  refine ⟨?flag, ?url, ?mode, fun m => (h.source m).reread⟩
  case flag =>
    exact h.proxyEnabled.reread (fun b _ hj => Kind.settled_of_takes .flag ⟨b, hj⟩)
      fun _ hnull => by cases hnull
  case url =>
    exact h.proxyUrl.reread (fun t _ hj => Kind.settled_of_takes .text ⟨t, hj⟩)
      fun _ hnull => by simp [Json.text] at hnull
  case mode =>
    -- null names the mode that is the default
    refine h.mode.reread (fun m j hj => ?_) fun m hnull => ?_
    · obtain ⟨rfl, -⟩ | ⟨t, rfl, -⟩ := hj
      · rfl
      · rfl
    · obtain ⟨-, rfl⟩ | ⟨t, hnull, -⟩ := hnull
      · rfl
      · simp [Json.text] at hnull

end

/-! ### Outcomes -/

/-- What changes make of settings, and whether they changed the configuration; `none` if they are
refused. -/
def Settings.outcome (s : Settings) (cs : Changes) : Option (Settings × Bool) :=
  (s.withChanges? cs).map fun next => (next, s.routingChanged next cs)

namespace Changes

theorem outcome_eq_none_iff {s : Settings} {cs : Changes} :
    s.outcome cs = none ↔ cs.IsMisfit := by
  rw [Settings.outcome, Option.map_eq_none_iff, Settings.withChanges?_eq_none_iff]

theorem outcome_reread_of_not_isMisfit {cs : Changes} (h : ¬cs.IsMisfit) (s : Settings) :
    s.outcome cs.reread = s.outcome cs := by
  cases hnext : s.withChanges? cs with
  | none => exact absurd (Settings.withChanges?_eq_none_iff.1 hnext) h
  | some next =>
      have hlead := (Settings.withChanges?_eq_some_iff.1 hnext).reread
      rw [Settings.outcome, Settings.outcome, hnext, Settings.withChanges?_eq_some_iff.2 hlead]
      simp [Settings.routingChanged]

/-- What is read back comes to something else exactly if the misfits are gone. -/
theorem outcome_reread_eq_iff {s : Settings} {cs : Changes} :
    s.outcome cs.reread = s.outcome cs ↔ (cs.IsMisfit → cs.reread.IsMisfit) := by
  constructor
  · intro hsame hmisfit
    rw [outcome_eq_none_iff.2 hmisfit, outcome_eq_none_iff] at hsame
    exact hsame
  · intro hread
    by_cases hmisfit : cs.IsMisfit
    · rw [outcome_eq_none_iff.2 hmisfit, outcome_eq_none_iff.2 (hread hmisfit)]
    · exact outcome_reread_of_not_isMisfit hmisfit s

/-- **What is read back of changes, and when that comes to the same.**  Changes that are written in
any layout are read back if their values are pure data and not nested too deep, each key with what is
read back of its values.  For any settings the outcome is then the same if and only if no key of the
flag, the URL or a list is set to null, or some known key is set to another value that is of the
wrong kind.  If it is not the same, the changes are refused as they were, and not refused as they
are read back. -/
theorem outcome_reread (l : Json.Layout) (cs : Changes) :
    (Json.parse (l.write cs.document)).bind ofDocument?
        = (if cs.isData then some cs.reread else none) ∧
      ∀ s : Settings,
        (s.outcome cs.reread = s.outcome cs ↔
          ((∃ key ∈ "proxyEnabled" :: "proxyUrl" :: Settings.listKeys, cs.value? key = some .null) →
            ∃ key j, j ≠ .null ∧ cs.Misfits key j)) ∧
        (s.outcome cs.reread ≠ s.outcome cs →
          s.outcome cs = none ∧ ∃ next, s.LeadsTo cs.reread next) := by
  refine ⟨bind_parse_write l cs, fun s => ⟨?same, ?different⟩⟩
  case same =>
    rw [outcome_reread_eq_iff, isMisfit_iff_null_or, isMisfit_reread_iff, or_imp]
    exact and_iff_left id
  case different =>
    intro hdiff
    rw [ne_eq, outcome_reread_eq_iff, Classical.not_imp] at hdiff
    obtain ⟨hmisfit, hread⟩ := hdiff
    refine ⟨outcome_eq_none_iff.2 hmisfit, ?_⟩
    cases hnext : s.withChanges? cs.reread with
    | some next => exact ⟨next, Settings.withChanges?_eq_some_iff.1 hnext⟩
    | none => exact absurd (Settings.withChanges?_eq_none_iff.1 hnext) hread

/-- Setting the flag to null is refused; read back it is a removal, which switches the proxy on. -/
theorem not_outcome_reread :
    ∃ cs : Changes,
      (Json.parse (Json.Layout.compact.write
          (ofList [("proxyEnabled", .set .null)]).document)).bind ofDocument? = some cs ∧
        Settings.outcome { Settings.standard with proxyEnabled := false }
          (ofList [("proxyEnabled", .set .null)]) = none ∧
        Settings.outcome { Settings.standard with proxyEnabled := false } cs
          = some (Settings.standard, true) :=
  ⟨ofList [("proxyEnabled", .removal)], by rw [bind_parse_write]; rfl, by decide, by decide⟩

end Changes

end HostRouting
