/-
**What a notification of changes means.**

Changes are folded into settings by way of documents, which hides what they mean.  Here that is said
without documents to write or read: of which kind the value of each key has to be, and what becomes
of a single field.  A field keeps its value if its key does not change, takes its default if the key
is removed, and otherwise takes the value that the new document is the document of.  Folding leads
to some settings exactly if this relates each of their fields to the same field before; and it fails
exactly if a known key is set to a value of another kind.

Main definitions:

* `Settings.Kind`, `Settings.kinds` — the kinds of values, and the kind of each key;
* `Changes.IsMisfit` — some known key is set to a value of another kind;
* `Changes.Leaves` — what changes make of a single field;
* `RuleSource.LeadsTo`, `Settings.LeadsTo` — what changes make of settings, field by field.

Main results:

* `Settings.accepts_of_mem_kinds` — a value may be set under a key iff it is of its kind;
* `Changes.leaves_iff` — what becomes of a single field, as it is computed;
* `Settings.withChanges?_eq_some_iff` — what changes lead to;
* `Settings.withChanges?_meaning` — **when folding fails, what it does, and that it settles**.
-/

import HostRouting.Proofs.Service.Operation
import HostRouting.Proofs.Text.Utf8

set_option autoImplicit false

namespace HostRouting

/-! ### Kinds of values -/

namespace Settings

/-- The kinds of values that keys take. -/
inductive Kind where
  | flag
  | text
  | texts
  /-- A text, or null for none. -/
  | optionalText
  deriving DecidableEq, Repr

/-- Whether a value is of a kind. -/
def Kind.Takes : Kind → Json → Prop
  | .flag, j => ∃ b, j = .bool b
  | .text, j => ∃ s, j = .text s
  | .texts, j => ∃ ss, j = .texts ss
  | .optionalText, j => j = .null ∨ ∃ s, j = .text s

/-- The kind of each key. -/
def kinds : List (String × Kind) := [
  ("proxyEnabled", .flag),
  ("proxyUrl", .text),
  ("mode", .optionalText),
  ("whitelistRules", .texts),
  ("blacklistRules", .texts),
  ("whitelistRawRules", .optionalText),
  ("blacklistRawRules", .optionalText),
  ("whitelistRulesUrl", .optionalText),
  ("blacklistRulesUrl", .optionalText),
  ("whitelistUrlRules", .optionalText),
  ("blacklistUrlRules", .optionalText),
  ("whitelistUrlRulesParsed", .texts),
  ("blacklistUrlRulesParsed", .texts)]

/-- Exactly the keys of the settings have a kind. -/
theorem map_kinds : kinds.map (·.1) = keys := by decide

end Settings

namespace Json

/-! ### What is read as a value -/

theorem bool?_eq_some_iff {j : Json} {b : Bool} : j.bool? = some b ↔ j = .bool b := by
  cases j <;> simp [bool?]

theorem text?_eq_some_iff {j : Json} {s : String} : j.text? = some s ↔ j = .text s := by
  cases j <;> simp [text?, text]

theorem mapM_text?_eq_some_iff {js : List Json} {ss : List String} :
    js.mapM text? = some ss ↔ js = ss.map text :=
  mapM_eq_some_iff_eq_map fun _ _ => text?_eq_some_iff

theorem texts?_eq_some_iff {j : Json} {ss : List String} :
    j.texts? = some ss ↔ j = .texts ss := by
  cases j <;> simp [texts?, texts, mapM_text?_eq_some_iff]

theorem optional_text?_eq_some_iff {j : Json} {s : Option String} :
    optional text? j = some s ↔ j = orNull text s := by
  cases s with
  | none => cases j <;> simp [optional, orNull, text?]
  | some s => cases j <;> simp [optional, orNull, text?, text]

end Json

/-! ### When folding fails -/

namespace Settings

/-- What is read in some way is of a kind if exactly the documents of that kind are read. -/
theorem isSome_iff_takes {α : Type} {read? : Json → Option α} {kind : Kind}
    (h : ∀ j, (∃ a, read? j = some a) ↔ kind.Takes j) (j : Json) :
    (read? j).isSome = true ↔ kind.Takes j := by
  rw [Option.isSome_iff_exists, h]

theorem isSome_bool? (j : Json) : j.bool?.isSome = true ↔ Kind.flag.Takes j :=
  isSome_iff_takes (fun _ => exists_congr fun _ => Json.bool?_eq_some_iff) j

theorem isSome_text? (j : Json) : j.text?.isSome = true ↔ Kind.text.Takes j :=
  isSome_iff_takes (fun _ => exists_congr fun _ => Json.text?_eq_some_iff) j

theorem isSome_texts? (j : Json) : j.texts?.isSome = true ↔ Kind.texts.Takes j :=
  isSome_iff_takes (fun _ => exists_congr fun _ => Json.texts?_eq_some_iff) j

theorem isSome_optional (j : Json) :
    (Json.optional Json.text? j).isSome = true ↔ Kind.optionalText.Takes j := by
  refine isSome_iff_takes (fun j => ?_) j
  simp only [Json.optional_text?_eq_some_iff, Kind.Takes]
  constructor
  · rintro ⟨_ | s, rfl⟩
    · exact .inl rfl
    · exact .inr ⟨s, rfl⟩
  · rintro (rfl | ⟨s, rfl⟩)
    · exact ⟨none, rfl⟩
    · exact ⟨some s, rfl⟩

/-- A known key accepts the values of its kind. -/
theorem accepts_of_mem_kinds :
    ∀ f ∈ kinds, ∀ j, accepts f.1 j = true ↔ f.2.Takes j := by
  simp only [kinds, List.forall_mem_cons, List.not_mem_nil, false_implies, implies_true, and_true]
  exact ⟨isSome_bool?, isSome_text?, isSome_optional, isSome_texts?, isSome_texts?,
    isSome_optional, isSome_optional, isSome_optional, isSome_optional, isSome_optional,
    isSome_optional, isSome_texts?, isSome_texts?⟩

theorem mem_kinds_iff {key : String} {kind : Kind} :
    (key, kind) ∈ kinds ↔ kinds.lookup key = some kind :=
  (Record.lookup_eq_some_iff (by decide)).symm

end Settings

/-- Some known key is set to a value of another kind. -/
def Changes.IsMisfit (cs : Changes) : Prop :=
  ∃ key c j kind, (key, c) ∈ cs.entries ∧ c.new = some j ∧ Settings.kinds.lookup key = some kind ∧
    ¬kind.Takes j

/-- Changes are refused exactly if one of them is a misfit. -/
theorem Changes.isMisfit_iff {cs : Changes} : cs.IsMisfit ↔ cs.areAccepted = false := by
  rw [← Bool.not_eq_true, Settings.areAccepted_iff]
  constructor
  · rintro ⟨key, c, j, kind, hc, hj, hkind, hnot⟩ hfits
    have hmem := Settings.mem_kinds_iff.2 hkind
    have hkey : key ∈ Settings.keys := Settings.map_kinds ▸ List.mem_map_of_mem hmem
    have hvalue : cs.value? key = some j := by
      rw [value?, Changes.mem_entries_iff.1 hc]
      exact hj
    have haccepts := hfits key hkey
    rw [Settings.fits, hvalue] at haccepts
    exact hnot ((Settings.accepts_of_mem_kinds _ hmem j).1 haccepts)
  · intro hnot
    simp only [Classical.not_forall] at hnot
    obtain ⟨key, hkey, hfits⟩ := hnot
    rw [← Settings.map_kinds, List.mem_map] at hkey
    obtain ⟨⟨key, kind⟩, hmem, rfl⟩ := hkey
    cases hvalue : cs.value? key with
    | none => simp [Settings.fits, hvalue] at hfits
    | some j =>
        obtain ⟨c, hc, hj⟩ := Option.bind_eq_some_iff.1 hvalue
        refine ⟨key, c, j, kind, Changes.mem_entries_iff.2 hc, hj, Settings.mem_kinds_iff.1 hmem,
          ?_⟩
        rw [← Settings.accepts_of_mem_kinds _ hmem j]
        simpa [Settings.fits, hvalue] using hfits

/-! ### What becomes of a field -/

namespace Changes

section Leaves

variable {α : Type} {cs : Changes} {key : String} {IsWritten : α → Json → Prop}
  {default old new : α}

/-- What changes make of a field: it keeps its value if its key does not change, takes its default
if the key is removed, and otherwise takes the value that is written as the new document. -/
inductive Leaves (cs : Changes) (key : String) (IsWritten : α → Json → Prop) (default old : α) :
    α → Prop where
  | kept (h : cs.change? key = none) : Leaves cs key IsWritten default old old
  | removed {prior : Option Json} (h : cs.change? key = some ⟨prior, none⟩) :
      Leaves cs key IsWritten default old default
  | set {prior : Option Json} {j : Json} {a : α} (h : cs.change? key = some ⟨prior, some j⟩)
      (hj : IsWritten a j) : Leaves cs key IsWritten default old a

/-- The same changes make nothing else of the field when they come again. -/
theorem Leaves.again (h : cs.Leaves key IsWritten default old new) :
    cs.Leaves key IsWritten default new new := by
  cases h with
  | kept h => exact .kept h
  | removed h => exact .removed h
  | set h hj => exact .set h hj

/-- What becomes of a field, as it is computed. -/
theorem leaves_iff {read? : Json → Option α} (hread : ∀ j a, read? j = some a ↔ IsWritten a j)
    (haccepts : Settings.accepts key = fun j => (read? j).isSome) :
    cs.Leaves key IsWritten default old new ↔
      Settings.fits cs key = true ∧ new = cs.folded key read? default old := by
  rw [Settings.fits, value?, folded, haccepts]
  constructor
  · intro h
    cases h with
    | kept h => simp [h]
    | removed h => simp [h]
    | set h hj => simp [h, (hread _ new).2 hj]
  · rintro ⟨hfits, rfl⟩
    rcases h : cs.change? key with _ | ⟨prior, _ | j⟩
    · exact .kept h
    · exact .removed h
    · rw [h] at hfits
      obtain ⟨a, ha⟩ := Option.isSome_iff_exists.1 (by simpa using hfits)
      simp only [ha, Option.getD_some]
      exact .set h ((hread j a).1 ha)

end Leaves

end Changes

/-! ### What becomes of settings -/

/-- What changes make of what is kept for a mode: each field goes its own way. -/
structure RuleSource.LeadsTo (r : RuleSource) (m : Mode) (cs : Changes) (next : RuleSource) :
    Prop where
  manual : cs.Leaves (manualKey m) (fun ss j => j = .texts ss) [] r.manual next.manual
  manualText : cs.Leaves (manualTextKey m) (fun s j => j = Json.orNull .text s) none
    r.manualText next.manualText
  url : cs.Leaves (urlKey m) (fun s j => j = Json.orNull .text s) none r.url next.url
  fetchedText : cs.Leaves (fetchedTextKey m) (fun s j => j = Json.orNull .text s) none
    r.fetchedText next.fetchedText
  fetched : cs.Leaves (fetchedKey m) (fun ss j => j = .texts ss) [] r.fetched next.fetched

namespace Settings

/-- Whether a document names a mode, which is whitelist if it is null or no known word. -/
def IsWrittenMode (m : Mode) (j : Json) : Prop :=
  (j = .null ∧ m = .whitelist) ∨ ∃ s, j = .text s ∧ m = .ofTextOrDefault s

/-- What changes make of settings: each field goes its own way. -/
structure LeadsTo (s : Settings) (cs : Changes) (next : Settings) : Prop where
  proxyEnabled : cs.Leaves "proxyEnabled" (fun b j => j = .bool b) true
    s.proxyEnabled next.proxyEnabled
  proxyUrl : cs.Leaves "proxyUrl" (fun s j => j = .text s) Proxy.defaultUrl s.proxyUrl next.proxyUrl
  mode : cs.Leaves "mode" IsWrittenMode .whitelist s.mode next.mode
  source : ∀ m, (s.source m).LeadsTo m cs (next.source m)

end Settings

/-! ### The same changes again -/

theorem RuleSource.LeadsTo.again {r next : RuleSource} {m : Mode} {cs : Changes}
    (h : r.LeadsTo m cs next) : next.LeadsTo m cs next :=
  ⟨h.manual.again, h.manualText.again, h.url.again, h.fetchedText.again, h.fetched.again⟩

/-- Changes that come again lead nowhere else. -/
theorem Settings.LeadsTo.again {s next : Settings} {cs : Changes} (h : s.LeadsTo cs next) :
    next.LeadsTo cs next :=
  ⟨h.proxyEnabled.again, h.proxyUrl.again, h.mode.again, fun m => (h.source m).again⟩

/-! ### Folding leads there -/

section Leads

variable {cs : Changes}

namespace Changes

variable {key : String}

theorem leaves_texts_iff (h : Settings.accepts key = fun j => j.texts?.isSome)
    {old new : List String} :
    cs.Leaves key (fun ss j => j = .texts ss) [] old new ↔
      Settings.fits cs key = true ∧ new = cs.folded key Json.texts? [] old :=
  leaves_iff (fun _ _ => Json.texts?_eq_some_iff) h

theorem leaves_optionalText_iff
    (h : Settings.accepts key = fun j => (Json.optional Json.text? j).isSome)
    {old new : Option String} :
    cs.Leaves key (fun s j => j = Json.orNull .text s) none old new ↔
      Settings.fits cs key = true ∧ new = cs.folded key (Json.optional Json.text?) none old :=
  leaves_iff (fun _ _ => Json.optional_text?_eq_some_iff) h

end Changes

theorem RuleSource.leadsTo_iff {r next : RuleSource} {m : Mode} :
    r.LeadsTo m cs next ↔
      (Settings.sourceKeys m).all (Settings.fits cs) = true ∧ next = r.folded m cs := by
  constructor
  · intro h
    obtain ⟨hf₁, he₁⟩ := (Changes.leaves_texts_iff (by cases m <;> rfl)).1 h.manual
    obtain ⟨hf₂, he₂⟩ := (Changes.leaves_optionalText_iff (by cases m <;> rfl)).1 h.manualText
    obtain ⟨hf₃, he₃⟩ := (Changes.leaves_optionalText_iff (by cases m <;> rfl)).1 h.url
    obtain ⟨hf₄, he₄⟩ := (Changes.leaves_optionalText_iff (by cases m <;> rfl)).1 h.fetchedText
    obtain ⟨hf₅, he₅⟩ := (Changes.leaves_texts_iff (by cases m <;> rfl)).1 h.fetched
    refine ⟨by simp [Settings.sourceKeys, hf₁, hf₂, hf₃, hf₄, hf₅], ?_⟩
    cases next
    rw [folded, RuleSource.mk.injEq]
    exact ⟨he₁, he₂, he₃, he₄, he₅⟩
  · rintro ⟨hfits, rfl⟩
    simp only [Settings.sourceKeys, List.all_cons, List.all_nil, Bool.and_true,
      Bool.and_eq_true] at hfits
    obtain ⟨hf₁, hf₂, hf₃, hf₄, hf₅⟩ := hfits
    exact ⟨(Changes.leaves_texts_iff (by cases m <;> rfl)).2 ⟨hf₁, rfl⟩,
      (Changes.leaves_optionalText_iff (by cases m <;> rfl)).2 ⟨hf₂, rfl⟩,
      (Changes.leaves_optionalText_iff (by cases m <;> rfl)).2 ⟨hf₃, rfl⟩,
      (Changes.leaves_optionalText_iff (by cases m <;> rfl)).2 ⟨hf₄, rfl⟩,
      (Changes.leaves_texts_iff (by cases m <;> rfl)).2 ⟨hf₅, rfl⟩⟩

namespace Settings

theorem mode?_eq_some_iff {j : Json} {m : Mode} : mode? j = some m ↔ IsWrittenMode m j := by
  rw [mode?, Option.map_eq_some_iff, IsWrittenMode]
  simp only [Json.optional_text?_eq_some_iff]
  constructor
  · rintro ⟨_ | s, rfl, rfl⟩
    · exact .inl ⟨rfl, rfl⟩
    · exact .inr ⟨s, rfl, rfl⟩
  · rintro (⟨rfl, rfl⟩ | ⟨s, rfl, rfl⟩)
    · exact ⟨none, rfl, rfl⟩
    · exact ⟨some s, rfl, rfl⟩

/-- Whether a document is read as a mode is whether it is read as a text that may be unset. -/
theorem accepts_mode : accepts "mode" = fun j => (mode? j).isSome := by
  funext j
  rw [mode?, Option.isSome_map]
  rfl

theorem leadsTo_iff {s next : Settings} :
    s.LeadsTo cs next ↔ cs.areAccepted = true ∧ next = s.folded cs := by
  have haccepted : cs.areAccepted = keys.all (fits cs) := by
    rw [Bool.eq_iff_iff, areAccepted_iff, List.all_eq_true]
  rw [haccepted, all_keys]
  simp only [Bool.and_eq_true]
  constructor
  · intro h
    obtain ⟨hf₁, he₁⟩ := (Changes.leaves_iff (fun _ _ => Json.bool?_eq_some_iff) rfl).1
      h.proxyEnabled
    obtain ⟨hf₂, he₂⟩ := (Changes.leaves_iff (fun _ _ => Json.text?_eq_some_iff) rfl).1 h.proxyUrl
    obtain ⟨hf₃, he₃⟩ := (Changes.leaves_iff (fun _ _ => mode?_eq_some_iff) accepts_mode).1 h.mode
    obtain ⟨hfw, hew⟩ := RuleSource.leadsTo_iff.1 (h.source .whitelist)
    obtain ⟨hfb, heb⟩ := RuleSource.leadsTo_iff.1 (h.source .blacklist)
    refine ⟨⟨hf₁, hf₂, hf₃, hfw, hfb⟩, ?_⟩
    cases next
    rw [folded, Settings.mk.injEq]
    exact ⟨he₁, he₂, he₃, hew, heb⟩
  · rintro ⟨⟨hf₁, hf₂, hf₃, hfw, hfb⟩, rfl⟩
    refine ⟨(Changes.leaves_iff (fun _ _ => Json.bool?_eq_some_iff) rfl).2 ⟨hf₁, rfl⟩,
      (Changes.leaves_iff (fun _ _ => Json.text?_eq_some_iff) rfl).2 ⟨hf₂, rfl⟩,
      (Changes.leaves_iff (fun _ _ => mode?_eq_some_iff) accepts_mode).2 ⟨hf₃, rfl⟩, ?_⟩
    rintro (_ | _)
    · exact RuleSource.leadsTo_iff.2 ⟨hfw, rfl⟩
    · exact RuleSource.leadsTo_iff.2 ⟨hfb, rfl⟩

/-- What changes lead to is what folding gives. -/
theorem withChanges?_eq_some_iff {s next : Settings} :
    s.withChanges? cs = some next ↔ s.LeadsTo cs next := by
  rw [withChanges?_eq, Option.ite_none_right_eq_some, Option.some.injEq, leadsTo_iff,
    eq_comm (a := next)]

theorem withChanges?_eq_none_iff {s : Settings} : s.withChanges? cs = none ↔ cs.IsMisfit := by
  rw [withChanges?_eq, Changes.isMisfit_iff]
  cases cs.areAccepted <;> simp

end Settings

end Leads

/-- **What changes mean.**  Folding them in fails exactly if a known key is set to a value of
another kind, and then every service that is told of them stays as it is.  Otherwise each field goes
its own way: it stays if its key does not change, takes its default if the key is removed, and takes
the new value if one is set.  Folding the same changes in again then succeeds, leads to the same
settings and reports no change. -/
theorem Settings.withChanges?_meaning (s : Settings) (cs : Changes) :
    (s.withChanges? cs = none ↔ cs.IsMisfit) ∧
      (cs.IsMisfit → ∀ service : Service, service.onChanges cs = (service, none)) ∧
      (∀ next, s.withChanges? cs = some next ↔ s.LeadsTo cs next) ∧
      ∀ next, s.withChanges? cs = some next →
        next.withChanges? cs = some next ∧ next.routingChanged next cs = false := by
  refine ⟨withChanges?_eq_none_iff, ?refused, fun next => withChanges?_eq_some_iff, ?again⟩
  case refused =>
    intro hmisfit service
    exact service.onChanges_of_refused (Changes.isMisfit_iff.1 hmisfit)
  case again =>
    intro next h
    have hagain := (withChanges?_eq_some_iff.1 h).again
    exact ⟨withChanges?_eq_some_iff.2 hagain, by simp [routingChanged]⟩

end HostRouting
