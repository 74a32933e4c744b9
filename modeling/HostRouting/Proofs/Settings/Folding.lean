/-
**Changes folded in field by field.**

Changes are folded into settings by way of documents: the settings are written, members are put in
and taken out, and the result is read back.  What comes out can be said without any document.  Each
field keeps its value if its key does not change, takes its default if the key is removed, and takes
the new value otherwise; and this happens as a whole or, if some known key has a value of the wrong
kind, not at all.

Main definitions:

* `Settings.accepts` — whether a value may be set under a key;
* `Changes.areAccepted` — whether all values that changes set may be set;
* `Changes.folded` — a field after changes;
* `Settings.folded` — the settings with every field folded.

Main results:

* `Settings.withChanges?_eq` — folding by way of documents is folding field by field;
* `Settings.folded_folded` — folding in two parts one after the other is folding in both at once.
-/

import HostRouting.Proofs.Record
import HostRouting.Settings.Changes

set_option autoImplicit false

namespace HostRouting

/-! ### Single fields -/

namespace Changes

variable {α : Type}

/-- The change of a key, if it changes. -/
def change? (cs : Changes) (key : String) : Option Change := cs.entries.lookup key

/-- The value that changes set under a key, if they set one. -/
def value? (cs : Changes) (key : String) : Option Json := (cs.change? key).bind (·.new)

/-- A field after changes: as it was if its key does not change, its default if the key is removed,
and the new value otherwise.  A value that cannot be read leaves the field as it was. -/
def folded (cs : Changes) (key : String) (read? : Json → Option α) (default old : α) : α :=
  match cs.change? key with
  | none => old
  | some ⟨_, none⟩ => default
  | some ⟨_, some j⟩ => (read? j).getD old

theorem names_eq (cs : Changes) (key : String) : cs.names key = (cs.change? key).isSome := by
  rw [Bool.eq_iff_iff, names, keys, List.contains_iff_mem, change?, Option.isSome_iff_ne_none,
    ne_eq, Record.lookup_eq_none_iff, Classical.not_not]

theorem change?_eq_none {cs : Changes} {key : String} (h : cs.names key = false) :
    cs.change? key = none := by
  rw [names_eq] at h
  simpa using h

theorem mem_entries_iff {cs : Changes} {key : String} {c : Change} :
    (key, c) ∈ cs.entries ↔ cs.change? key = some c :=
  (Record.lookup_eq_some_iff cs.nodup_keys).symm

/-- A field that is read in two steps may be folded after the first. -/
theorem folded_map {β : Type} (f : α → β) (cs : Changes) (key : String) (read? : Json → Option α)
    (default old : α) :
    f (cs.folded key read? default old)
      = cs.folded key (fun j => (read? j).map f) (f default) (f old) := by
  unfold folded
  rcases cs.change? key with _ | ⟨_, _ | j⟩
  · rfl
  · rfl
  · cases hr : read? j <;> simp [hr]

@[simp] theorem folded_of_not_names {cs : Changes} {key : String} (h : cs.names key = false)
    (read? : Json → Option α) (default old : α) : cs.folded key read? default old = old := by
  rw [folded, change?_eq_none h]

end Changes

/-! ### Settings -/

/-- What is kept for a mode, with every field folded. -/
def RuleSource.folded (r : RuleSource) (m : Mode) (cs : Changes) : RuleSource where
  manual := cs.folded (manualKey m) Json.texts? [] r.manual
  manualText := cs.folded (manualTextKey m) (Json.optional Json.text?) none r.manualText
  url := cs.folded (urlKey m) (Json.optional Json.text?) none r.url
  fetchedText := cs.folded (fetchedTextKey m) (Json.optional Json.text?) none r.fetchedText
  fetched := cs.folded (fetchedKey m) Json.texts? [] r.fetched

namespace Settings

/-- The mode that a document names, read leniently: null and unknown words mean whitelist. -/
def mode? (j : Json) : Option Mode := (Json.optional Json.text? j).map Mode.ofOptionalText

/-- The settings with every field folded. -/
def folded (s : Settings) (cs : Changes) : Settings where
  proxyEnabled := cs.folded "proxyEnabled" Json.bool? standard.proxyEnabled s.proxyEnabled
  proxyUrl := cs.folded "proxyUrl" Json.text? standard.proxyUrl s.proxyUrl
  mode := cs.folded "mode" mode? standard.mode s.mode
  whitelist := s.whitelist.folded .whitelist cs
  blacklist := s.blacklist.folded .blacklist cs

@[simp] theorem source_folded (s : Settings) (cs : Changes) (m : Mode) :
    (s.folded cs).source m = (s.source m).folded m cs := by cases m <;> rfl

/-- The keys under which lists of texts are kept. -/
def listKeys : List String :=
  [RuleSource.manualKey, RuleSource.fetchedKey].flatMap fun key => [key .whitelist, key .blacklist]

/-- Whether a value may be set under a key: a truth value, a text and lists of texts under theirs,
a text or null under the mode and the texts that may be unset, and anything under an unknown key. -/
def accepts (key : String) (j : Json) : Bool :=
  if key = "proxyEnabled" then j.bool?.isSome
  else if key = "proxyUrl" then j.text?.isSome
  else if listKeys.contains key then j.texts?.isSome
  else if keys.contains key then (Json.optional Json.text? j).isSome
  else true

end Settings

/-- Whether all values that changes set may be set under their keys. -/
def Changes.areAccepted (cs : Changes) : Bool :=
  cs.entries.all fun (key, c) => c.new.all (Settings.accepts key)

/-! ### Members after changes -/

namespace Settings

theorem lookup_changedMembers (ms : List (String × Json)) (k key : String) (c : Change) :
    (changedMembers ms k c).lookup key = if key = k then c.new else ms.lookup key := by
  have hnew : (c.new.map (k, ·)).toList.lookup key = if key = k then c.new else none := by
    by_cases hk : key = k
    · cases c.new <;> simp [hk]
    · cases c.new <;> simp [hk]
  rw [changedMembers, List.lookup_append, hnew]
  by_cases hk : key = k
  · subst hk
    have hnone : (ms.filter (·.1 != key)).lookup key = none := by
      rw [Record.lookup_eq_none_iff]
      simp
    simp [hnone]
  · have hp : (key != k) = true := by simpa using hk
    rw [Record.lookup_filter ms (· != k) hp]
    simp [hk]

theorem nodup_changedMembers {ms : List (String × Json)} (h : (ms.map (·.1)).Nodup) (k : String)
    (c : Change) : ((changedMembers ms k c).map (·.1)).Nodup := by
  have hf : ((ms.filter (·.1 != k)).map (·.1)).Nodup := h.sublist (List.filter_sublist.map _)
  cases hc : c.new with
  | none => simpa [changedMembers, hc] using hf
  | some j =>
      rw [changedMembers, hc, List.map_append, List.nodup_append]
      refine ⟨hf, by simp, ?_⟩
      intro a ha b hb
      obtain ⟨m, hm, rfl⟩ := List.mem_map.1 ha
      have hne := (List.mem_filter.1 hm).2
      simp only [Option.map_some, Option.toList_some, List.map_cons, List.map_nil,
        List.mem_singleton] at hb
      subst hb
      simpa using hne

/-- Of changes with distinct keys, each one stands by itself. -/
theorem lookup_foldl_changedMembers (key : String) : ∀ (es : List (String × Change))
    (ms : List (String × Json)), (es.map (·.1)).Nodup →
      (es.foldl (fun ms e => changedMembers ms e.1 e.2) ms).lookup key =
        match es.lookup key with
        | none => ms.lookup key
        | some c => c.new
  | [], ms, _ => rfl
  | (k, c) :: es, ms, h => by
      rw [List.map_cons, List.nodup_cons] at h
      rw [List.foldl_cons, lookup_foldl_changedMembers key es _ h.2, lookup_changedMembers,
        List.lookup_cons]
      by_cases hk : key = k
      · subst hk
        simp [Record.lookup_eq_none_iff.2 h.1]
      · have hb : (key == k) = false := by simpa using hk
        simp [hk, hb]

theorem nodup_foldl_changedMembers : ∀ (es : List (String × Change)) (ms : List (String × Json)),
    (ms.map (·.1)).Nodup →
      ((es.foldl (fun ms e => changedMembers ms e.1 e.2) ms).map (·.1)).Nodup
  | [], _, h => h
  | (k, c) :: es, _, h => nodup_foldl_changedMembers es _ (nodup_changedMembers h k c)

/-- The members of settings after changes. -/
def membersAfter (s : Settings) (cs : Changes) : List (String × Json) :=
  cs.entries.foldl (fun ms e => changedMembers ms e.1 e.2) s.members

theorem lookup_membersAfter (s : Settings) (cs : Changes) (key : String) :
    (s.membersAfter cs).lookup key =
      match cs.change? key with
      | none => s.members.lookup key
      | some c => c.new :=
  lookup_foldl_changedMembers key cs.entries s.members cs.nodup_keys

/-- A field read after changes, from the same field read before them. -/
theorem field_membersAfter {α : Type} {s : Settings} {key : String} {read? : Json → Option α}
    {default old : α} (h : Record.field s.members key read? default = some old) (cs : Changes) :
    Record.field (s.membersAfter cs) key read? default =
      if (cs.value? key).all fun j => (read? j).isSome then
        some (cs.folded key read? default old)
      else none := by
  rw [Record.field, lookup_membersAfter, Changes.value?, Changes.folded]
  rcases cs.change? key with _ | ⟨_, _ | j⟩
  · simpa [Record.field] using h
  · simp
  · cases hr : read? j <;> simp [hr]

/-! ### Fields before changes -/

theorem texts?_texts (ss : List String) : (Json.texts ss).texts? = some ss := by
  simp only [Json.texts, Json.texts?, List.mapM_map]
  induction ss with
  | nil => rfl
  | cons s ss ih =>
      rw [List.mapM_cons, ih]
      rfl

theorem ofOptionalText_text (m : Mode) : Mode.ofOptionalText (some m.text) = m := by
  cases m <;> decide

theorem lookup_optionalMember (key k : String) (text : Option String) :
    (optionalMember k text).lookup key = if key = k then text.map Json.text else none := by
  by_cases hk : key = k <;> cases text <;> simp [optionalMember, hk]

theorem nodup_members (s : Settings) : (s.members.map (·.1)).Nodup := by
  have h : keys.Nodup := by decide
  refine h.sublist ?_
  have hsub (k : String) (text : Option String) :
      ((optionalMember k text).map (·.1)).Sublist [k] := by
    cases text <;> simp [optionalMember]
  simp only [members, eachMode, List.map_append]
  exact (((((List.Sublist.refl _).append (.refl _)).append ((hsub _ _).append (hsub _ _))).append
    ((hsub _ _).append (hsub _ _))).append ((hsub _ _).append (hsub _ _))).append (.refl _)

theorem field_text {fs : Record.Fields Json} {key : String} {text : Option String}
    (h : fs.lookup key = text.map Json.text) :
    Record.field fs key (Json.optional Json.text?) none = some text := by
  rw [Record.field, h]
  cases text <;> rfl

theorem field_texts {fs : Record.Fields Json} {key : String} {texts : List String}
    (h : fs.lookup key = some (Json.texts texts)) :
    Record.field fs key Json.texts? [] = some texts := by
  rw [Record.field, h]
  exact texts?_texts texts

theorem field_proxyEnabled (s : Settings) :
    Record.field s.members "proxyEnabled" jsonValues.bool? standard.proxyEnabled
      = some s.proxyEnabled := rfl

theorem field_proxyUrl (s : Settings) :
    Record.field s.members "proxyUrl" jsonValues.text? standard.proxyUrl = some s.proxyUrl := rfl

theorem field_mode (s : Settings) :
    Record.field s.members "mode" jsonValues.optionalText? none = some (some s.mode.text) := rfl

/-- What the settings write for a mode. -/
theorem lookup_members (s : Settings) (m : Mode) :
    s.members.lookup (RuleSource.manualKey m) = some (.texts (s.source m).manual) ∧
      s.members.lookup (RuleSource.manualTextKey m) = (s.source m).manualText.map .text ∧
      s.members.lookup (RuleSource.urlKey m) = (s.source m).url.map .text ∧
      s.members.lookup (RuleSource.fetchedTextKey m) = (s.source m).fetchedText.map .text ∧
      s.members.lookup (RuleSource.fetchedKey m) = some (.texts (s.source m).fetched) := by
  cases m <;>
    simp [members, eachMode, List.lookup_append, List.lookup_cons, lookup_optionalMember,
      RuleSource.manualKey, RuleSource.manualTextKey, RuleSource.urlKey,
      RuleSource.fetchedTextKey, RuleSource.fetchedKey, Mode.text]

/-! ### Reading after changes -/

/-- Whether the value that changes set under a key, if they set one, may be set there. -/
def fits (cs : Changes) (key : String) : Bool := (cs.value? key).all (accepts key)

theorem areAccepted_iff {cs : Changes} :
    cs.areAccepted = true ↔ ∀ key ∈ keys, fits cs key = true := by
  simp only [Changes.areAccepted, List.all_eq_true, Prod.forall, fits, Option.all_eq_true,
    Changes.value?, Option.bind_eq_some_iff]
  constructor
  · rintro h key - j ⟨c, hc, hn⟩
    exact h key c (Changes.mem_entries_iff.2 hc) j hn
  · intro h key c hc j hn
    by_cases hk : key ∈ keys
    · exact h key hk j ⟨c, Changes.mem_entries_iff.1 hc, hn⟩
    · -- an unknown key takes anything
      have h₁ : key ≠ "proxyEnabled" := fun he => hk (he ▸ by decide)
      have h₂ : key ≠ "proxyUrl" := fun he => hk (he ▸ by decide)
      have h₃ : key ∉ listKeys := fun he => hk (List.mem_append_right _ (by
        simp only [listKeys, List.flatMap_cons, List.flatMap_nil, List.append_nil] at he ⊢
        grind))
      simp [accepts, h₁, h₂, h₃, hk]

theorem bind_ite_some {α β : Type} (c : Bool) (a : α) (f : α → Option β) :
    ((if c then some a else none) >>= f) = if c then f a else none := by cases c <;> rfl

theorem ite_ite_none {β : Type} (c d : Bool) (o : Option β) :
    (if c then (if d then o else none) else none) = if c && d then o else none := by
  cases c <;> rfl

/-- A field is read after changes if what they set may be set. -/
theorem field_eq_of_fits {α : Type} {s : Settings} {key : String} {read? : Json → Option α}
    {default old : α} (h : Record.field s.members key read? default = some old)
    (ha : accepts key = fun j => (read? j).isSome) (cs : Changes) :
    Record.field (s.membersAfter cs) key read? default =
      if fits cs key then some (cs.folded key read? default old) else none := by
  rw [field_membersAfter h, fits, ha]

/-- The keys of what is kept for a mode. -/
def sourceKeys (m : Mode) : List String :=
  [RuleSource.manualKey m, RuleSource.manualTextKey m, RuleSource.urlKey m,
    RuleSource.fetchedTextKey m, RuleSource.fetchedKey m]

theorem sourceOfFields?_membersAfter (s : Settings) (cs : Changes) (m : Mode) :
    sourceOfFields? jsonValues (s.membersAfter cs) m =
      if (sourceKeys m).all (fits cs) then some ((s.source m).folded m cs) else none := by
  obtain ⟨hm, hmt, hu, hft, hf⟩ := s.lookup_members m
  have h₁ := field_eq_of_fits (field_texts hm) (by cases m <;> rfl) cs
  have h₂ := field_eq_of_fits (field_text hmt) (by cases m <;> rfl) cs
  have h₃ := field_eq_of_fits (field_text hu) (by cases m <;> rfl) cs
  have h₄ := field_eq_of_fits (field_text hft) (by cases m <;> rfl) cs
  have h₅ := field_eq_of_fits (field_texts hf) (by cases m <;> rfl) cs
  simp only [sourceOfFields?, jsonValues, h₁, h₂, h₃, h₄, h₅, bind_ite_some, ite_ite_none,
    sourceKeys, List.all_cons, List.all_nil, Bool.and_true]
  rfl

theorem field_filter {α : Type} (fs : Record.Fields Json) {keys : List String} {key : String}
    (h : keys.contains key = true) (read? : Json → Option α) (default : α) :
    Record.field (fs.filter fun f => keys.contains f.1) key read? default
      = Record.field fs key read? default := by
  rw [Record.field, Record.field, Record.lookup_filter fs keys.contains h]

/-- The keys of the settings are those outside the two modes and those of either mode. -/
theorem all_keys (p : String → Bool) :
    keys.all p = (p "proxyEnabled" && (p "proxyUrl" && (p "mode" &&
      ((sourceKeys .whitelist).all p && (sourceKeys .blacklist).all p)))) := by
  simp only [keys, sourceKeys, List.all_append, List.all_cons, List.all_nil, List.flatMap_cons,
    List.flatMap_nil, Bool.and_true, Bool.and_assoc]
  ac_rfl

theorem ofFields?_membersAfter (s : Settings) (cs : Changes) :
    ofFields? jsonValues (s.membersAfter cs) =
      if cs.areAccepted then some (s.folded cs) else none := by
  have h₁ := field_eq_of_fits s.field_proxyEnabled rfl cs
  have h₂ := field_eq_of_fits s.field_proxyUrl rfl cs
  have h₃ := field_eq_of_fits s.field_mode rfl cs
  have hm : Mode.ofOptionalText
      (cs.folded "mode" jsonValues.optionalText? none (some s.mode.text)) = (s.folded cs).mode := by
    rw [Changes.folded_map Mode.ofOptionalText, ofOptionalText_text]
    rfl
  have ha : cs.areAccepted = keys.all (fits cs) := by
    rw [Bool.eq_iff_iff, areAccepted_iff, List.all_eq_true]
  simp only [ofFields?, h₁, h₂, h₃, sourceOfFields?_membersAfter, bind_ite_some, ite_ite_none, ha,
    all_keys, hm]
  rfl

/-- **Folding by way of documents is folding field by field**, unless some value may not be set. -/
theorem withChanges?_eq (s : Settings) (cs : Changes) :
    s.withChanges? cs = if cs.areAccepted then some (s.folded cs) else none := by
  have hk (m : Mode) : ∀ key ∈ sourceKeys m, keys.contains key = true := by cases m <;> decide
  have hs (m : Mode) : sourceOfFields? jsonValues
      ((s.membersAfter cs).filter fun f => keys.contains f.1) m
        = sourceOfFields? jsonValues (s.membersAfter cs) m := by
    have hk' := hk m
    simp only [sourceKeys, List.forall_mem_cons] at hk'
    obtain ⟨h₁, h₂, h₃, h₄, h₅, -⟩ := hk'
    simp only [sourceOfFields?, field_filter _ h₁, field_filter _ h₂, field_filter _ h₃,
      field_filter _ h₄, field_filter _ h₅]
  rw [withChanges?, ofDocument?, ← ofFields?_membersAfter]
  -- no key is written twice, so reading the document back refuses nothing
  rw [Json.fields?_ofMembers keys (nodup_foldl_changedMembers _ _ s.nodup_members)]
  rw [Option.bind_some]
  change ofFields? jsonValues ((s.membersAfter cs).filter fun f => keys.contains f.1) = _
  simp only [ofFields?, hs, field_filter _ (show keys.contains "proxyEnabled" = true by decide),
    field_filter _ (show keys.contains "proxyUrl" = true by decide),
    field_filter _ (show keys.contains "mode" = true by decide)]

end Settings

/-! ### Folding in parts -/

namespace Changes

/-- Whether changes are split into parts: every change of a key is in exactly one of them. -/
def IsSplit (cs : Changes) (parts : List Changes) : Prop :=
  cs.entries.Perm (parts.flatMap entries)

/-- The changes that several parts make together, if these are the parts of some changes. -/
theorem IsSplit.exists_rest {cs part : Changes} {parts : List Changes}
    (h : cs.IsSplit (part :: parts)) : ∃ rest : Changes, rest.IsSplit parts ∧
      cs.IsSplit [part, rest] := by
  have hd := (List.Perm.map (·.1) h).nodup cs.nodup_keys
  rw [List.flatMap_cons, List.map_append] at hd
  refine ⟨⟨parts.flatMap entries, (List.nodup_append.1 hd).2.1⟩, List.Perm.refl _, ?_⟩
  simpa [IsSplit] using h

theorem IsSplit.areAccepted_eq {cs : Changes} {parts : List Changes} (h : cs.IsSplit parts) :
    cs.areAccepted = parts.all areAccepted := by
  rw [areAccepted, h.all_eq, List.all_flatMap]
  rfl

section Two

variable {cs a b : Changes} (h : cs.IsSplit [a, b])

include h

theorem IsSplit.change?_eq (key : String) :
    cs.change? key = (a.change? key).or (b.change? key) := by
  have hp : cs.entries.Perm (a.entries ++ b.entries) := by simpa [IsSplit] using h
  rw [change?, Record.lookup_of_perm hp cs.nodup_keys, List.lookup_append]
  rfl

theorem IsSplit.names_eq (key : String) : cs.names key = (a.names key || b.names key) := by
  rw [Changes.names_eq, Changes.names_eq, Changes.names_eq, h.change?_eq key, Option.isSome_or]

/-- A key that one part changes is not changed by the other. -/
theorem IsSplit.change?_right {key : String} {c : Change} (hc : a.change? key = some c) :
    b.change? key = none := by
  have hp : cs.entries.Perm (a.entries ++ b.entries) := by simpa [IsSplit] using h
  have hd := (hp.map (·.1)).nodup cs.nodup_keys
  rw [List.map_append, List.nodup_append] at hd
  rw [change?, Record.lookup_eq_none_iff]
  intro hb
  exact hd.2.2 key (List.mem_map.2 ⟨_, mem_entries_iff.2 hc, rfl⟩) key hb rfl

theorem IsSplit.folded_folded {α : Type} (key : String) (read? : Json → Option α)
    (default old : α) :
    b.folded key read? default (a.folded key read? default old)
      = cs.folded key read? default old := by
  -- a key is in at most one of the parts, and the other leaves its field alone
  unfold folded
  rw [h.change?_eq key]
  cases hc : a.change? key with
  | none => simp
  | some c =>
      rw [h.change?_right hc]
      simp

end Two

end Changes

/-- Folding in two parts one after the other is folding in both at once. -/
theorem Settings.folded_folded {cs a b : Changes} (h : cs.IsSplit [a, b]) (s : Settings) :
    (s.folded a).folded b = s.folded cs := by
  simp only [Settings.folded, RuleSource.folded, h.folded_folded]

end HostRouting
