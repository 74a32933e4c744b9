/-
**What a YAML file keeps of saved settings.**

Settings are written as JSON whatever the file is called, but under a YAML name they are read as
YAML.  Keys, truth values, the mode and the shape of the document survive that.  The texts do not
always: YAML folds them at the line ends it knows, and it allows no text in which a control
character stands as it is.  So the settings that are loaded are the saved ones with every text
refolded, or there are none.

Main definitions:

* `Settings.texts` — the texts in settings, apart from the mode;
* `Settings.mapTexts` — the settings with every text replaced;
* `Settings.isReadable`, `Settings.reread` — whether YAML makes anything of a text, and what.

Main results:

* `Settings.ofYaml?_document` — what is read from the document of settings as YAML;
* `Settings.save_load_yaml` — **settings saved under a YAML name load back iff YAML keeps every text
  in them**, and what is loaded otherwise.
-/

import HostRouting.Proofs.Settings.Saving
import HostRouting.Proofs.Yaml.Nodes

set_option autoImplicit false

namespace HostRouting

/-! ### Texts -/

/-- The texts that are kept for a mode. -/
def RuleSource.texts (r : RuleSource) : List String :=
  r.manual ++ r.manualText.toList ++ r.url.toList ++ r.fetchedText.toList ++ r.fetched

/-- What is kept for a mode, with every text replaced. -/
def RuleSource.mapTexts (f : String → String) (r : RuleSource) : RuleSource :=
  ⟨r.manual.map f, r.manualText.map f, r.url.map f, r.fetchedText.map f, r.fetched.map f⟩

namespace Settings

/-- The texts in settings, apart from the mode. -/
def texts (s : Settings) : List String :=
  s.proxyUrl :: (s.whitelist.texts ++ s.blacklist.texts)

/-- The settings with every text replaced. -/
def mapTexts (f : String → String) (s : Settings) : Settings where
  proxyEnabled := s.proxyEnabled
  proxyUrl := f s.proxyUrl
  mode := s.mode
  whitelist := s.whitelist.mapTexts f
  blacklist := s.blacklist.mapTexts f

/-- Whether YAML makes anything of a text that JSON writes. -/
def isReadable (t : String) : Bool := (Yaml.reread? t.toList).isSome

/-- What YAML makes of a text that JSON writes. -/
def reread (t : String) : String := String.ofList (Json.refolded t)

theorem isReadable_eq (t : String) : isReadable t = (Json.isAllowedText t && Json.folds t) := by
  rw [isReadable, Yaml.reread?, Json.isAllowedText, Json.folds]
  split
  · next h => rw [h, Bool.true_and]
  · next h => rw [Bool.not_eq_true] at h; rw [h]; rfl

/-- A text that YAML can read is kept if what it reads is the text. -/
theorem isKept_iff (t : String) :
    Yaml.isKept t.toList = true ↔ isReadable t = true ∧ reread t = t := by
  rw [← Yaml.reread?_eq_some_iff, isReadable, Yaml.reread?, reread, Json.refolded]
  split
  · cases Yaml.refolded? .none false t.toList with
    | none => simp
    | some cs =>
        simp only [Option.some.injEq, Option.isSome_some, Option.getD_some, true_and]
        constructor
        · rintro rfl
          exact String.ofList_toList
        · intro h
          rw [← h, String.toList_ofList]
  · simp

theorem map_eq_self_iff (f : String → String) (ts : List String) :
    ts.map f = ts ↔ ∀ t ∈ ts, f t = t := by
  have hid := List.map_inj_left (l := ts) (f := f) (g := id)
  rwa [List.map_id] at hid

theorem optionMap_eq_self_iff (f : String → String) (t : Option String) :
    t.map f = t ↔ ∀ x ∈ t.toList, f x = x := by
  cases t <;> simp

theorem sourceMapTexts_eq_self_iff (f : String → String) (r : RuleSource) :
    r.mapTexts f = r ↔ ∀ t ∈ r.texts, f t = t := by
  obtain ⟨manual, manualText, url, fetchedText, fetched⟩ := r
  simp only [RuleSource.mapTexts, RuleSource.mk.injEq, RuleSource.texts, List.forall_mem_append,
    map_eq_self_iff, optionMap_eq_self_iff, and_assoc]

/-- Settings stay as they are if each of their texts does. -/
theorem mapTexts_eq_self_iff (f : String → String) (s : Settings) :
    s.mapTexts f = s ↔ ∀ t ∈ s.texts, f t = t := by
  obtain ⟨proxyEnabled, proxyUrl, mode, whitelist, blacklist⟩ := s
  simp only [mapTexts, mk.injEq, texts, List.forall_mem_cons, List.forall_mem_append,
    sourceMapTexts_eq_self_iff, true_and]

/-! ### The shape of the document -/

theorem membersAreTextual_append (p : String → Bool) (ms ns : List (Option String × Json)) :
    Json.membersAreTextual p (ms ++ ns)
      = (Json.membersAreTextual p ms && Json.membersAreTextual p ns) := by
  induction ms with
  | nil => rfl
  | cons m ms ih =>
      obtain ⟨key, j⟩ := m
      rw [List.cons_append, Json.membersAreTextual, Json.membersAreTextual, ih]
      simp only [Bool.and_assoc]

theorem isTextual_texts (p : String → Bool) (ts : List String) :
    (Json.texts ts).isTextual p = ts.all p := by
  rw [Json.texts, Json.isTextual]
  induction ts with
  | nil => rfl
  | cons t ts ih => rw [List.map_cons, Json.areTextual, ih, List.all_cons]; rfl

/-- The members of settings under the keys of a document. -/
def documentMembers (s : Settings) : List (Option String × Json) :=
  s.members.map fun m => (some m.1, m.2)

theorem document_eq (s : Settings) : s.document = .object s.documentMembers := rfl

theorem membersAreTextual_optionalMember (p : String → Bool) {key : String}
    (h : Json.isWord key = true) (t : Option String) :
    Json.membersAreTextual p ((optionalMember key t).map fun m => (some m.1, m.2))
      = t.toList.all p := by
  cases t with
  | none => rfl
  | some t => simp [optionalMember, Json.membersAreTextual, h, Json.text, Json.isTextual]

theorem isWord_of_mem_keys : ∀ key ∈ keys, Json.isWord key = true := by decide

theorem membersAreTextual_document (p : String → Bool) (s : Settings) :
    Json.membersAreTextual p s.documentMembers = (p s.mode.text && s.texts.all p) := by
  have hwords := isWord_of_mem_keys
  simp only [keys, List.flatMap_cons, List.flatMap_nil, List.forall_mem_append,
    List.forall_mem_cons] at hwords
  simp only [documentMembers, members, eachMode, List.map_append, List.map_cons, List.map_nil,
    membersAreTextual_append, membersAreTextual_optionalMember, isTextual_texts, hwords, texts,
    RuleSource.texts, List.all_append, List.all_cons, Json.membersAreTextual, Option.any_some,
    Json.isTextual, Mode.document, Json.text, Bool.true_and, Bool.and_true]
  ac_rfl

/-! ### Reading the nodes -/

section

variable (d : Yaml.Document) (f : String → List Char)

theorem text?_node (t : String) : d.text? ((Json.text t).node f) = some (String.ofList (f t)) := rfl

theorem texts?_node (ts : List String) :
    d.texts? ((Json.texts ts).node f) = some (ts.map fun t => String.ofList (f t)) := by
  have hitems : (Json.nodes f (ts.map Json.text)).mapM d.text?
      = some (ts.map fun t => String.ofList (f t)) := by
    induction ts with
    | nil => rfl
    | cons t ts ih =>
        rw [List.map_cons, Json.nodes, List.mapM_cons, text?_node, ih]
        rfl
  exact hitems

theorem named?_memberNodes (ms : List (String × Json)) :
    d.named? (Json.memberNodes f (ms.map fun m => (some m.1, m.2)))
      = some (ms.map fun m => (m.1, m.2.node f)) := by
  unfold Yaml.Document.named?
  induction ms with
  | nil => rfl
  | cons m ms ih =>
      have hkey : d.text? (Json.keyNode (some m.1)) = some m.1 :=
        congrArg some String.ofList_toList
      rw [List.map_cons, Json.memberNodes, List.mapM_cons, ih]
      dsimp only
      rw [hkey]
      rfl

theorem lookup_nodes (ms : List (String × Json)) (key : String) :
    (ms.map fun m => (m.1, m.2.node f)).lookup key = (ms.lookup key).map (·.node f) := by
  induction ms with
  | nil => rfl
  | cons m ms ih =>
      rw [List.map_cons, List.lookup_cons, List.lookup_cons, ih]
      cases key == m.1 <;> rfl

end

theorem mem_keys_of_mem_members (s : Settings) : ∀ m ∈ s.members, m.1 ∈ keys := by
  have hoptional {key : String} (h : key ∈ keys) (t : Option String) :
      ∀ m ∈ optionalMember key t, m.1 ∈ keys := by
    cases t with
    | none => simp [optionalMember]
    | some t => simpa [optionalMember] using h
  simp only [members, eachMode, List.forall_mem_append, List.forall_mem_cons]
  refine ⟨⟨⟨⟨⟨?_, ?_⟩, ?_⟩, ?_⟩, ?_⟩, ?_⟩
  · exact ⟨by decide, by decide, by decide, by simp⟩
  · exact ⟨⟨by decide, by simp⟩, ⟨by decide, by simp⟩⟩
  · exact ⟨hoptional (by decide) _, hoptional (by decide) _⟩
  · exact ⟨hoptional (by decide) _, hoptional (by decide) _⟩
  · exact ⟨hoptional (by decide) _, hoptional (by decide) _⟩
  · exact ⟨⟨by decide, by simp⟩, ⟨by decide, by simp⟩⟩

/-- The fields of the document of settings. -/
theorem yamlFields?_document (s : Settings) (f : String → List Char) :
    yamlFields? ⟨some (Json.node f (.object s.documentMembers)), .empty⟩
      = some (s.members.map fun m => (m.1, m.2.node f)) := by
  let d : Yaml.Document := ⟨some (Json.node f (.object s.documentMembers)), .empty⟩
  have hknown : (s.members.map fun m => (m.1, m.2.node f)).filter (fun m => keys.contains m.1)
      = s.members.map fun m => (m.1, m.2.node f) := by
    refine List.filter_eq_self.2 fun m hm => ?_
    obtain ⟨member, hmember, rfl⟩ := List.mem_map.1 hm
    exact List.contains_iff_mem.2 (s.mem_keys_of_mem_members member hmember)
  have hdistinct : Record.areDistinct (s.members.map fun m => (m.1, m.2.node f)) = true := by
    rw [Record.areDistinct_iff, List.map_map]
    exact s.nodup_members
  have hfields : yamlFields? d
      = (d.named? (Json.memberNodes f s.documentMembers)).bind (Record.known? keys) := rfl
  rw [hfields, documentMembers, named?_memberNodes, Option.bind_some, Record.known?, hknown,
    hdistinct, if_pos rfl]

/-! ### Reading the settings -/

section

variable (d : Yaml.Document) (s : Settings) {fs : Record.Fields Yaml.Node} {key : String}
  {default : List String}

theorem yaml_field_text {t : Option String}
    (h : fs.lookup key = (t.map Json.text).map (·.node Json.refolded)) :
    Record.field fs key (yamlValues d).optionalText? none = some (t.map reread) := by
  rw [Record.field, h]
  cases t <;> rfl

theorem yaml_field_texts {ts : List String}
    (h : fs.lookup key = some ((Json.texts ts).node Json.refolded)) :
    Record.field fs key (yamlValues d).texts? [] = some (ts.map reread) := by
  rw [Record.field, h]
  exact texts?_node d Json.refolded ts

/-- What is kept for a mode is read with every text refolded. -/
theorem yaml_sourceOfFields? (m : Mode) :
    sourceOfFields? (yamlValues d) (s.members.map fun m => (m.1, m.2.node Json.refolded)) m
      = some ((s.source m).mapTexts reread) := by
  obtain ⟨hmanual, hmanualText, hurl, hfetchedText, hfetched⟩ := s.lookup_members m
  have hlookup := lookup_nodes Json.refolded s.members
  rw [sourceOfFields?,
    yaml_field_texts d ((hlookup _).trans (congrArg _ hmanual)),
    yaml_field_text d ((hlookup _).trans (congrArg _ hmanualText)),
    yaml_field_text d ((hlookup _).trans (congrArg _ hurl)),
    yaml_field_text d ((hlookup _).trans (congrArg _ hfetchedText)),
    yaml_field_texts d ((hlookup _).trans (congrArg _ hfetched))]
  rfl

/-- Settings are read with every text refolded. -/
theorem yaml_ofFields? :
    ofFields? (yamlValues d) (s.members.map fun m => (m.1, m.2.node Json.refolded))
      = some (s.mapTexts reread) := by
  have hlookup := lookup_nodes Json.refolded s.members
  have henabled : Record.field (s.members.map fun m => (m.1, m.2.node Json.refolded))
      "proxyEnabled" (yamlValues d).bool? standard.proxyEnabled = some s.proxyEnabled := by
    have hmember : s.members.lookup "proxyEnabled" = some (.bool s.proxyEnabled) := rfl
    rw [Record.field, hlookup, hmember]
    cases s.proxyEnabled <;> rfl
  have hurl : Record.field (s.members.map fun m => (m.1, m.2.node Json.refolded)) "proxyUrl"
      (yamlValues d).text? standard.proxyUrl = some (reread s.proxyUrl) := by
    have hmember : s.members.lookup "proxyUrl" = some (.text s.proxyUrl) := rfl
    rw [Record.field, hlookup, hmember]
    rfl
  have hmode : Record.field (s.members.map fun m => (m.1, m.2.node Json.refolded)) "mode"
      (yamlValues d).optionalText? none = some (some (reread s.mode.text)) := by
    have hmember : s.members.lookup "mode" = some (.text s.mode.text) := rfl
    rw [Record.field, hlookup, hmember]
    rfl
  -- YAML keeps the word of a mode
  have hword : Mode.ofOptionalText (some (reread s.mode.text)) = s.mode := by
    cases s.mode <;> decide
  rw [ofFields?, henabled, hurl, hmode]
  simp only [Option.bind_eq_bind, Option.bind_some, yaml_sourceOfFields?, hword]
  rfl

end

/-- **What is read from the document of settings as YAML**: the settings with every text refolded,
or nothing if YAML makes nothing of some text. -/
theorem ofYaml?_document (s : Settings) : ofYaml? s.document.indented.toList =
    if s.texts.all isReadable then some (s.mapTexts reread) else none := by
  have hshape : Json.membersAreTextual (fun _ => true) s.documentMembers = true := by
    rw [membersAreTextual_document]
    simp
  have hreadable : (Json.membersAreTextual Json.isAllowedText s.documentMembers
      && Json.membersAreTextual Json.folds s.documentMembers) = s.texts.all isReadable := by
    have hmode : Json.isAllowedText s.mode.text = true ∧ Json.folds s.mode.text = true := by
      cases s.mode <;> decide
    rw [membersAreTextual_document, membersAreTextual_document, hmode.1, hmode.2, Bool.true_and,
      Bool.true_and, Bool.eq_iff_iff, Bool.and_eq_true]
    simp only [List.all_eq_true, isReadable_eq, Bool.and_eq_true, ← forall_and]
  rw [ofYaml?, document_eq, Json.indented, String.toList_ofList, Json.parse?_render hshape,
    hreadable]
  split
  · rw [Option.bind_eq_bind, Option.bind_some, yamlFields?_document]
    exact yaml_ofFields? _ s
  · rfl

/-! ### Saving -/

/-- A YAML file that holds the octets of settings is loaded as those settings with every text
refolded, or not at all. -/
theorem load_of_read_yaml {s : Settings} {d : Directory} {p : Path} (h : isYamlPath p = true)
    (hread : d.read p = .ok s.bytes) : load d p =
      if s.texts.all isReadable then .ok (s.mapTexts reread) else .error .yaml := by
  rw [load_of_bytes hread, ofText, if_pos h, ofYaml?_document]
  cases s.texts.all isReadable <;> rfl

/-- In a directory without entries a YAML file can be saved. -/
theorem takes_yaml_name :
    Directory.empty.Takes ["c.yaml"] ∧ Directory.empty.Takes (temporaryPath ["c.yaml"]) :=
  ⟨(Directory.takes_name_iff .empty (by decide)).2 (by decide),
    @Directory.takes_name_iff .empty "c.tmp" (by decide) |>.2 (by decide)⟩

/-- **Settings saved under a YAML name load back iff YAML keeps every text in them.**  Otherwise
they are loaded with every text refolded, or, if YAML makes nothing of some text, the file is
refused. -/
theorem save_load_yaml (s : Settings) (d : Directory) (p : Path) (h : isYamlPath p = true)
    (hsaved : (s.save d p).2 = none) :
    (load (s.save d p).1 p =
      if s.texts.all isReadable then .ok (s.mapTexts reread) else .error .yaml) ∧
    (load (s.save d p).1 p = .ok s ↔ ∀ t ∈ s.texts, Yaml.isKept t.toList = true) := by
  obtain ⟨htarget, htemporary⟩ := (save_eq_none_iff s d p).1 hsaved
  have hload := load_of_read_yaml h (read_of_takes s htemporary htarget)
  refine ⟨hload, ?_⟩
  have hkept : (∀ t ∈ s.texts, Yaml.isKept t.toList = true) ↔
      s.texts.all isReadable = true ∧ s.mapTexts reread = s := by
    simp only [isKept_iff, List.all_eq_true, mapTexts_eq_self_iff, ← forall_and]
  rw [hload, hkept]
  cases s.texts.all isReadable <;> simp

/-- Of a downloaded text YAML keeps a line separator between letters, drops the space beside
another, and reads a next-line character as a space. -/
theorem save_load_yaml_folded :
    let s : Settings := { standard with
      whitelist := { RuleSource.empty with fetchedText := some "a\u2028b \u2028c\u0085d" } }
    let folded : Settings := { standard with
      whitelist := { RuleSource.empty with fetchedText := some "a\u2028b\u2028c d" } }
    isYamlPath ["c.yaml"] = true ∧ (s.save .empty ["c.yaml"]).2 = none ∧
      load (s.save .empty ["c.yaml"]).1 ["c.yaml"] = .ok folded ∧
      load (s.save .empty ["c.yaml"]).1 ["c.yaml"] ≠ .ok s := by
  intro s folded
  have hyaml : isYamlPath ["c.yaml"] = true := by decide
  have hsaved : (s.save .empty ["c.yaml"]).2 = none :=
    (save_eq_none_iff s .empty ["c.yaml"]).2 (takes_yaml_name)
  obtain ⟨hload, hiff⟩ := save_load_yaml s .empty ["c.yaml"] hyaml hsaved
  have hreadable : s.texts.all isReadable = true := by decide +kernel
  have hfolded : s.mapTexts reread = folded := by decide +kernel
  rw [hreadable, if_pos rfl, hfolded] at hload
  refine ⟨hyaml, hsaved, hload, fun hsame => ?_⟩
  have hkept := hiff.1 hsame "a\u2028b \u2028c\u0085d" (by decide)
  exact absurd hkept (by decide +kernel)

/-- Settings that hold a delete character are saved under a YAML name and cannot be loaded again. -/
theorem not_save_load_yaml :
    ¬∀ (s : Settings) (d : Directory) (p : Path), isYamlPath p = true → (s.save d p).2 = none →
      load (s.save d p).1 p = .ok s := by
  intro hall
  let s : Settings := { standard with
    whitelist := { RuleSource.empty with manualText := some "\x7F" } }
  have hyaml : isYamlPath ["c.yaml"] = true := by decide
  obtain ⟨htarget, htemporary⟩ := takes_yaml_name
  have hsaved := (save_eq_none_iff s .empty ["c.yaml"]).2 ⟨htarget, htemporary⟩
  have hreadable : s.texts.all isReadable = false := by decide +kernel
  have hload := load_of_read_yaml hyaml (read_of_takes s htemporary htarget)
  rw [hall s .empty ["c.yaml"] hyaml hsaved, hreadable] at hload
  cases hload

end Settings

end HostRouting
