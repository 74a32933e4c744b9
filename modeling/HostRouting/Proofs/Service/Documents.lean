/-
**Documents read back.**

Configurations, settings, updates and messages are read back from the documents they are written as:
in any layout, with their members in any order, and with members under other keys among them.  For
the first three it makes no difference what stands under other keys.  A message is read as pure data
before its fields are told apart, so it is read only if everything in it is pure data, also what
nobody looks at.  Of a number close to the limit it depends on the roundings whether it is.

Main definitions:

* `Config.members`, `Message.members`, `Message.keys` — the members of configurations and messages,
  and the keys of messages;
* `Documents.ReadBack` — values are read back from texts of their documents, rearranged or not.

Main results:

* `Config.ofDocument?_document`, `Config.Update.ofFields?_members` — records are read back from their
  own documents;
* `Message.ofDocument?_of_rearranges` — when a message is read from a rearrangement of its document;
* `Documents.read_rearranged` — **everything that is written is read back, rearranged or not**.
-/

import HostRouting.Proofs.Json.Magnitude
import HostRouting.Proofs.Json.Rearranged
import HostRouting.Proofs.Json.RoundTrip
import HostRouting.Proofs.Settings.Saving
import HostRouting.Service.Message

set_option autoImplicit false

namespace HostRouting

/-! ### Configurations -/

namespace Config

theorem ignoresOrder_ofFields? : Record.IgnoresOrder ofFields? := by
  intro fs gs h hd
  simp only [ofFields?, Record.field_of_perm h hd]

/-- The members of a configuration. -/
def members (c : Config) : List (String × Json) :=
  [("proxyEnabled", .bool c.proxyEnabled), ("proxyUrl", .text c.proxyUrl),
    ("mode", c.mode.document), ("rules", .texts c.rules)]

variable (c : Config)

theorem document_eq : c.document = .ofMembers c.members := rfl

theorem nodup_members : (c.members.map (·.1)).Nodup := by
  have hkeys : c.members.map (·.1) = keys := rfl
  rw [hkeys]
  decide

/-- A configuration is read back from its document. -/
theorem ofDocument?_document : ofDocument? c.document = some c := by
  have hfields : c.document.fields? keys = some c.members := rfl
  have hrules : Record.field c.members "rules" Json.texts? standard.rules = some c.rules :=
    Settings.texts?_texts c.rules
  rw [ofDocument?, hfields, Option.bind_some, ofFields?, hrules]
  exact congrArg (fun m => some (Config.mk c.proxyEnabled c.proxyUrl m c.rules))
    (Settings.ofOptionalText_text c.mode)

/-! ### Updates -/

namespace Update

theorem ignoresOrder_ofFields? (isNothing : Json → Bool) :
    Record.IgnoresOrder (ofFields? isNothing) := by
  intro fs gs h hd
  simp only [ofFields?, Record.field_of_perm h hd]

section

variable {α : Type} {document : α → Json}

theorem lookup_part (key k : String) (a : Option α) :
    (a.map fun a => (k, document a)).toList.lookup key
      = if key = k then a.map document else none := by
  by_cases hk : key = k
  · cases a <;> simp [hk]
  · cases a <;> simp [hk]

/-- A value that may be absent is read from the member that carries it. -/
theorem field_part {fs : Record.Fields Json} {key : String} {value? : Json → Option α}
    {a : Option α} (hlookup : fs.lookup key = a.map document)
    (hread : ∀ a, Json.optional value? (document a) = some (some a)) :
    Record.field fs key (Json.optional value?) none = some a := by
  rw [Record.field, hlookup]
  cases a with
  | none => rfl
  | some a => exact hread a

end

variable (u : Update)

/-- The keys of an update are among those of a configuration, each at most once. -/
theorem keys_members : (u.members.map (·.1)).Sublist keys := by
  have hpart {α : Type} (key : String) (document : α → Json) (a : Option α) :
      ((a.map fun a => (key, document a)).toList.map (·.1)).Sublist [key] := by
    cases a <;> simp
  simp only [members, List.map_append]
  exact (((hpart _ Json.bool _).append (hpart _ Json.text _)).append
    (hpart _ Mode.document _)).append (hpart _ Json.texts _)

theorem nodup_members : (u.members.map (·.1)).Nodup :=
  List.Nodup.sublist u.keys_members (by decide)

/-- What an update carries under each key. -/
theorem lookup_members :
    u.members.lookup "proxyEnabled" = u.proxyEnabled.map .bool ∧
      u.members.lookup "proxyUrl" = u.proxyUrl.map .text ∧
      u.members.lookup "mode" = u.mode.map Mode.document ∧
      u.members.lookup "rules" = u.rules.map .texts := by
  simp [members, List.lookup_append, lookup_part]

/-- An update is read back from its members, whatever counts as nothing below a mode. -/
theorem ofFields?_members (isNothing : Json → Bool) : ofFields? isNothing u.members = some u := by
  obtain ⟨henabled, hurl, hmode, hrules⟩ := u.lookup_members
  have h₁ : Record.field u.members "proxyEnabled" (Json.optional Json.bool?) none
      = some u.proxyEnabled := field_part henabled fun _ => rfl
  have h₂ : Record.field u.members "proxyUrl" (Json.optional Json.text?) none
      = some u.proxyUrl := field_part hurl fun _ => rfl
  -- a mode is written as its word, and below a word there is nothing to judge
  have h₃ : Record.field u.members "mode" (Json.optional (Mode.ofDocument? isNothing)) none
      = some u.mode :=
    field_part hmode fun m => congrArg (Option.map some) (Mode.ofWord?_text m)
  have h₄ : Record.field u.members "rules" (Json.optional Json.texts?) none = some u.rules :=
    field_part hrules fun rs => congrArg (Option.map some) (Settings.texts?_texts rs)
  rw [ofFields?, h₁, h₂, h₃, h₄]
  rfl

/-- All members of an update are under keys that are known. -/
theorem fields?_document : u.document.fields? keys = some u.members := by
  rw [document, Json.fields?_ofMembers keys u.nodup_members, List.filter_eq_self.2]
  intro m hm
  exact List.contains_iff_mem.2 (u.keys_members.subset (List.mem_map_of_mem hm))

/-- An update is read back from its document. -/
theorem ofDocument?_document : ofDocument? u.document = some u := by
  rw [ofDocument?, fields?_document, Option.bind_some, ofFields?_members]

end Update

end Config

/-! ### Settings -/

theorem Settings.ignoresOrder_ofFields? {α : Type} (v : Settings.Values α) :
    Record.IgnoresOrder (Settings.ofFields? v) := by
  intro fs gs h hd
  simp only [Settings.ofFields?, Settings.sourceOfFields?, Record.field_of_perm h hd]

/-! ### Pure data -/

namespace Json

theorem membersAreData_map (depth : Nat) (ms : List (String × Json)) :
    membersAreData depth (ms.map fun m => (some m.1, m.2)) = ms.all fun m => m.2.isData depth := by
  induction ms with
  | nil => rfl
  | cons m ms ih =>
      rw [List.map_cons, membersAreData, ih, List.all_cons]
      rfl

theorem areData_map_text (depth : Nat) (ss : List String) : areData depth (ss.map text) = true := by
  induction ss with
  | nil => rfl
  | cons s ss ih =>
      rw [List.map_cons, areData, ih, Bool.and_true]
      rfl

end Json

/-- What an update carries is pure data. -/
theorem Config.Update.isData_members (u : Config.Update) :
    ∀ m ∈ u.members, m.2.isData Message.fieldDepth = true := by
  intro m hm
  simp only [members, List.mem_append, Option.mem_toList, Option.map_eq_some_iff] at hm
  rcases hm with ((⟨b, -, rfl⟩ | ⟨s, -, rfl⟩) | ⟨mode, -, rfl⟩) | ⟨rs, -, rfl⟩
  · rfl
  · rfl
  · rfl
  · exact Json.areData_map_text 125 rs

/-! ### Messages -/

namespace Message

/-- The keys of a message: that of its action and those of its update. -/
def keys : List String := actionKey :: Config.keys

/-- The members of a message: its action, and those of its update. -/
def members : Message → List (String × Json)
  | .update u => (actionKey, .text updateAction) :: u.members

theorem document_eq (m : Message) : m.document = .ofMembers m.members := by
  cases m
  rfl

/-- The members of an object with the action apart from the rest. -/
theorem partition_members (ms : List (String × Json)) :
    (ms.map fun m => (some m.1, m.2)).partition (·.1 == some actionKey)
      = ((ms.filter (·.1 == actionKey)).map fun m => (some m.1, m.2),
        (ms.filter (·.1 != actionKey)).map fun m => (some m.1, m.2)) := by
  rw [List.partition_eq_filter_filter, List.filter_map, List.filter_map]
  rfl

/-- The members of a rearranged message: one names the action, the others are those of the update and
those that were put in. -/
theorem exists_members {u : Config.Update} {others : List (String × Json)} {j : Json}
    (h : Json.Rearranges keys (document (.update u)) others j) :
    ∃ ms : List (String × Json), j = .object (ms.map fun m => (some m.1, m.2)) ∧
      ms.filter (·.1 == actionKey) = [(actionKey, .text updateAction)] ∧
      (ms.filter (·.1 != actionKey)).Perm (u.members ++ others) ∧
      ∀ m ∈ others, m.1 ∉ Config.keys := by
  obtain ⟨own, ms, heq, rfl, hperm, hothers⟩ := h
  obtain rfl := Json.ofMembers_injective heq
  have hupdate : ∀ m ∈ u.members ++ others, m.1 ≠ actionKey := by
    intro m hm
    rcases List.mem_append.1 hm with hm | hm
    · intro hkey
      have hknown : m.1 ∈ Config.keys := u.keys_members.subset (List.mem_map_of_mem hm)
      rw [hkey] at hknown
      exact absurd hknown (by decide)
    · exact fun hkey => hothers m hm (hkey ▸ List.mem_cons_self)
  refine ⟨ms, rfl, ?_, ?_, fun m hm hkey => hothers m hm (List.mem_cons_of_mem _ hkey)⟩
  · have haction := hperm.filter (·.1 == actionKey)
    have hnone : (u.members ++ others).filter (·.1 == actionKey) = [] := by
      rw [List.filter_eq_nil_iff]
      intro m hm
      simpa using hupdate m hm
    rw [List.cons_append, List.filter_cons_of_pos (by simp), hnone] at haction
    exact List.perm_singleton.1 haction
  · have hrest := hperm.filter (·.1 != actionKey)
    have hall : (u.members ++ others).filter (·.1 != actionKey) = u.members ++ others := by
      rw [List.filter_eq_self]
      intro m hm
      simpa using hupdate m hm
    rwa [List.cons_append, List.filter_cons_of_neg (by simp), hall] at hrest

/-- A message with the action to update is read from the fields of the update. -/
theorem ofAction?_update (fields : Json) :
    ofAction? (.text updateAction) fields
      = ((fields.fields? Config.keys).bind (Config.Update.ofFields? Json.isNullOrEmpty)).map
          .update := by
  rw [Option.map_bind]
  rfl

/-- A message is read from an object in which one member names the action and the others are pure
data. -/
theorem ofDocument?_object {ms fields : List (Option String × Json)} {key : Option String}
    {action : Json} (h : ms.partition (·.1 == some actionKey) = ([(key, action)], fields)) :
    ofDocument? (.object ms)
      = if Json.membersAreData fieldDepth fields then ofAction? action (.object fields)
        else none := by
  rw [ofDocument?, h]
  change (if Json.membersAreData fieldDepth fields then some () else none).bind
    (fun _ => ofAction? action (.object fields)) = _
  cases Json.membersAreData fieldDepth fields <;> rfl

/-- **When a message is read from a rearrangement of its document**: what was put in has to be pure
data. -/
theorem ofDocument?_of_rearranges {m : Message} {others : List (String × Json)} {j : Json}
    (h : Json.Rearranges keys m.document others j) :
    ofDocument? j = if others.all (·.2.isData fieldDepth) then some m else none := by
  obtain ⟨u⟩ := m
  obtain ⟨ms, rfl, haction, hperm, hothers⟩ := exists_members h
  have hdata : Json.membersAreData fieldDepth
      ((ms.filter (·.1 != actionKey)).map fun m => (some m.1, m.2))
        = others.all (·.2.isData fieldDepth) := by
    have hown : u.members.all (·.2.isData fieldDepth) = true :=
      List.all_eq_true.2 u.isData_members
    rw [Json.membersAreData_map, hperm.all_eq, List.all_append, hown, Bool.true_and]
  have hread : ((Json.ofMembers (ms.filter (·.1 != actionKey))).fields? Config.keys).bind
      (Config.Update.ofFields? Json.isNullOrEmpty) = some u := by
    have hrest : Json.Rearranges Config.keys (.ofMembers u.members) others
        (.ofMembers (ms.filter (·.1 != actionKey))) := ⟨_, _, rfl, rfl, hperm, hothers⟩
    have hown : (Json.ofMembers u.members).fields? Config.keys = some u.members :=
      u.fields?_document
    rw [Json.bind_fields?_of_rearranges (Config.Update.ignoresOrder_ofFields? _) u.nodup_members
      hrest, hown, Option.bind_some, u.ofFields?_members]
  have hupdate : ofAction? (.text updateAction)
      (.object ((ms.filter (·.1 != actionKey)).map fun m => (some m.1, m.2)))
        = some (.update u) := by
    have hsame : Json.object ((ms.filter (·.1 != actionKey)).map fun m => (some m.1, m.2))
        = .ofMembers (ms.filter (·.1 != actionKey)) := rfl
    rw [ofAction?_update, hsame, hread]
    rfl
  have hpartition := partition_members ms
  rw [haction] at hpartition
  rw [ofDocument?_object hpartition, hdata, hupdate]

end Message

/-! ### Everything that is written -/

namespace Documents

open Json (Layout Rearranges)

/-- Values are read back from the texts of their documents, also of rearranged ones, where `admits` says
which members may be put in. -/
structure ReadBack {α : Type} (keys : List String) (document : α → Json)
    (ofDocument? : Json → Option α) (admits : List (String × Json) → Bool) : Prop where
  /-- A document may be written in any layout. -/
  written : ∀ (a : α) (l : Layout), (Json.parse (l.write (document a))).bind ofDocument? = some a
  /-- A rearrangement may be any text that is read as it. -/
  rearranged : ∀ (a : α) (others : List (String × Json)) (j : Json) (text : String),
    Json.parse text = some j → Rearranges keys (document a) others j →
      (Json.parse text).bind ofDocument? = if admits others then some a else none

/-- It is enough to say what is read from rearrangements: a document is one of itself, and every layout
is a text of it. -/
theorem readBack_of_rearranges {α : Type} {keys : List String} {document : α → Json}
    {ofDocument? : Json → Option α} {admits : List (String × Json) → Bool}
    {members : α → List (String × Json)} (hmembers : ∀ a, document a = .ofMembers (members a))
    (hnone : admits [] = true)
    (hread : ∀ (a : α) (others : List (String × Json)) (j : Json),
      Rearranges keys (.ofMembers (members a)) others j →
        ofDocument? j = if admits others then some a else none) :
    ReadBack keys document ofDocument? admits where
  written a l := by
    have hself := hread a [] _ (Json.rearranges_self keys (members a))
    rw [hnone, if_pos rfl] at hself
    rw [hmembers, Json.parse_write, Option.bind_some, hself]
  rearranged a others j text hparse h := by
    rw [hparse, Option.bind_some]
    rw [hmembers] at h
    exact hread a others j h

/-- **Everything that is written is read back, rearranged or not.**  Configurations, settings and
updates come out as they were whatever was put in.  A message comes out as it was if what was put in
is pure data, and otherwise no message is read.  A number is pure data if it stays finite when it is
rounded, and far from the limit this means that its magnitude is below the limit. -/
theorem read_rearranged :
    ReadBack Config.keys Config.document Config.ofDocument? (fun _ => true) ∧
      ReadBack Settings.keys Settings.document Settings.ofDocument? (fun _ => true) ∧
      ReadBack Config.keys Config.Update.document Config.Update.ofDocument? (fun _ => true) ∧
      ReadBack Message.keys Message.document Message.ofDocument?
        (fun others => others.all (·.2.isData Message.fieldDepth)) ∧
      ∀ n : Json.Numeral, n.IsFarFromLimit →
        (n.isFinite = true ↔ n.magnitude < Json.magnitudeLimit) := by
  refine ⟨?_, ?_, ?_, ?_, fun _ => Json.Numeral.isFinite_iff⟩
  · refine readBack_of_rearranges Config.document_eq rfl fun c others j h => ?_
    rw [Config.ofDocument?,
      Json.bind_fields?_of_rearranges Config.ignoresOrder_ofFields? c.nodup_members h]
    exact c.ofDocument?_document
  · refine readBack_of_rearranges (fun _ => rfl) rfl fun s others j h => ?_
    rw [Settings.ofDocument?,
      Json.bind_fields?_of_rearranges (Settings.ignoresOrder_ofFields? _) s.nodup_members h]
    exact s.ofDocument?_document
  · refine readBack_of_rearranges (fun _ => rfl) rfl fun u others j h => ?_
    rw [Config.Update.ofDocument?, Json.bind_fields?_of_rearranges
      (Config.Update.ignoresOrder_ofFields? _) u.nodup_members h]
    exact u.ofDocument?_document
  · exact readBack_of_rearranges Message.document_eq rfl fun m others j h =>
      Message.ofDocument?_of_rearranges (m.document_eq ▸ h)

/-- A message with its members in reverse, its action last, behind members that it does not know.  Of
the numbers among them one is far from the limit, and one above the limit is rounded below it. -/
theorem read_rearranged_message :
    let u : Config.Update := { Config.Update.empty with mode := some .blacklist, rules := some ["*.cn"] }
    let far : Json.Numeral := .decimal true 1 308
    let near : Json.Numeral := .decimal false 179769313486231581 291
    let others : List (String × Json) :=
      [("Mode", .null), ("x", .array [.number far, .number near, .ofMembers [("x", .bool true)]])]
    let j := Json.ofMembers (others ++ [("rules", .texts ["*.cn"]), ("mode", .text "blacklist"),
      ("action", .text "updateProxy")])
    Rearranges Message.keys (Message.update u).document others j ∧
      Json.parse (Layout.compact.write j) = some j ∧
      (Json.parse (Layout.compact.write j)).bind Message.ofDocument? = some (.update u) ∧
      far.IsFarFromLimit ∧ far.isFinite = true ∧ Json.magnitudeLimit ≤ near.magnitude := by
  intro u far near others j
  have hperm : (others ++ [("rules", Json.texts ["*.cn"]), ("mode", Json.text "blacklist"),
      ("action", Json.text "updateProxy")]).Perm
        ((Message.actionKey, Json.text Message.updateAction) :: u.members ++ others) := by
    refine List.perm_append_comm.trans (List.Perm.append_right others ?_)
    exact List.reverse_perm [(Message.actionKey, Json.text Message.updateAction),
      ("mode", Json.text "blacklist"), ("rules", Json.texts ["*.cn"])]
  have hothers : ∀ m ∈ others, m.1 ∉ Message.keys := by
    simp only [others, List.forall_mem_cons, List.not_mem_nil, false_implies, implies_true, and_true]
    decide
  have hrearranges : Rearranges Message.keys (Message.update u).document others j :=
    ⟨_, _, rfl, rfl, hperm, hothers⟩
  have hparse := Json.parse_write Layout.compact j
  have hdata : others.all (·.2.isData Message.fieldDepth) = true := by decide +kernel
  have hread := read_rearranged.2.2.2.1.rearranged (.update u) others j _ hparse hrearranges
  rw [if_pos hdata] at hread
  have hfar : far.IsFarFromLimit := by decide +kernel
  have hfinite := (read_rearranged.2.2.2.2 far hfar).2 (by decide +kernel)
  exact ⟨hrearranges, hparse, hread, hfar, hfinite, by decide +kernel⟩

/-- A number that is too large, one below the limit that is rounded above it, half of a surrogate pair
and 127 arrays within each other are read under an unknown key of an update, but not under one of a
message. -/
theorem not_read_rearranged_message :
    let near : Json.Numeral := .decimal false 17976931348623158 292
    Layout.compact.write (.ofMembers [("action", .text "updateProxy"), ("x", .number near)])
        = "\x7b\"action\":\"updateProxy\",\"x\":17976931348623158e292\x7d" ∧
      near.magnitude < Json.magnitudeLimit ∧
      ∀ v ∈ [.number near, .number (.decimal false 1 999), .string none,
          Nat.repeat (fun j => .array [j]) 126 (.array [])],
        let j := Json.ofMembers [("action", .text "updateProxy"), ("x", v)]
        Rearranges Message.keys (Message.update .empty).document [("x", v)] j ∧
          (Json.parse (Layout.compact.write j)).bind Config.Update.ofDocument? = some .empty ∧
          (Json.parse (Layout.compact.write j)).bind Message.ofDocument? = none := by
  refine ⟨by decide +kernel, by decide +kernel, fun v hv => ⟨?_, ?_⟩⟩
  · refine ⟨_, _, rfl, rfl, List.Perm.refl _, fun m hm => ?_⟩
    have hx : "x" ∉ Message.keys := by decide
    rwa [List.mem_singleton.1 hm]
  · rw [Json.parse_write, Option.bind_some, Option.bind_some]
    simp only [List.mem_cons, List.not_mem_nil, or_false] at hv
    rcases hv with rfl | rfl | rfl | rfl
    all_goals decide +kernel

end Documents

end HostRouting
