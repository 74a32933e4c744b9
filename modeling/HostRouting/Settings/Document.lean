/-
**Settings as documents.**

Settings are kept under thirteen keys.  Five of them exist once per mode and begin with its word.
Texts that are unset are not written.  JSON and YAML differ in how they spell single values only, so
the settings are read from fields of any kind whose values can be read.

Main definitions:

* `Settings.keys` — the keys in their declared order;
* `Settings.Values` — how single values are read;
* `Settings.ofFields?` — the settings of given fields;
* `Settings.ofDocument?`, `Settings.document` — settings as JSON documents.
-/

import HostRouting.Json.Fields
import HostRouting.Routing.Document
import HostRouting.Settings.Basic

set_option autoImplicit false

namespace HostRouting

/-! ### Keys -/

namespace RuleSource

/-- The key of the rules entered by hand. -/
def manualKey (m : Mode) : String := m.text ++ "Rules"

/-- The key of the text they were entered as. -/
def manualTextKey (m : Mode) : String := m.text ++ "RawRules"

/-- The key of the URL that rules are fetched from. -/
def urlKey (m : Mode) : String := m.text ++ "RulesUrl"

/-- The key of the text fetched last. -/
def fetchedTextKey (m : Mode) : String := m.text ++ "UrlRules"

/-- The key of the rules of that text. -/
def fetchedKey (m : Mode) : String := m.text ++ "UrlRulesParsed"

end RuleSource

namespace Settings

/-- The keys of the settings, in their declared order. -/
def keys : List String :=
  ["proxyEnabled", "proxyUrl", "mode"]
    ++ [RuleSource.manualKey, RuleSource.manualTextKey, RuleSource.urlKey,
        RuleSource.fetchedTextKey, RuleSource.fetchedKey].flatMap
      fun key => [key .whitelist, key .blacklist]

/-! ### Reading -/

/-- How single values are read from documents of some kind. -/
structure Values (α : Type) where
  bool? : α → Option Bool
  text? : α → Option String
  optionalText? : α → Option (Option String)
  texts? : α → Option (List String)

variable {α : Type}

/-- What is kept for a mode, from given fields. -/
def sourceOfFields? (v : Values α) (fs : Record.Fields α) (m : Mode) : Option RuleSource := do
  let manual ← Record.field fs (RuleSource.manualKey m) v.texts? []
  let manualText ← Record.field fs (RuleSource.manualTextKey m) v.optionalText? none
  let url ← Record.field fs (RuleSource.urlKey m) v.optionalText? none
  let fetchedText ← Record.field fs (RuleSource.fetchedTextKey m) v.optionalText? none
  let fetched ← Record.field fs (RuleSource.fetchedKey m) v.texts? []
  some ⟨manual, manualText, url, fetchedText, fetched⟩

/-- The settings of given fields. -/
def ofFields? (v : Values α) (fs : Record.Fields α) : Option Settings := do
  let proxyEnabled ← Record.field fs "proxyEnabled" v.bool? standard.proxyEnabled
  let proxyUrl ← Record.field fs "proxyUrl" v.text? standard.proxyUrl
  let mode ← Record.field fs "mode" v.optionalText? none
  let whitelist ← sourceOfFields? v fs .whitelist
  let blacklist ← sourceOfFields? v fs .blacklist
  some ⟨proxyEnabled, proxyUrl, .ofOptionalText mode, whitelist, blacklist⟩

/-! ### JSON -/

/-- How values are read from JSON. -/
def jsonValues : Values Json := ⟨Json.bool?, Json.text?, Json.optional Json.text?, Json.texts?⟩

/-- The settings of a JSON document. -/
def ofDocument? (j : Json) : Option Settings := (j.fields? keys).bind (ofFields? jsonValues)

/-- A text that may be unset, as a member. -/
def optionalMember (key : String) (text : Option String) : List (String × Json) :=
  (text.map fun s => (key, Json.text s)).toList

/-- A member for each mode. -/
def eachMode (s : Settings) (members : Mode → RuleSource → List (String × Json)) :
    List (String × Json) :=
  members .whitelist s.whitelist ++ members .blacklist s.blacklist

/-- The members of the settings, in their declared order. -/
def members (s : Settings) : List (String × Json) :=
  [("proxyEnabled", .bool s.proxyEnabled), ("proxyUrl", .text s.proxyUrl),
    ("mode", s.mode.document)]
    ++ s.eachMode (fun m r => [(RuleSource.manualKey m, .texts r.manual)])
    ++ s.eachMode (fun m r => optionalMember (RuleSource.manualTextKey m) r.manualText)
    ++ s.eachMode (fun m r => optionalMember (RuleSource.urlKey m) r.url)
    ++ s.eachMode (fun m r => optionalMember (RuleSource.fetchedTextKey m) r.fetchedText)
    ++ s.eachMode (fun m r => [(RuleSource.fetchedKey m, .texts r.fetched)])

/-- The settings as a JSON document. -/
def document (s : Settings) : Json := .ofMembers s.members

end Settings

end HostRouting
