/-
**Configurations as documents.**

A configuration is read with defaults for what is missing, and its mode leniently: null and unknown
words mean whitelist.  An update is read strictly; null is the same as missing.

Main definitions:

* `Mode.ofDocument?` — a mode by its exact word;
* `Mode.ofOptionalText` — a mode read leniently;
* `Config.ofDocument?`, `Config.document` — configurations;
* `Config.Update.ofFields?`, `Config.Update.ofDocument?`, `Config.Update.document` — updates.
-/

import HostRouting.Json.Fields
import HostRouting.Routing.Config

set_option autoImplicit false

namespace HostRouting

/-! ### Modes -/

namespace Mode

/-- The mode with exactly this word. -/
def ofWord? (s : String) : Option Mode :=
  if s = "whitelist" then some .whitelist else if s = "blacklist" then some .blacklist else none

/-- The mode that an optional text names, read leniently. -/
def ofOptionalText : Option String → Mode
  | some s => ofTextOrDefault s
  | none => .whitelist

/-- The mode of a document: its word, or an object with the word as its only key and nothing under
it, where `isNothing` says what counts as nothing. -/
def ofDocument? (isNothing : Json → Bool) : Json → Option Mode
  | .string (some s) => ofWord? s
  | .object [(some s, j)] => if isNothing j then ofWord? s else none
  | _ => none

/-- A mode as a document. -/
def document (m : Mode) : Json := .text m.text

@[simp] theorem ofWord?_text (m : Mode) : ofWord? m.text = some m := by cases m <;> decide

end Mode

namespace Json

/-- Whether a document is null. -/
def isNull : Json → Bool
  | .null => true
  | _ => false

/-- Whether a document is null or an empty object. -/
def isNullOrEmpty : Json → Bool
  | .null | .object [] => true
  | _ => false

end Json

/-! ### Configurations -/

namespace Config

/-- The keys of a configuration, in their declared order. -/
def keys : List String := ["proxyEnabled", "proxyUrl", "mode", "rules"]

/-- The configuration of given fields. -/
def ofFields? (fs : Record.Fields Json) : Option Config := do
  let proxyEnabled ← Record.field fs "proxyEnabled" Json.bool? standard.proxyEnabled
  let proxyUrl ← Record.field fs "proxyUrl" Json.text? standard.proxyUrl
  let mode ← Record.field fs "mode" (Json.optional Json.text?) none
  let rules ← Record.field fs "rules" Json.texts? standard.rules
  some ⟨proxyEnabled, proxyUrl, .ofOptionalText mode, rules⟩

/-- The configuration of a document. -/
def ofDocument? (j : Json) : Option Config := (j.fields? keys).bind ofFields?

/-- A configuration as a document. -/
def document (c : Config) : Json := .ofMembers [
  ("proxyEnabled", .bool c.proxyEnabled), ("proxyUrl", .text c.proxyUrl),
  ("mode", c.mode.document), ("rules", .texts c.rules)]

/-! ### Updates -/

namespace Update

/-- The update of given fields; `isNothing` says what counts as nothing below a mode. -/
def ofFields? (isNothing : Json → Bool) (fs : Record.Fields Json) : Option Update := do
  let proxyEnabled ← Record.field fs "proxyEnabled" (Json.optional Json.bool?) none
  let proxyUrl ← Record.field fs "proxyUrl" (Json.optional Json.text?) none
  let mode ← Record.field fs "mode" (Json.optional (Mode.ofDocument? isNothing)) none
  let rules ← Record.field fs "rules" (Json.optional Json.texts?) none
  some ⟨proxyEnabled, proxyUrl, mode, rules⟩

/-- The update of a document. -/
def ofDocument? (j : Json) : Option Update := (j.fields? keys).bind (ofFields? Json.isNull)

/-- The members of an update: what it carries. -/
def members (u : Update) : List (String × Json) :=
  (u.proxyEnabled.map fun b => ("proxyEnabled", Json.bool b)).toList
    ++ (u.proxyUrl.map fun s => ("proxyUrl", Json.text s)).toList
    ++ (u.mode.map fun m => ("mode", m.document)).toList
    ++ (u.rules.map fun rs => ("rules", Json.texts rs)).toList

/-- An update as a document. -/
def document (u : Update) : Json := .ofMembers u.members

end Update

end Config

end HostRouting
