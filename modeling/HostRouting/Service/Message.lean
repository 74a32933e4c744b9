/-
**Messages.**

Settings pages send messages as documents.  The only action is to update the configuration: the
message names it and carries the fields of the update beside it, or behind it if the message is
written as an array.  A message is read as pure data, and the mode of its update may have an empty
object under its word where an update by itself wants null.

Main definitions:

* `Message` — what a page asks for, with `Message.ofDocument?` and `Message.document`;
* `Reply` — the answer, with `Reply.ofDocument?` and `Reply.document`.
-/

import HostRouting.Routing.Document

set_option autoImplicit false

namespace HostRouting

/-! ### Messages -/

/-- What a page asks for. -/
inductive Message where
  /-- Merge an update into the configuration. -/
  | update (u : Config.Update)
  deriving DecidableEq, Repr

namespace Message

/-- The key under which a message names its action. -/
def actionKey : String := "action"

/-- The name of the only action. -/
def updateAction : String := "updateProxy"

/-- The nesting that the fields of a message may have. -/
def fieldDepth : Nat := 126

/-- The message with an action and the document of its fields. -/
def ofAction? (action fields : Json) : Option Message := do
  let name ← action.text?
  guard (name = updateAction)
  let fs ← fields.fields? Config.keys
  (Config.Update.ofFields? Json.isNullOrEmpty fs).map .update

/-- The message of a document. -/
def ofDocument? : Json → Option Message
  | .array (action :: items) => do
      guard (Json.areData fieldDepth items)
      ofAction? action (.array items)
  | .object ms => do
      let (actions, fields) := ms.partition (·.1 == some actionKey)
      guard (Json.membersAreData fieldDepth fields)
      match actions with
      | [(_, action)] => ofAction? action (.object fields)
      | _ => none
  | _ => none

/-- A message as a document. -/
def document : Message → Json
  | .update u => .ofMembers ((actionKey, .text updateAction) :: u.members)

end Message

/-! ### Replies -/

/-- The answer to a message. -/
structure Reply where
  success : Bool
  deriving DecidableEq, Repr

namespace Reply

/-- The reply of a document; it has to say whether the message succeeded. -/
def ofDocument? (j : Json) : Option Reply := do
  let fs ← j.fields? ["success"]
  ((← fs.lookup "success").bool?).map (⟨·⟩)

/-- A reply as a document. -/
def document (r : Reply) : Json := .ofMembers [("success", .bool r.success)]

end Reply

end HostRouting
