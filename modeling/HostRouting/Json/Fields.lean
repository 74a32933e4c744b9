/-
**Records as documents.**

A record is written as an object, or as an array of its fields in their declared order from which
trailing ones may be missing.  In an object, members with unknown keys do not count, and a known key
stands at most once.

Main definitions:

* `Json.fields?` — the fields of a record that a document gives;
* `Json.bool?`, `Json.text?`, `Json.texts?`, `Json.optional` — the values that fields take.
-/

import HostRouting.Json.Basic
import HostRouting.Record

set_option autoImplicit false

namespace HostRouting.Json

/-! ### Values -/

/-- The truth value of a document. -/
def bool? : Json → Option Bool
  | .bool b => some b
  | _ => none

/-- The string of a document. -/
def text? : Json → Option String
  | .string s => s
  | _ => none

/-- The list of strings of a document. -/
def texts? : Json → Option (List String)
  | .array items => items.mapM text?
  | _ => none

/-- A value that may be absent: null stands for no value. -/
def optional {α : Type} (value? : Json → Option α) : Json → Option (Option α)
  | .null => some none
  | j => (value? j).map some

/-- The document of a value that may be absent. -/
def orNull {α : Type} (document : α → Json) : Option α → Json
  | some a => document a
  | none => .null

/-! ### Fields -/

/-- The members of an object by their keys, if every key is a string. -/
def named? (ms : List (Option String × Json)) : Option (Record.Fields Json) :=
  ms.mapM fun (key, j) => key.map (·, j)

/-- The fields of a record with the given keys, in their declared order. -/
def fields? (keys : List String) : Json → Option (Record.Fields Json)
  | .object ms => (named? ms).bind (Record.known? keys)
  | .array items => if items.length ≤ keys.length then some (keys.zip items) else none
  | _ => none

end HostRouting.Json
