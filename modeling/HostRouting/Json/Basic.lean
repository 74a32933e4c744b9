/-
**JSON documents.**

A document is kept as it is written: members stay in order and may repeat a key.  A text of a
document may hold half of a surrogate pair, and then it stands for no string; where nobody looks at
such a text it does no harm.

Main definitions:

* `Json` — a document;
* `Json.data?` — a document as pure data.
-/

import HostRouting.Json.Numeral

set_option autoImplicit false

namespace HostRouting

/-! ### Documents -/

/-- A JSON document.  A text is `none` if it holds half of a surrogate pair. -/
inductive Json where
  | null
  | bool (b : Bool)
  | number (n : Json.Numeral)
  | string (text : Option String)
  | array (items : List Json)
  | object (members : List (Option String × Json))
  deriving Repr

namespace Json

/-- The document of a text. -/
def text (s : String) : Json := .string (some s)

/-- The document of a list of texts. -/
def texts (ss : List String) : Json := .array (ss.map text)

/-- The document of named members. -/
def ofMembers (ms : List (String × Json)) : Json := .object (ms.map fun (k, v) => (some k, v))

/-! ### Pure data -/

mutual

/-- Whether a document is pure data: every text is a string, every number fits, and the nesting is
no deeper than `depth`. -/
def isData (depth : Nat) : Json → Bool
  | .null | .bool _ => true
  | .number n => n.isFinite
  | .string s => s.isSome
  | .array items =>
      match depth with
      | 0 => false
      | depth + 1 => areData depth items
  | .object members =>
      match depth with
      | 0 => false
      | depth + 1 => membersAreData depth members

/-- Whether all items of an array are pure data. -/
def areData (depth : Nat) : List Json → Bool
  | [] => true
  | j :: js => isData depth j && areData depth js

/-- Whether all members of an object are pure data under keys that are strings. -/
def membersAreData (depth : Nat) : List (Option String × Json) → Bool
  | [] => true
  | (key, j) :: ms => key.isSome && isData depth j && membersAreData depth ms

end

mutual

/-- A document without the members that a later one with the same key replaces. -/
def settled : Json → Json
  | .array items => .array (settledItems items)
  | .object members => .object (settledMembers members)
  | j => j

/-- The items of an array without replaced members. -/
def settledItems : List Json → List Json
  | [] => []
  | j :: js => settled j :: settledItems js

/-- The members of an object without those that a later one replaces. -/
def settledMembers : List (Option String × Json) → List (Option String × Json)
  | [] => []
  | (key, j) :: ms =>
      let rest := settledMembers ms
      if rest.any (·.1 == key) then rest else (key, settled j) :: rest

end

/-- A document as pure data, in which every key of an object has one member, the last; `none` if
the document is no pure data. -/
def data? (depth : Nat) (j : Json) : Option Json :=
  if j.isData depth then some j.settled else none

end Json

end HostRouting
