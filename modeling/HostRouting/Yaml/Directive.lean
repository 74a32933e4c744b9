/-
**Tags, anchors and directives.**

A tag begins with an exclamation mark.  It is given in full between angle brackets, or by a handle
and a rest, of which a lone exclamation mark is both.  A directive stands on a line of its own and
names the version of YAML or gives a handle its meaning.

Main definitions:

* `Yaml.scanName?` — the name of an anchor or an alias;
* `Yaml.scanTag?` — the tag at a cursor;
* `Yaml.scanDirective?` — the directive at a cursor.
-/

import HostRouting.Text.Decimal
import HostRouting.Yaml.Cursor
import HostRouting.Yaml.Token

set_option autoImplicit false

namespace HostRouting.Yaml

/-! ### Anchors -/

/-- Whether a text may follow the name of an anchor or an alias. -/
def mayFollowName : List Char → Bool
  | [] => true
  | c :: _ => isBlank c || isBreak c || "?:,]\x7d%@`".toList.contains c

/-- The name behind the mark of an anchor or an alias, and the cursor behind it. -/
def scanName? (c : Cursor) : Option (List Char × Cursor) :=
  let name := c.prefixWhile isNameCharacter
  let after := c.skipWhile isNameCharacter
  if name.isEmpty || !mayFollowName after.rest then none else some (name, after)

/-! ### The text of tags -/

/-- Whether `c` may stand in a tag; `full` says whether the tag is given in full. -/
def isTagCharacter (full : Bool) (c : Char) : Bool :=
  isNameCharacter c || ";/?:@&=+$.%!~*'()".toList.contains c || (full && ",[]".toList.contains c)

/-- How many octets a character has in UTF-8 by the first of them. -/
def octetCount? (n : Nat) : Option Nat :=
  if n < 0x80 then some 1
  else if n < 0xC0 then none
  else if n < 0xE0 then some 2
  else if n < 0xF0 then some 3
  else if n < 0xF8 then some 4
  else none

/-- The octets of escapes `%XX` that spell one character, `owed` of them still to come. -/
def escapedOctets? : Nat → List Char → Option (List Nat)
  | 0, _ => some []
  | owed + 1, '%' :: a :: b :: cs => do
      let n ← Text.number? 16 [a, b]
      guard (n / 0x40 = 2)
      some (n :: (← escapedOctets? owed cs))
  | _ + 1, _ => none

/-- The octets of the character whose first escape is `%ab`. -/
def escapedCharacter? (a b : Char) (cs : List Char) : Option (List Nat) := do
  let n ← Text.number? 16 [a, b]
  let count ← octetCount? n
  some (n :: (← escapedOctets? (count - 1) cs))

/-- The text of a tag, each escaped octet as a character; the next `skip` characters belong to an
escape that was read already. -/
def scanTagText? (full : Bool) (skip : Nat) (p : Pos) : List Char → Option (List Char × Cursor)
  | [] => some ([], ⟨p, []⟩)
  | c :: cs =>
      match skip with
      | skip + 1 => scanTagText? full skip (p.right 1) cs
      | 0 =>
          if !isTagCharacter full c then some ([], ⟨p, c :: cs⟩)
          else if c == '%' then
            match cs with
            | a :: b :: rest => do
                let octets ← escapedCharacter? a b rest
                let (text, after) ← scanTagText? full (3 * octets.length - 1) (p.right 1) cs
                some (octets.map Char.ofNat ++ text, after)
            | _ => none
          else (scanTagText? full 0 (p.right 1) cs).map fun (text, after) => (c :: text, after)

/-- The text of a tag at a cursor. -/
def tagText? (full : Bool) (c : Cursor) : Option (List Char × Cursor) :=
  scanTagText? full 0 c.pos c.rest

/-! ### Tags -/

/-- What may be a handle: an exclamation mark, a name, and a second mark if there is one. -/
def scanHandle (c : Cursor) : List Char × Cursor :=
  let name := (c.skip 1).prefixWhile isNameCharacter
  let after := (c.skip 1).skipWhile isNameCharacter
  if after.rest.head? = some '!' then ('!' :: name ++ ['!'], after.skip 1) else ('!' :: name, after)

/-- Whether what may be a handle is one: it ends in a second exclamation mark. -/
def isHandle (handle : List Char) : Bool := 2 ≤ handle.length && handle.getLast? == some '!'

/-- A tag given in full. -/
def scanFullTag? (c : Cursor) : Option (Tag × Cursor) := do
  let (text, after) ← tagText? true (c.skip 2)
  guard (!text.isEmpty && after.rest.head? == some '>')
  some (⟨[], text⟩, after.skip 1)

/-- A tag given by a handle and a rest.  Without a second mark the handle is a lone mark and the
name belongs to the rest; nothing but a mark is a tag in full. -/
def scanShortTag? (c : Cursor) : Option (Tag × Cursor) := do
  let (handle, behind) := scanHandle c
  let (text, after) ← tagText? false behind
  if isHandle handle then
    guard (!text.isEmpty)
    some (⟨handle, text⟩, after)
  else
    let suffix := handle.drop 1 ++ text
    some (if suffix.isEmpty then ⟨[], ['!']⟩ else ⟨['!'], suffix⟩, after)

/-- The tag at a cursor, and the cursor behind it; a blank or a line end has to follow, in a flow
collection a comma may. -/
def scanTag? (inFlow : Bool) (c : Cursor) : Option (Tag × Cursor) := do
  let (tag, after) ←
    if (c.rest.drop 1).head? = some '<' then scanFullTag? c else scanShortTag? c
  guard (atWordEnd after.rest || (inFlow && after.rest.head? == some ','))
  some (tag, after)

/-! ### Directives -/

/-- A number of one to nine digits. -/
def scanVersionNumber? (c : Cursor) : Option (Nat × Cursor) := do
  let digits := c.prefixWhile (Text.isDigit 10)
  guard (1 ≤ digits.length && digits.length ≤ 9)
  some (← Text.number? 10 digits, c.skipWhile (Text.isDigit 10))

/-- What follows the name of the directive for the version. -/
def scanVersion? (c : Cursor) : Option (Token × Cursor) := do
  let (major, c) ← scanVersionNumber? (c.skipWhile isBlank)
  guard (c.rest.head? == some '.')
  let (minor, c) ← scanVersionNumber? (c.skip 1)
  some (.version major minor, c)

/-- What follows the name of the directive for a tag handle. -/
def scanTagMeaning? (c : Cursor) : Option (Token × Cursor) := do
  let c := c.skipWhile isBlank
  guard (c.rest.head? == some '!')
  let (handle, c) := scanHandle c
  guard (handle == ['!'] || isHandle handle)
  guard ((c.rest.head?.map isBlank).getD false)
  let (meaning, c) ← tagText? true (c.skipWhile isBlank)
  guard (!meaning.isEmpty && atWordEnd c.rest)
  some (.tagMeaning handle meaning, c)

/-- The directive at a cursor, and the cursor behind its line. -/
def scanDirective? (c : Cursor) : Option (Token × Cursor) := do
  let name := (c.skip 1).prefixWhile isNameCharacter
  let c := (c.skip 1).skipWhile isNameCharacter
  guard (atWordEnd c.rest)
  let (token, c) ←
    if name = "YAML".toList then scanVersion? c
    else if name = "TAG".toList then scanTagMeaning? c
    else none
  some (token, ← c.finishLine?)

end HostRouting.Yaml
