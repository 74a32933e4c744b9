/-
**Globs.**

A glob is read against a whole text from left to right: `*` takes any run of characters, `?` takes
one, and every other character takes itself.  Neither wildcard takes a line terminator.

The reading keeps one mark per character of the glob, which says whether the glob up to there can
have taken exactly the text read so far.  One more character of the text moves all marks at once,
so the work is the product of the two lengths, whatever the number of stars.

Main definitions:

* `Glob.Item` — what one character of a glob takes;
* `Glob.Marks` — the items with their marks;
* `Glob.accepts` — whether a glob takes a whole text.
-/

set_option autoImplicit false

namespace HostRouting.Glob

/-! ### Items -/

/-- What one character of a glob takes. -/
inductive Item where
  /-- Just this character. -/
  | literal (c : Char)
  /-- One character that is no line terminator. -/
  | one
  /-- Any number of characters that are no line terminators. -/
  | run
  deriving DecidableEq, Repr

/-- The meaning of a character of a glob. -/
def Item.ofChar (c : Char) : Item := if c = '*' then .run else if c = '?' then .one else .literal c

/-- The items of a glob. -/
def items (source : List Char) : List Item := source.map Item.ofChar

/-- Whether `c` ends a line. -/
def isLineTerminator (c : Char) : Bool :=
  c == '\n' || c == '\r' || c == '\u2028' || c == '\u2029'

@[simp] theorem items_nil : items [] = [] := rfl

@[simp] theorem items_cons (c : Char) (cs : List Char) :
    items (c :: cs) = Item.ofChar c :: items cs := rfl

/-! ### Marks -/

/-- Items with their marks: the mark of an item says whether the items up to and with it can have
taken exactly the text read so far. -/
abbrev Marks := List (Item × Bool)

/-- The marks before anything is read; `before` is the mark in front of the items.  Only a run
takes the empty text. -/
def start (before : Bool) : List Item → Marks
  | [] => []
  | i :: is =>
      let mark := before && i == .run
      (i, mark) :: start mark is

/-- The mark of an item after `c` is read, from the old mark in front of it, the new mark in front
of it, and its own old mark. -/
def Item.mark (c : Char) (oldBefore newBefore old : Bool) : Item → Bool
  | .literal d => oldBefore && c == d
  | .one => oldBefore && !isLineTerminator c
  | .run => newBefore || (old && !isLineTerminator c)

/-- The marks after `c` is read. -/
def advance (c : Char) (oldBefore newBefore : Bool) : Marks → Marks
  | [] => []
  | (i, old) :: ms =>
      let mark := i.mark c oldBefore newBefore old
      (i, mark) :: advance c old mark ms

/-- The mark behind the last item; `before` is the mark in front of the items. -/
def Marks.last (before : Bool) (ms : Marks) : Bool := (ms.getLast?.map (·.2)).getD before

/-- Whether the items, marked for what was read, can take the rest of the text; `before` is the
mark in front of them. -/
def finishes (before : Bool) (ms : Marks) : List Char → Bool
  | [] => ms.last before
  | c :: cs => finishes false (advance c before false ms) cs

/-- Whether the items take the whole text. -/
def itemsAccept (is : List Item) (text : List Char) : Bool := finishes true (start true is) text

/-- Whether a glob takes the whole text. -/
def accepts (source text : List Char) : Bool := itemsAccept (items source) text

end HostRouting.Glob
