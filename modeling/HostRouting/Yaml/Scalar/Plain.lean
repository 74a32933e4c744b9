/-
**Plain scalars.**

A plain scalar has no marks of its own.  It ends before a colon that a blank follows, before a
remark, before the mark of a document, in a flow collection before the marks of that collection,
and otherwise where a line is indented too little.

Main definitions:

* `Yaml.PlainScalar` — the text read, and whether the reading stopped on a later line;
* `Yaml.scanPlain?` — the plain scalar at a cursor.
-/

import HostRouting.Yaml.Scalar.Gap

set_option autoImplicit false

namespace HostRouting.Yaml

/-- A plain scalar as read. -/
structure PlainScalar where
  text : List Char
  /-- Whether line ends were passed after its last word. -/
  passedLine : Bool
  after : Cursor
  deriving DecidableEq, Repr

/-- Whether `c` is a mark of flow collections. -/
def isFlowMark (c : Char) : Bool := c == ',' || c == '[' || c == ']' || c == '\x7b' || c == '\x7d'

/-- Whether a text begins with a colon right before a mark that it would have to be told apart from;
that is refused. -/
def isUnclearColon : List Char → Bool
  | ':' :: c :: _ => isFlowMark c || c == '?'
  | _ => false

/-- Whether a plain scalar ends before a text inside a line. -/
def endsPlain (inFlow : Bool) : List Char → Bool
  | [] => true
  | c :: cs => (c == ':' && atWordEnd cs) || (inFlow && isFlowMark c)

/-- Whether a plain scalar ends at a text that follows a gap. -/
def endsAfterGap (indent : Nat) (inFlow : Bool) (p : Pos) (cs : List Char) : Bool :=
  (!inFlow && p.column < indent) || (p.column == 0 && beginsWithDocumentMark cs)
    || cs.head? == some '#'

/-- Reads on after the gap `g`; the lines of the scalar are indented by `indent` at least. -/
def scanPlainFrom? (indent : Nat) (inFlow : Bool) (g : Gap) (p : Pos) :
    List Char → Option PlainScalar
  | [] => some ⟨[], g.isBetweenLines, ⟨p, []⟩⟩
  | '\r' :: '\n' :: cs => scanPlainFrom? indent inFlow (g.lineEnd '\n') (p.down 2) cs
  | c :: cs =>
      if isBreak c then scanPlainFrom? indent inFlow (g.lineEnd c) (p.down 1) cs
      else if isBlank c then
        if c == '\t' && g.isBetweenLines && p.column < indent then none
        else scanPlainFrom? indent inFlow (g.blank c) (p.right 1) cs
      else if g != .none && endsAfterGap indent inFlow p (c :: cs) then
        some ⟨[], g.isBetweenLines, ⟨p, c :: cs⟩⟩
      else if inFlow && isUnclearColon (c :: cs) then none
      else if endsPlain inFlow (c :: cs) then some ⟨[], g.isBetweenLines, ⟨p, c :: cs⟩⟩
      else
        (scanPlainFrom? indent inFlow .none (p.right 1) cs).map fun s =>
          { s with text := g.text ++ c :: s.text }

/-- The plain scalar at a cursor. -/
def scanPlain? (indent : Nat) (inFlow : Bool) (c : Cursor) : Option PlainScalar :=
  scanPlainFrom? indent inFlow .none c.pos c.rest

end HostRouting.Yaml
