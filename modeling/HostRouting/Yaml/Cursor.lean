/-
**Places in a YAML text.**

Structure in YAML hangs on where things stand, so a text is read with its position at hand: the
line, the column in it and the number of characters passed.  Line ends come in five spellings;
inside scalars they are written as a line feed, but for the two separators of Unicode.

Main definitions:

* `Yaml.Pos`, `Yaml.Cursor` — a position, and a position with the text that follows it;
* `Yaml.isBlank`, `Yaml.isBreak` — the characters between words and between lines;
* `Yaml.Cursor.skip`, `Yaml.Cursor.skipWhile`, `Yaml.Cursor.skipBreak` — moving on.
-/

set_option autoImplicit false

namespace HostRouting.Yaml

/-! ### Characters -/

/-- Whether `c` separates words on a line. -/
def isBlank (c : Char) : Bool := c == ' ' || c == '\t'

/-- Whether `c` begins a line end. -/
def isBreak (c : Char) : Bool :=
  c == '\n' || c == '\r' || c == '\u0085' || c == '\u2028' || c == '\u2029'

/-- How a line end is written inside a scalar. -/
def breakText (c : Char) : Char := if c == '\u2028' || c == '\u2029' then c else '\n'

/-- Whether `c` may stand in a YAML text at all. -/
def isAllowed (c : Char) : Bool :=
  c == '\t' || c == '\n' || c == '\r' || c == '\u0085'
    || (0x20 ≤ c.toNat && c.toNat ≤ 0x7E) || (0xA0 ≤ c.toNat && c.toNat ≤ 0xFFFD)
    || 0x10000 ≤ c.toNat

/-- Whether `c` may stand in the name of an anchor, a directive or a tag handle. -/
def isNameCharacter (c : Char) : Bool := c.isAlphanum || c == '_' || c == '-'

/-- Whether a line ends where a text begins. -/
def atLineEnd : List Char → Bool
  | [] => true
  | c :: _ => isBreak c

/-- Whether a word ends where a text begins. -/
def atWordEnd : List Char → Bool
  | [] => true
  | c :: _ => isBlank c || isBreak c

/-- Whether a text begins with three times `mark` as a word of its own. -/
def beginsWithMark (mark : Char) : List Char → Bool
  | a :: b :: c :: cs => a == mark && b == mark && c == mark && atWordEnd cs
  | _ => false

/-- Whether a text begins with the mark of a document's start or end. -/
def beginsWithDocumentMark (cs : List Char) : Bool :=
  beginsWithMark '-' cs || beginsWithMark '.' cs

/-! ### Positions -/

/-- A position: line, column in it, and number of characters before it. -/
structure Pos where
  line : Nat
  column : Nat
  index : Nat
  deriving DecidableEq, Repr

/-- The position at which a text begins. -/
def Pos.origin : Pos := ⟨0, 0, 0⟩

/-- The position `n` characters further on the same line. -/
def Pos.right (p : Pos) (n : Nat) : Pos := ⟨p.line, p.column + n, p.index + n⟩

/-- The start of the next line, behind a line end of `n` characters. -/
def Pos.down (p : Pos) (n : Nat) : Pos := ⟨p.line + 1, 0, p.index + n⟩

@[simp] theorem Pos.column_down (p : Pos) (n : Nat) : (p.down n).column = 0 := rfl

/-! ### Cursors -/

/-- A position with the text that follows it. -/
structure Cursor where
  pos : Pos
  rest : List Char
  deriving DecidableEq, Repr

namespace Cursor

/-- The cursor at the start of a text. -/
def start (text : List Char) : Cursor := ⟨.origin, text⟩

/-- The cursor `n` characters further on the same line. -/
def skip (n : Nat) (c : Cursor) : Cursor := ⟨c.pos.right n, c.rest.drop n⟩

/-- The characters up to the first one that does not satisfy `p`. -/
def prefixWhile (p : Char → Bool) (c : Cursor) : List Char := c.rest.takeWhile p

/-- The cursor behind the characters that satisfy `p`, none of which ends a line. -/
def skipWhile (p : Char → Bool) (c : Cursor) : Cursor :=
  ⟨c.pos.right (c.rest.takeWhile p).length, c.rest.dropWhile p⟩

/-- The cursor behind the line end at which it stands, if it stands at one. -/
def skipBreak (c : Cursor) : Cursor :=
  match c.rest with
  | '\r' :: '\n' :: cs => ⟨c.pos.down 2, cs⟩
  | x :: cs => if isBreak x then ⟨c.pos.down 1, cs⟩ else c
  | [] => c

/-- How the line end at which a cursor stands is written inside a scalar. -/
def breakHere (c : Cursor) : List Char :=
  match c.rest with
  | x :: _ => if isBreak x then [breakText x] else []
  | [] => []

/-- The cursor behind a remark at which it stands. -/
def skipRemark (c : Cursor) : Cursor :=
  match c.rest with
  | '#' :: _ => c.skipWhile (!isBreak ·)
  | _ => c

/-- The cursor behind blanks and a remark after them, if the line ends there; it stands then at
the start of the next line. -/
def finishLine? (c : Cursor) : Option Cursor :=
  let c := (c.skipWhile isBlank).skipRemark
  if atLineEnd c.rest then some c.skipBreak else none

end Cursor

end HostRouting.Yaml
