/-
**Block scalars.**

A block scalar consists of the lines below its head that are indented.  The head may give the
indentation, otherwise the first line with something in it does.  Literal scalars keep their line
ends.  Folded ones join two lines by a space unless one of them begins with a blank.  What becomes
of the line ends behind the last line is the head's choice, too.

Main definitions:

* `Yaml.Chomping`, `Yaml.BlockHead` — what the head of a block scalar says;
* `Yaml.scanBlock?` — the block scalar whose first mark lies before a cursor.
-/

import HostRouting.Yaml.Cursor

set_option autoImplicit false

namespace HostRouting.Yaml

/-! ### Heads -/

/-- What becomes of the line ends behind the last line. -/
inductive Chomping where
  /-- All go. -/
  | strip
  /-- One stays. -/
  | clip
  /-- All stay. -/
  | keep
  deriving DecidableEq, Repr

/-- What the head of a block scalar says. -/
structure BlockHead where
  chomping : Chomping
  /-- By how much the lines are indented beyond the block around the scalar. -/
  increment : Option Nat
  deriving DecidableEq, Repr

/-- The chomping that a character stands for. -/
def chomping? (c : Char) : Option Chomping :=
  if c = '+' then some .keep else if c = '-' then some .strip else none

/-- The head that marks of one or two characters give, and their number; an indentation of nothing
is refused. -/
def blockHead? (cs : List Char) : Option (BlockHead × Nat) :=
  let increment? (c : Char) : Option Nat :=
    if '1' ≤ c ∧ c ≤ '9' then some (c.toNat - 0x30) else none
  match cs with
  | [] => some (⟨.clip, none⟩, 0)
  | c :: cs =>
      match chomping? c with
      | some chomping =>
          match cs with
          | [] => some (⟨chomping, none⟩, 1)
          | d :: _ =>
              if d = '0' then none
              else
                match increment? d with
                | some n => some (⟨chomping, some n⟩, 2)
                | none => some (⟨chomping, none⟩, 1)
      | none =>
          if c = '0' then none
          else
            match increment? c with
            | none => some (⟨.clip, none⟩, 0)
            | some n =>
                match cs.head?.bind chomping? with
                | some chomping => some (⟨chomping, some n⟩, 2)
                | none => some (⟨.clip, some n⟩, 1)

/-! ### Empty lines -/

/-- The line ends in front of the next line with something in it. -/
structure EmptyLines where
  breaks : List Char
  /-- The greatest column that was reached by spaces. -/
  width : Nat
  after : Cursor
  deriving DecidableEq, Repr

/-- Passes spaces up to the column `indent`, all of them if that is `none`, and empty lines; a tab
where spaces are expected is refused. -/
def scanEmptyLines? (indent : Option Nat) (width : Nat) (p : Pos) : List Char → Option EmptyLines
  | [] => some ⟨[], max width p.column, ⟨p, []⟩⟩
  | c :: cs =>
      let inIndent := indent.all (p.column < ·)
      if c == ' ' && inIndent then scanEmptyLines? indent width (p.right 1) cs
      else if c == '\t' && inIndent then none
      else if c == '\r' && cs.head? == some '\n' then
        scanEmptyLines? indent (max width p.column) (p.right 1) cs
      else if isBreak c then
        (scanEmptyLines? indent (max width p.column) (p.down 1) cs).map fun e =>
          { e with breaks := breakText c :: e.breaks }
      else some ⟨[], max width p.column, ⟨p, c :: cs⟩⟩

/-! ### Lines -/

/-- The text of a block scalar, with the line ends behind its last line still apart. -/
structure BlockText where
  text : List Char
  /-- The end of the last line. -/
  lastBreak : List Char
  /-- The line ends after it. -/
  breaks : List Char
  after : Cursor
  deriving DecidableEq, Repr

/-- What joins two lines, of which the first ended in `lastBreak` with `breaks` after that.  `blank`
says whether one of the two begins with a blank. -/
def joint (literal blank : Bool) (lastBreak breaks : List Char) : List Char :=
  if !literal && !blank && lastBreak == ['\n'] then if breaks.isEmpty then [' '] else breaks
  else lastBreak ++ breaks

/-- Reads the lines at the column `indent`; `blank` says whether the line before began with a
blank, and `lastBreak` and `breaks` are the line ends after that line. -/
def scanBlockLines? (literal : Bool) (indent : Nat) :
    Nat → Bool → List Char → List Char → Cursor → Option BlockText
  | 0, _, lastBreak, breaks, c => some ⟨[], lastBreak, breaks, c⟩
  | fuel + 1, blank, lastBreak, breaks, c =>
      if c.pos.column = indent ∧ c.rest ≠ [] then do
        let isIndented := (c.rest.head?.map isBlank).getD false
        let line := c.prefixWhile (!isBreak ·)
        let lineEnd := c.skipWhile (!isBreak ·)
        let next := lineEnd.skipBreak
        let empty ← scanEmptyLines? (some indent) 0 next.pos next.rest
        let more ← scanBlockLines? literal indent fuel isIndented lineEnd.breakHere empty.breaks
          empty.after
        some { more with
          text := joint literal (blank || isIndented) lastBreak breaks ++ line ++ more.text }
      else some ⟨[], lastBreak, breaks, c⟩

/-- A text with those of the line ends behind it that stay. -/
def BlockText.chomped (b : BlockText) : Chomping → List Char
  | .strip => b.text
  | .clip => b.text ++ b.lastBreak
  | .keep => b.text ++ b.lastBreak ++ b.breaks

/-- The lines below the head of a block scalar; `indent` is the column of the block around it. -/
def scanBlockBody? (literal : Bool) (head : BlockHead) (indent : Int) (c : Cursor) :
    Option (List Char × Cursor) := do
  let given := head.increment.map fun n => (max indent 0).toNat + n
  let empty ← scanEmptyLines? given 0 c.pos c.rest
  let column := given.getD (max (max empty.width (indent + 1).toNat) 1)
  let body ← scanBlockLines? literal column c.rest.length false [] empty.breaks empty.after
  some (body.chomped head.chomping, body.after)

/-- The block scalar whose first mark lies before a cursor, and the cursor behind it. -/
def scanBlock? (literal : Bool) (indent : Int) (c : Cursor) : Option (List Char × Cursor) := do
  let (head, n) ← blockHead? c.rest
  scanBlockBody? literal head indent (← (c.skip n).finishLine?)

end HostRouting.Yaml
