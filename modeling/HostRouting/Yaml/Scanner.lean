/-
**From YAML text to tokens.**

Most tokens are plain to see.  Those that begin and end blocks are not: a block begins where an
entry stands further right than the blocks around it, and it ends where a token stands further left.
A key without a mark shows itself only by the colon behind it, so every place where such a key may
begin is remembered, one for each open flow collection, and its tokens are put in when the colon
comes.  That has to happen on the same line and within 1024 characters.

Main definitions:

* `Yaml.SimpleKey` — where a key without a mark may have begun;
* `Yaml.Scanner` — how far the text is read, with `Yaml.Scanner.token?`;
* `Yaml.scan?` — the tokens of a text.
-/

import HostRouting.Yaml.Directive
import HostRouting.Yaml.Scalar.Block
import HostRouting.Yaml.Scalar.Plain
import HostRouting.Yaml.Scalar.Quoted

set_option autoImplicit false

namespace HostRouting.Yaml

/-- Where a key without a mark may have begun. -/
structure SimpleKey where
  /-- Whether nothing but a key may stand there. -/
  required : Bool
  /-- How many tokens precede it. -/
  number : Nat
  pos : Pos
  deriving DecidableEq, Repr

/-- How far a text is read. -/
structure Scanner where
  cursor : Cursor
  /-- The tokens so far, the last one first. -/
  tokens : List Token
  /-- The column of the innermost block, -1 outside of blocks. -/
  indent : Int
  /-- The columns of the blocks around it, innermost first. -/
  outerIndents : List Int
  /-- The key that may have begun in the innermost flow collection. -/
  key : Option SimpleKey
  /-- The keys in what is around it, innermost first; their number is the depth of flow
  collections. -/
  outerKeys : List (Option SimpleKey)
  /-- Whether a key may begin here. -/
  keyAllowed : Bool
  deriving DecidableEq, Repr

namespace Scanner

/-- The scanner at the start of a text. -/
def start (text : List Char) : Scanner := ⟨.start text, [], -1, [], none, [], true⟩

/-- Whether a flow collection is open. -/
def inFlow (s : Scanner) : Bool := !s.outerKeys.isEmpty

/-- The column at which the scanner stands. -/
def column (s : Scanner) : Nat := s.cursor.pos.column

/-- The text that is still to be read. -/
def rest (s : Scanner) : List Char := s.cursor.rest

/-- The scanner with one more token. -/
def push (t : Token) (s : Scanner) : Scanner := { s with tokens := t :: s.tokens }

/-- The scanner with its cursor moved. -/
def moved (c : Cursor) (s : Scanner) : Scanner := { s with cursor := c }

/-- The scanner with a token of `n` characters read. -/
def take (t : Token) (n : Nat) (s : Scanner) : Scanner := (s.push t).moved (s.cursor.skip n)

/-- The scanner with the word that a key may or may not begin here. -/
def allowingKey (allowed : Bool) (s : Scanner) : Scanner := { s with keyAllowed := allowed }

/-! ### Keys -/

/-- Drops a key that can no longer be one at a position; `none` if it has to be one. -/
def freshKey? (p : Pos) : Option SimpleKey → Option (Option SimpleKey)
  | none => some none
  | some k =>
      if k.pos.line < p.line ∨ k.pos.index + 1024 < p.index then
        if k.required then none else some none
      else some (some k)

/-- Drops the keys that can no longer be ones. -/
def withFreshKeys? (s : Scanner) : Option Scanner := do
  let key ← freshKey? s.cursor.pos s.key
  let outerKeys ← s.outerKeys.mapM (freshKey? s.cursor.pos)
  some { s with key := key, outerKeys := outerKeys }

/-- Gives up the innermost key; `none` if it has to be one. -/
def withoutKey? (s : Scanner) : Option Scanner :=
  match s.key with
  | some k => if k.required then none else some { s with key := none }
  | none => some s

/-- Remembers that a key may begin here.  It has to if the block around has this very column. -/
def withKey? (s : Scanner) : Option Scanner :=
  if s.keyAllowed then do
    let required := !s.inFlow && s.indent == s.column
    let s' ← s.withoutKey?
    some { s' with key := some ⟨required, s.tokens.length, s.cursor.pos⟩ }
  else some s

/-! ### Blocks -/

/-- Puts a token in after the first `number` ones. -/
def insert (number : Nat) (t : Token) (s : Scanner) : Scanner :=
  let later := s.tokens.length - number
  { s with tokens := s.tokens.take later ++ t :: s.tokens.drop later }

/-- Begins a block at a column unless one is open there, with the token `t` after the first
`number` ones. -/
def openBlock (column number : Nat) (t : Token) (s : Scanner) : Scanner :=
  if !s.inFlow && s.indent < column then
    { s.insert number t with indent := column, outerIndents := s.indent :: s.outerIndents }
  else s

/-- Begins a block here. -/
def openBlockHere (t : Token) (s : Scanner) : Scanner := s.openBlock s.column s.tokens.length t

/-- Ends blocks until one has at most the given column. -/
def closeBlocksFrom (column : Int) : List Int → Scanner → Scanner
  | [], s => s
  | outer :: more, s =>
      if column < s.indent then
        closeBlocksFrom column more
          ({ s with indent := outer, outerIndents := more }.push .blockEnd)
      else s

/-- Ends the blocks that stand further right than a column. -/
def closeBlocks (column : Int) (s : Scanner) : Scanner :=
  if s.inFlow then s else closeBlocksFrom column s.outerIndents s

/-! ### Up to the next token -/

/-- Passes blanks, remarks and line ends.  A byte order mark may begin a line.  Outside of flow
collections a tab is no blank where a key may begin, and a key may begin on every new line. -/
def toNextToken : Nat → Scanner → Scanner
  | 0, s => s
  | fuel + 1, s =>
      let c := s.cursor
      let c := if c.pos.column == 0 && c.rest.head? == some '\uFEFF' then c.skip 1 else c
      let passes (x : Char) : Bool := x == ' ' || (x == '\t' && (s.inFlow || !s.keyAllowed))
      let c := (c.skipWhile passes).skipRemark
      if c.rest.isEmpty || !atLineEnd c.rest then s.moved c
      else toNextToken fuel ((s.moved c.skipBreak).allowingKey (s.keyAllowed || !s.inFlow))

/-! ### Tokens -/

/-- Ends all blocks and forgets keys, as in front of what stands between documents. -/
def betweenDocuments? (s : Scanner) : Option Scanner := do
  let s ← (s.closeBlocks (-1)).withoutKey?
  some (s.allowingKey false)

/-- Reads the mark of a document's start or end. -/
def documentMark? (t : Token) (s : Scanner) : Option Scanner := do
  let s ← s.betweenDocuments?
  some (s.take t 3)

/-- Reads a directive. -/
def directive? (s : Scanner) : Option Scanner := do
  let s ← s.betweenDocuments?
  let (t, after) ← scanDirective? s.cursor
  some ((s.push t).moved after)

/-- Reads the opening mark of a flow collection. -/
def openFlow? (t : Token) (s : Scanner) : Option Scanner := do
  let s ← s.withKey?
  let s : Scanner := { s with key := none, outerKeys := s.key :: s.outerKeys }
  some ((s.allowingKey true).take t 1)

/-- The scanner outside of the innermost flow collection, if one is open. -/
def leaveFlow (s : Scanner) : Scanner :=
  match s.outerKeys with
  | [] => s
  | key :: more => { s with key := key, outerKeys := more }

/-- Reads the closing mark of a flow collection. -/
def closeFlow? (t : Token) (s : Scanner) : Option Scanner := do
  let s ← s.withoutKey?
  some ((s.leaveFlow.allowingKey false).take t 1)

/-- Reads the comma behind an item of a flow collection. -/
def flowEntry? (s : Scanner) : Option Scanner := do
  let s ← s.withoutKey?
  some ((s.allowingKey true).take .flowEntry 1)

/-- Opens a block for a mark that outside of flow collections stands only where a key may begin. -/
def openBlockForMark? (t : Token) (s : Scanner) : Option Scanner :=
  if s.inFlow then some s else if s.keyAllowed then some (s.openBlockHere t) else none

/-- Reads the hyphen in front of an item. -/
def blockEntry? (s : Scanner) : Option Scanner := do
  let s ← s.openBlockForMark? .blockSequenceStart
  let s ← s.withoutKey?
  some ((s.allowingKey true).take .blockEntry 1)

/-- Reads the question mark in front of a key. -/
def markedKey? (s : Scanner) : Option Scanner := do
  let s ← s.openBlockForMark? .blockMappingStart
  let s ← s.withoutKey?
  some ((s.allowingKey (!s.inFlow)).take .key 1)

/-- Reads the colon in front of a value.  If a key without a mark precedes, its token is put in. -/
def value? (s : Scanner) : Option Scanner :=
  match s.key with
  | some k =>
      let s := (s.insert k.number .key).openBlock k.pos.column k.number .blockMappingStart
      some (({ s with key := none }.allowingKey false).take .value 1)
  | none => do
      let s ← s.openBlockForMark? .blockMappingStart
      some ((s.allowingKey (!s.inFlow)).take .value 1)

/-- Reads the name behind the mark of an anchor or an alias. -/
def name? (t : List Char → Token) (s : Scanner) : Option Scanner := do
  let s ← s.withKey?
  let (name, after) ← scanName? (s.cursor.skip 1)
  some (((s.allowingKey false).push (t name)).moved after)

/-- Reads a tag. -/
def tag? (s : Scanner) : Option Scanner := do
  let s ← s.withKey?
  let (t, after) ← scanTag? s.inFlow s.cursor
  some (((s.allowingKey false).push (.tag t)).moved after)

/-- Reads a block scalar. -/
def blockScalar? (style : Style) (s : Scanner) : Option Scanner := do
  let s ← s.withoutKey?
  let (text, after) ← scanBlock? (style == .literal) s.indent (s.cursor.skip 1)
  some (((s.allowingKey true).push (.scalar style text)).moved after)

/-- Reads a quoted scalar. -/
def quotedScalar? (style : Style) (s : Scanner) : Option Scanner := do
  let s ← s.withKey?
  let (text, after) ← scanQuoted? (style == .singleQuoted) (s.cursor.skip 1)
  some (((s.allowingKey false).push (.scalar style text)).moved after)

/-- Reads a plain scalar; a key may begin on the line that ended it. -/
def plainScalar? (s : Scanner) : Option Scanner := do
  let s ← s.withKey?
  let scalar ← scanPlain? (s.indent + 1).toNat s.inFlow s.cursor
  some (((s.allowingKey scalar.passedLine).push (.scalar .plain scalar.text)).moved scalar.after)

/-- Whether `c` is a mark, which begins no plain scalar by itself. -/
def isMark (c : Char) : Bool := "-?:,[]\x7b\x7d#&*!|>'\"%@`".toList.contains c

/-- Whether a plain scalar begins with `c` when `cs` follows. -/
def beginsPlain (inFlow : Bool) (c : Char) (cs : List Char) : Bool :=
  !(isBlank c || isBreak c || isMark c)
    || (c == '-' && !(cs.head?.map isBlank).getD false)
    || (!inFlow && (c == '?' || c == ':') && !atWordEnd cs)

/-- Reads the token that begins with `c` when `cs` follows. -/
def token? (c : Char) (cs : List Char) (s : Scanner) : Option Scanner :=
  let startsLine := s.column == 0
  if startsLine && c == '%' then s.directive?
  else if startsLine && beginsWithMark '-' (c :: cs) then s.documentMark? .documentStart
  else if startsLine && beginsWithMark '.' (c :: cs) then s.documentMark? .documentEnd
  else if c == '[' then s.openFlow? .flowSequenceStart
  else if c == '\x7b' then s.openFlow? .flowMappingStart
  else if c == ']' then s.closeFlow? .flowSequenceEnd
  else if c == '\x7d' then s.closeFlow? .flowMappingEnd
  else if c == ',' then s.flowEntry?
  else if c == '-' && atWordEnd cs then s.blockEntry?
  else if c == '?' && (s.inFlow || atWordEnd cs) then s.markedKey?
  else if c == ':' && (s.inFlow || atWordEnd cs) then s.value?
  else if c == '*' then s.name? .alias
  else if c == '&' then s.name? .anchor
  else if c == '!' then s.tag?
  else if c == '|' && !s.inFlow then s.blockScalar? .literal
  else if c == '>' && !s.inFlow then s.blockScalar? .folded
  else if c == '\'' then s.quotedScalar? .singleQuoted
  else if c == '"' then s.quotedScalar? .doubleQuoted
  else if beginsPlain s.inFlow c cs then s.plainScalar?
  else none

/-- Goes on to the next token and ends the blocks that it stands left of. -/
def ready? (s : Scanner) : Option Scanner := do
  let s ← (s.toNextToken (s.rest.length + 1)).withFreshKeys?
  some (s.closeBlocks s.column)

/-- The tokens of a text that is read; its end ends all blocks. -/
def finished? (s : Scanner) : Option (List Token) := do
  let s ← (s.closeBlocks (-1)).withoutKey?
  some s.tokens.reverse

/-- Reads tokens up to the end. -/
def run? : Nat → Scanner → Option (List Token)
  | 0, _ => none
  | fuel + 1, s => do
      let s ← s.ready?
      match s.rest with
      | [] => s.finished?
      | c :: cs => run? fuel (← s.token? c cs)

end Scanner

/-- The tokens of a text, `none` if it is no YAML text. -/
def scan? (text : List Char) : Option (List Token) :=
  if text.all isAllowed then (Scanner.start text).run? (text.length + 1) else none

end HostRouting.Yaml
