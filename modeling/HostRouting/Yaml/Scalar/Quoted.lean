/-
**Quoted scalars.**

In single quotes a quote is written twice and nothing else is special.  In double quotes a backslash
begins an escape; before a line end it takes that away.  Gaps are folded in both.

Main definitions:

* `Yaml.escape?` — the character of an escape;
* `Yaml.scanQuoted?` — the quoted scalar whose opening quote lies before a cursor.
-/

import HostRouting.Text.Decimal
import HostRouting.Yaml.Scalar.Gap

set_option autoImplicit false

namespace HostRouting.Yaml

/-! ### Escapes -/

/-- The character of an escape with one letter. -/
def simpleEscape? (c : Char) : Option Char :=
  [('0', '\x00'), ('a', '\x07'), ('b', '\x08'), ('t', '\t'), ('\t', '\t'), ('n', '\n'),
    ('v', '\x0B'), ('f', '\x0C'), ('r', '\r'), ('e', '\x1B'), (' ', ' '), ('"', '"'), ('/', '/'),
    ('\\', '\\'), ('N', '\u0085'), ('_', '\u00A0'), ('L', '\u2028'), ('P', '\u2029')].lookup c

/-- The number of hexadecimal digits after the letter of an escape with a code. -/
def codeLength? (c : Char) : Option Nat := [('x', 2), ('u', 4), ('U', 8)].lookup c

/-- The character with a code, if there is one. -/
def charOfCode? (n : Nat) : Option Char :=
  if n < 0xD800 ∨ (0xDFFF < n ∧ n < 0x110000) then some (Char.ofNat n) else none

/-- The character of a code of given digits. -/
def charOfDigits? (digits : List Char) : Option Char :=
  (Text.number? 16 digits).bind charOfCode?

/-- The character of an escape after its backslash, and how many characters the escape has there. -/
def escape? : List Char → Option (Char × Nat)
  | [] => none
  | e :: cs =>
      match simpleEscape? e, codeLength? e with
      | some c, _ => some (c, 1)
      | none, some n =>
          if cs.length < n then none else (charOfDigits? (cs.take n)).map (·, n + 1)
      | none, none => none

/-! ### Scanning -/

/-- The scalar with more text in front of it. -/
def withText (cs : List Char) (r : Option (List Char × Cursor)) : Option (List Char × Cursor) :=
  r.map fun (text, after) => (cs ++ text, after)

/-- The next character of a scalar that is neither a gap nor its closing quote, and how many
characters spell it out after the first. -/
def character? (single : Bool) : List Char → Option (Char × Nat)
  | [] => none
  | c :: cs =>
      if single then some (c, if c == '\'' then 1 else 0)
      else if c == '\\' then escape? cs
      else some (c, 0)

/-- Whether a scalar ends at a text: at its quote, which is not written twice if it is a single
one. -/
def atClosingQuote (single : Bool) : List Char → Bool
  | '\'' :: '\'' :: _ => false
  | c :: _ => c == if single then '\'' else '"'
  | [] => false

/-- Reads on after the gap `g` up to the closing quote; the next `skip` characters have been read
already. -/
def scanQuotedFrom? (single : Bool) (skip : Nat) (g : Gap) (p : Pos) :
    List Char → Option (List Char × Cursor)
  | [] => none
  | c :: cs =>
      match skip with
      | skip + 1 => scanQuotedFrom? single skip g (p.right 1) cs
      | 0 =>
          if c == '\r' && cs.head? == some '\n' then scanQuotedFrom? single 0 g (p.right 1) cs
          else if isBreak c then scanQuotedFrom? single 0 (g.lineEnd c) (p.down 1) cs
          else if isBlank c then scanQuotedFrom? single 0 (g.blank c) (p.right 1) cs
          else if p.column == 0 && beginsWithDocumentMark (c :: cs) then none
          else if atClosingQuote single (c :: cs) then some (g.text, ⟨p.right 1, cs⟩)
          else if !single && c == '\\' && (cs.head?.map isBreak).getD false then
            withText g.text (scanQuotedFrom? single 0 .escaping (p.right 1) cs)
          else
            match character? single (c :: cs) with
            | none => none
            | some (x, more) =>
                withText (g.text ++ [x]) (scanQuotedFrom? single more .none (p.right 1) cs)

/-- The quoted scalar whose opening quote lies before a cursor, and the cursor behind it. -/
def scanQuoted? (single : Bool) (c : Cursor) : Option (List Char × Cursor) :=
  scanQuotedFrom? single 0 .none c.pos c.rest

end HostRouting.Yaml
