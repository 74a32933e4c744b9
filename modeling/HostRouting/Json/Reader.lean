/-
**Reading JSON.**

The reader follows the grammar of JSON and nothing more: one value with blanks around it, no
comma before a closing bracket, no leading zeros, no raw control characters in texts.  Escapes give
code units, which are put together to characters once a text is complete.

Main definitions:

* `Json.Piece` — a character or an escaped code unit of a text, with `Json.ofPieces`;
* `Json.read` — a value at the start of a text, and what follows it;
* `Json.parse` — the document of a text.
-/

import HostRouting.Json.Basic
import HostRouting.Text.Decimal

set_option autoImplicit false

namespace HostRouting.Json

/-! ### Texts -/

/-- What stands in a text: a character, or a code unit of UTF-16 given by an escape. -/
inductive Piece where
  | char (c : Char)
  | code (n : Nat)
  deriving DecidableEq, Repr

/-- Whether a code unit is the first half of a surrogate pair. -/
def isHighHalf (n : Nat) : Bool := 0xD800 ≤ n && n ≤ 0xDBFF

/-- Whether a code unit is the second half of a surrogate pair. -/
def isLowHalf (n : Nat) : Bool := 0xDC00 ≤ n && n ≤ 0xDFFF

/-- The characters of units: the halves of surrogate pairs are put together, and there are none if
a half stands alone. -/
def ofPieces : List Piece → Option (List Char)
  | [] => some []
  | .char c :: us => (ofPieces us).map (c :: ·)
  | .code m :: us =>
      if isLowHalf m then none
      else if isHighHalf m then
        match us with
        | .code n :: us =>
            if isLowHalf n then
              (ofPieces us).map (Char.ofNat (0x10000 + (m - 0xD800) * 0x400 + (n - 0xDC00)) :: ·)
            else none
        | _ => none
      else (ofPieces us).map (Char.ofNat m :: ·)

/-- The character of an escape with one letter. -/
def escape? : Char → Option Char
  | '"' => some '"'
  | '\\' => some '\\'
  | '/' => some '/'
  | 'b' => some '\x08'
  | 'f' => some '\x0C'
  | 'n' => some '\n'
  | 'r' => some '\r'
  | 't' => some '\t'
  | _ => none

/-- The units of a text up to its closing quote, and what follows. -/
def units : List Char → Option (List Piece × List Char)
  | [] => none
  | '"' :: rest => some ([], rest)
  | '\\' :: 'u' :: a :: b :: c :: d :: rest => do
      let n ← Text.number? 16 [a, b, c, d]
      let (us, rest) ← units rest
      some (.code n :: us, rest)
  | '\\' :: e :: rest => do
      let c ← escape? e
      let (us, rest) ← units rest
      some (.char c :: us, rest)
  | c :: rest =>
      if c = '\\' ∨ c.toNat < 0x20 then none
      else do
        let (us, rest) ← units rest
        some (.char c :: us, rest)

/-- A text after its opening quote, and what follows. -/
def readText (cs : List Char) : Option (Option String × List Char) :=
  (units cs).map fun (us, rest) => ((ofPieces us).map String.ofList, rest)

/-! ### Numbers -/

/-- Digits and what follows them; there has to be at least one. -/
def digits (cs : List Char) : Option (List Char × List Char) :=
  let ds := cs.takeWhile (Text.isDigit 10)
  if ds.isEmpty then none else some (ds, cs.dropWhile (Text.isDigit 10))

/-- The digits in front of the point: none follows a zero. -/
def wholeDigits : List Char → Option (List Char × List Char)
  | '0' :: rest => some (['0'], rest)
  | cs => digits cs

/-- The digits behind the point, none without a point. -/
def fractionDigits : List Char → Option (List Char × List Char)
  | '.' :: rest => digits rest
  | cs => some ([], cs)

/-- The number that digits stand for. -/
def digitsValue (ds : List Char) : Nat := (Text.number? 10 ds).getD 0

/-- An exponent after its mark. -/
def exponentAfterMark : List Char → Option (Int × List Char)
  | '+' :: rest => (digits rest).map fun (ds, rest) => ((digitsValue ds : Int), rest)
  | '-' :: rest => (digits rest).map fun (ds, rest) => (-(digitsValue ds : Int), rest)
  | cs => (digits cs).map fun (ds, rest) => ((digitsValue ds : Int), rest)

/-- An exponent, `none` in the answer without a mark. -/
def exponent : List Char → Option (Option Int × List Char)
  | 'e' :: rest | 'E' :: rest => (exponentAfterMark rest).map fun (n, rest) => (some n, rest)
  | cs => some (none, cs)

/-- The number made of its parts. -/
def numeral (negative : Bool) (whole fraction : List Char) (exponent : Option Int) : Numeral :=
  let significand := digitsValue (whole ++ fraction)
  if fraction.isEmpty ∧ exponent = none ∧ ¬(negative = true ∧ significand = 0) then
    .integer (if negative then -significand else significand)
  else .decimal negative significand (exponent.getD 0 - fraction.length)

/-- A number after its sign, and what follows. -/
def readUnsigned (negative : Bool) (cs : List Char) : Option (Numeral × List Char) := do
  let (whole, cs) ← wholeDigits cs
  let (fraction, cs) ← fractionDigits cs
  let (e, cs) ← exponent cs
  some (numeral negative whole fraction e, cs)

/-- A number and what follows. -/
def readNumber : List Char → Option (Numeral × List Char)
  | '-' :: cs => readUnsigned true cs
  | cs => readUnsigned false cs

/-! ### Values -/

/-- Whether `c` may stand between the parts of a document. -/
def isGap (c : Char) : Bool := c == ' ' || c == '\n' || c == '\t' || c == '\r'

/-- What follows the gap at the start of a text. -/
def skipGap (cs : List Char) : List Char := cs.dropWhile isGap

/-- What follows the gap and the colon behind a key. -/
def skipColon (cs : List Char) : Option (List Char) :=
  match skipGap cs with
  | ':' :: rest => some (skipGap rest)
  | _ => none

/-- What follows a word. -/
def afterWord (word : String) (cs : List Char) : Option (List Char) :=
  if word.toList.isPrefixOf cs then some (cs.drop word.length) else none

mutual

/-- A value at the start of a text, and what follows; `fuel` bounds the number of values begun. -/
def read (fuel : Nat) (cs : List Char) : Option (Json × List Char) :=
  match fuel with
  | 0 => none
  | fuel + 1 =>
      match cs with
      | 'n' :: _ => (afterWord "null" cs).map (.null, ·)
      | 't' :: _ => (afterWord "true" cs).map (.bool true, ·)
      | 'f' :: _ => (afterWord "false" cs).map (.bool false, ·)
      | '"' :: rest => (readText rest).map fun (s, rest) => (.string s, rest)
      | '[' :: rest =>
          match skipGap rest with
          | ']' :: rest => some (.array [], rest)
          | rest => (readItems fuel rest).map fun (js, rest) => (.array js, rest)
      | '\x7b' :: rest =>
          match skipGap rest with
          | '\x7d' :: rest => some (.object [], rest)
          | rest => (readMembers fuel rest).map fun (ms, rest) => (.object ms, rest)
      | _ => (readNumber cs).map fun (n, rest) => (.number n, rest)

/-- The items of an array up to its closing bracket, and what follows. -/
def readItems (fuel : Nat) (cs : List Char) : Option (List Json × List Char) :=
  match fuel with
  | 0 => none
  | fuel + 1 => do
      let (j, rest) ← read fuel cs
      match skipGap rest with
      | ']' :: rest => some ([j], rest)
      | ',' :: rest =>
          let (js, rest) ← readItems fuel (skipGap rest)
          some (j :: js, rest)
      | _ => none

/-- The members of an object up to its closing brace, and what follows. -/
def readMembers (fuel : Nat) (cs : List Char) :
    Option (List (Option String × Json) × List Char) :=
  match fuel with
  | 0 => none
  | fuel + 1 =>
      match cs with
      | '"' :: rest => do
          let (key, rest) ← readText rest
          let (j, rest) ← read fuel (← skipColon rest)
          match skipGap rest with
          | '\x7d' :: rest => some ([(key, j)], rest)
          | ',' :: rest =>
              let (ms, rest) ← readMembers fuel (skipGap rest)
              some ((key, j) :: ms, rest)
          | _ => none
      | _ => none

end

/-- The document of a text: one value with gaps around it. -/
def parseChars (cs : List Char) : Option Json :=
  match read (2 * cs.length + 1) (skipGap cs) with
  | some (j, rest) => if (skipGap rest).isEmpty then some j else none
  | none => none

/-- The document of a text. -/
def parse (s : String) : Option Json := parseChars s.toList

end HostRouting.Json
