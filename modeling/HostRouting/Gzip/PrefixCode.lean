/-
**Prefix codes.**

A prefix code gives each symbol a word of bits such that no word begins another.  It is determined
by the lengths of the words: shorter words come first, words of one length follow the order of the
symbols, and each word is the next number after the one before, with zeros appended to its length.

Main definitions:

* `PrefixCode` — a code as a tree;
* `PrefixCode.ofLengths?` — the code with words of given lengths;
* `PrefixCode.read?` — the symbol at the start of a stream.
-/

import HostRouting.Gzip.Bits

set_option autoImplicit false

namespace HostRouting

/-- A prefix code as a tree: a word is a way from the root to a symbol. -/
inductive PrefixCode where
  /-- No word goes this way. -/
  | none
  | symbol (n : Nat)
  | fork (zero one : PrefixCode)
  deriving DecidableEq, Repr

namespace PrefixCode

/-- The code with one more word, given most significant bit first. -/
def insert (s : Nat) : Bits → PrefixCode → PrefixCode
  | [], _ => .symbol s
  | b :: bs, .fork zero one =>
      if b then .fork zero (insert s bs one) else .fork (insert s bs zero) one
  | b :: bs, _ => if b then .fork .none (insert s bs .none) else .fork (insert s bs .none) .none

/-- A number as a word of the given length, most significant bit first. -/
def word (length n : Nat) : Bits := ((List.range length).map n.testBit).reverse

/-- The symbols whose words have the given length, in order. -/
def symbolsOf (lengths : List Nat) (length : Nat) : List Nat :=
  (lengths.zipIdx.filter (·.1 == length)).map (·.2)

/-- Puts in the words of one length after another; `next` is the first free number of the current
length. -/
def build (lengths : List Nat) : List Nat → Nat → PrefixCode → PrefixCode
  | [], _, code => code
  | length :: more, next, code =>
      let symbols := symbolsOf lengths length
      let code := symbols.zipIdx.foldl
        (fun code (s, i) => insert s (word length (next + i)) code) code
      build lengths more ((next + symbols.length) * 2) code

/-- The greatest length of a word. -/
def maxLength : Nat := 15

/-- How much of all words of the greatest length begins with one of the code's words. -/
def coverage (lengths : List Nat) : Nat :=
  (lengths.filter (· != 0)).foldr (fun l n => Nat.pow 2 (maxLength - l) + n) 0

/-- The code with words of given lengths, where 0 means no word.  It has to leave no way open unless
it has one word at most. -/
def ofLengths? (lengths : List Nat) : Option PrefixCode :=
  if (lengths.filter (· != 0)).length ≤ 1 ∨ coverage lengths = Nat.pow 2 maxLength then
    some (build lengths ((List.range maxLength).map (· + 1)) 0 .none)
  else Option.none

/-- The symbol at the start of a stream, and what follows. -/
def read? : PrefixCode → Bits → Option (Nat × Bits)
  | .symbol n, bits => some (n, bits)
  | .fork zero one, b :: bits => if b then one.read? bits else zero.read? bits
  | .fork _ _, [] | .none, _ => Option.none

end PrefixCode

end HostRouting
