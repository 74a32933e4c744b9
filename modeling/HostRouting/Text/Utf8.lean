/-
**UTF-8.**

Octets are read by a machine whose state says how many trailing octets the current character still
owes and between which bounds the next one must lie (the bounds keep out overlong forms, surrogates
and code points above U+10FFFF).  A refused octet ends the current attempt: what was read so far
is a maximal ill-formed subsequence, and the refused octet is tried again as the first of a
character.

Main definitions:

* `Utf8.encode` — the octets of a text;
* `Utf8.decode?` — the text of well-formed octets;
* `Utf8.decodeLossy` — the text of any octets, each maximal ill-formed subsequence read as U+FFFD.
-/

set_option autoImplicit false

namespace HostRouting.Utf8

/-- The octets of a text. -/
def encode (cs : List Char) : List UInt8 := cs.flatMap String.utf8EncodeChar

/-- The octets of a string. -/
def encodeText (s : String) : List UInt8 := encode s.toList

/-- An attempt to read one character: `owed + 1` trailing octets are missing, the next of them lies
in `low … high`, and `bits` is what the octets so far contribute. -/
structure Attempt where
  owed : Nat
  low : Nat
  high : Nat
  bits : Nat
  deriving DecidableEq, Repr

/-- What an octet does at the start of a character. -/
inductive Opening where
  | char (c : Char)
  | attempt (a : Attempt)
  | refused
  deriving Repr

/-- Reads the first octet of a character. -/
def opening (b : UInt8) : Opening :=
  let n := b.toNat
  if n ≤ 0x7F then .char (Char.ofNat n)
  else if n ≤ 0xC1 then .refused
  else if n ≤ 0xDF then .attempt ⟨0, 0x80, 0xBF, n - 0xC0⟩
  else if n = 0xE0 then .attempt ⟨1, 0xA0, 0xBF, 0⟩
  else if n = 0xED then .attempt ⟨1, 0x80, 0x9F, 0xD⟩
  else if n ≤ 0xEF then .attempt ⟨1, 0x80, 0xBF, n - 0xE0⟩
  else if n = 0xF0 then .attempt ⟨2, 0x90, 0xBF, 0⟩
  else if n ≤ 0xF3 then .attempt ⟨2, 0x80, 0xBF, n - 0xF0⟩
  else if n = 0xF4 then .attempt ⟨2, 0x80, 0x8F, 4⟩
  else .refused

/-- Whether an attempt takes `b` as its next octet. -/
def Attempt.takes (a : Attempt) (b : UInt8) : Bool := a.low ≤ b.toNat && b.toNat ≤ a.high

/-- The bits of an attempt that takes `b`: six more. -/
def Attempt.bitsWith (a : Attempt) (b : UInt8) : Nat := a.bits * 64 + (b.toNat - 0x80)

/-- The characters of the octets, `none` standing for a maximal ill-formed subsequence. -/
def scan : Option Attempt → List UInt8 → List (Option Char)
  | none, [] => []
  | some _, [] => [none]
  | none, b :: bs =>
      match opening b with
      | .char c => some c :: scan none bs
      | .attempt a => scan (some a) bs
      | .refused => none :: scan none bs
  | some a, b :: bs =>
      if a.takes b then
        match a.owed with
        | 0 => some (Char.ofNat (a.bitsWith b)) :: scan none bs
        | owed + 1 => scan (some ⟨owed, 0x80, 0xBF, a.bitsWith b⟩) bs
      else
        match opening b with
        | .char c => none :: some c :: scan none bs
        | .attempt a' => none :: scan (some a') bs
        | .refused => none :: none :: scan none bs

/-- The text of well-formed octets, `none` if they are ill-formed. -/
def decode? (bs : List UInt8) : Option (List Char) := (scan none bs).mapM id

/-- The text of any octets, with U+FFFD for each maximal ill-formed subsequence. -/
def decodeLossy (bs : List UInt8) : List Char := (scan none bs).map (·.getD '\uFFFD')

end HostRouting.Utf8
