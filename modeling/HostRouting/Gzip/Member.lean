/-
**Gzip files.**

A member of a gzip file begins with a head, which says what optional fields it has; compressed data
follow, and at the end a checksum of the data and their length.  What stands behind the first member
of a file is not looked at.

Main definitions:

* `Gzip.checksum` — the cyclic redundancy check of 32 bits;
* `Gzip.isGzip` — whether octets begin like a gzip file;
* `Gzip.member?` — the data of the member at the start of a file, and what follows it; behind its
  head it is read by `Gzip.body?`;
* `Gzip.decode?` — the data of a gzip file.
-/

import HostRouting.Gzip.Inflate

set_option autoImplicit false

namespace HostRouting.Gzip

/-! ### Checksums -/

/-- One step of the check: the remainder moves on by one bit. -/
def shift (r : UInt32) : UInt32 := if r &&& 1 = 1 then (r >>> 1) ^^^ 0xEDB88320 else r >>> 1

/-- `n` steps of the check. -/
def shifts : Nat → UInt32 → UInt32
  | 0, r => r
  | n + 1, r => shifts n (shift r)

/-- The remainder after one more octet. -/
def checksumStep (r : UInt32) (b : UInt8) : UInt32 := shifts 8 (r ^^^ b.toUInt32)

/-- The cyclic redundancy check of octets. -/
def checksum (bs : List UInt8) : UInt32 := bs.foldl checksumStep 0xFFFFFFFF ^^^ 0xFFFFFFFF

/-! ### Heads -/

/-- The greatest number of octets of a text in a head. -/
def maxTextLength : Nat := 65535

/-- Passes a text: the octets up to the next zero, of which there may be `room`, and the zero. -/
def afterText? : Nat → List UInt8 → Option (List UInt8)
  | _, [] => none
  | 0, b :: bs => if b = 0 then some bs else none
  | room + 1, b :: bs => if b = 0 then some bs else afterText? room bs

/-- The number of octets, the least significant first. -/
def number (bs : List UInt8) : Nat := bs.foldr (fun b n => b.toNat + 256 * n) 0

/-- The number of `n` octets at the start, and what follows. -/
def number? (n : Nat) (bs : List UInt8) : Option (Nat × List UInt8) :=
  let own := bs.take n
  if own.length < n then none else some (number own, bs.drop n)

/-- Passes a field if its flag is set. -/
def optionalField (flags : UInt8) (place : Nat) (pass : List UInt8 → Option (List UInt8))
    (bs : List UInt8) : Option (List UInt8) :=
  if flags.toNat.testBit place then pass bs else some bs

/-- Passes the extra field: its length and that many octets. -/
def afterExtra? (bs : List UInt8) : Option (List UInt8) := do
  let (n, bs) ← number? 2 bs
  if bs.length < n then none else some (bs.drop n)

/-- Passes the check of the head, whose octets come first in `file`. -/
def afterHeadCheck? (file bs : List UInt8) : Option (List UInt8) := do
  let head := file.take (file.length - bs.length)
  let (check, bs) ← number? 2 bs
  if (checksum head).toNat % 0x10000 = check then some bs else none

/-- Whether octets begin like a gzip file. -/
def isGzip : List UInt8 → Bool
  | a :: b :: _ => a == 0x1F && b == 0x8B
  | _ => false

/-- The flags of a head that have a meaning. -/
def knownFlags : Nat := 0x20

/-- What follows the head of a gzip file. -/
def afterHead? (file : List UInt8) : Option (List UInt8) :=
  match file with
  | 0x1F :: 0x8B :: 8 :: flags :: _ :: _ :: _ :: _ :: _ :: _ :: bs => do
      guard (flags.toNat < knownFlags)
      let bs ← optionalField flags 2 afterExtra? bs
      let bs ← optionalField flags 3 (afterText? maxTextLength) bs
      let bs ← optionalField flags 4 (afterText? maxTextLength) bs
      optionalField flags 1 (afterHeadCheck? file) bs
  | _ => none

/-! ### Members -/

/-- The data of a member behind its head, and what follows the member. -/
def body? (bits : Bits) : Option (List UInt8 × Bits) := do
  let (data, bits) ← Inflate.inflate? bits
  let (check, bits) ← Bits.number? 32 bits
  let (length, bits) ← Bits.number? 32 bits
  guard (check = (checksum data).toNat && length = data.length % 0x100000000)
  some (data, bits)

/-- The data of the member at the start of a file, and what follows the member. -/
def member? (file : List UInt8) : Option (List UInt8 × Bits) := do
  body? (Bits.ofBytes (← afterHead? file))

/-- The data of a gzip file: those of the member at its start. -/
def decode? (file : List UInt8) : Option (List UInt8) := (member? file).map (·.1)

end HostRouting.Gzip
