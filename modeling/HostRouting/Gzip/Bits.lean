/-
**Streams of bits.**

Compressed data is a stream of bits, of which each octet gives eight, the least significant first.
Numbers stand in it least significant bit first.

Main definitions:

* `Bits`, `Bits.ofBytes` — a stream, and the one of given octets;
* `Bits.number?` — the number at the start of a stream;
* `Bits.aligned`, `Bits.bytes?` — the stream from the next octet on, and octets at its start.
-/

set_option autoImplicit false

namespace HostRouting

/-- A stream of bits. -/
abbrev Bits := List Bool

namespace Bits

/-- The bits of an octet, the least significant first. -/
def ofByte (b : UInt8) : Bits := (List.range 8).map b.toNat.testBit

/-- The bits of octets. -/
def ofBytes (bs : List UInt8) : Bits := bs.flatMap ofByte

/-- The number of given bits, the least significant first. -/
def value : Bits → Nat
  | [] => 0
  | b :: bs => b.toNat + 2 * value bs

/-- The number of `n` bits at the start of a stream, and what follows. -/
def number? (n : Nat) (bits : Bits) : Option (Nat × Bits) :=
  let own := bits.take n
  if own.length < n then none else some (value own, bits.drop n)

/-- A bit and what follows. -/
def bit? : Bits → Option (Bool × Bits)
  | [] => none
  | b :: bs => some (b, bs)

/-- The stream from the next full octet on; streams end where an octet does. -/
def aligned (bits : Bits) : Bits := bits.drop (bits.length % 8)

/-- The octets of `n` times eight bits at the start of a stream, and what follows. -/
def bytes? : Nat → Bits → Option (List UInt8 × Bits)
  | 0, bits => some ([], bits)
  | n + 1, bits => do
      let (b, bits) ← number? 8 bits
      let (bs, bits) ← bytes? n bits
      some (UInt8.ofNat b :: bs, bits)

@[simp] theorem value_nil : value [] = 0 := rfl

end Bits

end HostRouting
