/-
**Compressed data.**

Compressed data is a series of blocks.  A block holds octets as they are, or symbols of two prefix
codes, which are fixed or written at the start of the block.  A symbol stands for an octet, for the
end of the block, or for a piece of what was written before, by its length and its distance.

Main definitions:

* `Inflate.Codes` — the two codes of a block, with `Inflate.fixedCodes?` and `Inflate.readCodes?`;
* `Inflate.readSymbols?`, `Inflate.readBlocks?` — what a block and a series of blocks stand for;
* `Inflate.inflate?` — the data at the start of a stream, and what follows.
-/

import HostRouting.Gzip.PrefixCode

set_option autoImplicit false

namespace HostRouting.Inflate

/-! ### Lengths and distances -/

/-- For each length symbol from 257 on, the least length and the number of extra bits. -/
def lengthBases : List (Nat × Nat) := [
  (3, 0), (4, 0), (5, 0), (6, 0), (7, 0), (8, 0), (9, 0), (10, 0), (11, 1), (13, 1), (15, 1),
  (17, 1), (19, 2), (23, 2), (27, 2), (31, 2), (35, 3), (43, 3), (51, 3), (59, 3), (67, 4), (83, 4),
  (99, 4), (115, 4), (131, 5), (163, 5), (195, 5), (227, 5), (258, 0)]

/-- For each distance symbol, the least distance and the number of extra bits. -/
def distanceBases : List (Nat × Nat) := [
  (1, 0), (2, 0), (3, 0), (4, 0), (5, 1), (7, 1), (9, 2), (13, 2), (17, 3), (25, 3), (33, 4),
  (49, 4), (65, 5), (97, 5), (129, 6), (193, 6), (257, 7), (385, 7), (513, 8), (769, 8), (1025, 9),
  (1537, 9), (2049, 10), (3073, 10), (4097, 11), (6145, 11), (8193, 12), (12289, 12), (16385, 13),
  (24577, 13)]

/-- A base with its extra bits, from the table and the place in it. -/
def readExtended? (bases : List (Nat × Nat)) (place : Nat) (bits : Bits) : Option (Nat × Bits) := do
  let (base, extra) ← bases[place]?
  let (n, bits) ← Bits.number? extra bits
  some (base + n, bits)

/-! ### Codes -/

/-- The code of octets, lengths and the end of the block, and the code of distances. -/
structure Codes where
  symbols : PrefixCode
  distances : PrefixCode

/-- The fixed codes. -/
def fixedCodes? : Option Codes := do
  let symbols ← PrefixCode.ofLengths?
    (List.replicate 144 8 ++ List.replicate 112 9 ++ List.replicate 24 7 ++ List.replicate 8 8)
  let distances ← PrefixCode.ofLengths? (List.replicate 32 5)
  some ⟨symbols, distances⟩

/-- The order in which the lengths of the code for lengths are written. -/
def lengthOrder : List Nat := [16, 17, 18, 0, 8, 7, 9, 6, 10, 5, 11, 4, 12, 3, 13, 2, 14, 1, 15]

/-- The first `n` lengths of the code for lengths, each with its place. -/
def readCodeLengths? : List Nat → Bits → Option (List (Nat × Nat) × Bits)
  | [], bits => some ([], bits)
  | place :: places, bits => do
      let (l, bits) ← Bits.number? 3 bits
      let (ls, bits) ← readCodeLengths? places bits
      some ((place, l) :: ls, bits)

/-- The code in which the lengths of the other codes are written. -/
def readLengthCode? (n : Nat) (bits : Bits) : Option (PrefixCode × Bits) := do
  let (ls, bits) ← readCodeLengths? (lengthOrder.take n) bits
  let code ← PrefixCode.ofLengths? ((List.range 19).map fun s => (ls.lookup s).getD 0)
  some (code, bits)

/-- Lengths until there are `count`; `ls` holds those so far in reverse.  Three symbols repeat: the
last length, or 0. -/
def readLengths? (code : PrefixCode) (count : Nat) :
    Nat → List Nat → Bits → Option (List Nat × Bits)
  | 0, _, _ => none
  | fuel + 1, ls, bits =>
      if count < ls.length then none
      else if ls.length = count then some (ls.reverse, bits)
      else do
        let (s, bits) ← code.read? bits
        if s < 16 then readLengths? code count fuel (s :: ls) bits
        else if s = 16 then
          let last ← ls.head?
          let (n, bits) ← Bits.number? 2 bits
          readLengths? code count fuel (List.replicate (n + 3) last ++ ls) bits
        else if s = 17 then
          let (n, bits) ← Bits.number? 3 bits
          readLengths? code count fuel (List.replicate (n + 3) 0 ++ ls) bits
        else
          let (n, bits) ← Bits.number? 7 bits
          readLengths? code count fuel (List.replicate (n + 11) 0 ++ ls) bits

/-- How many symbols a code of octets and lengths may have at the start of a block; the fixed code has
two more, which stand for nothing. -/
def maxSymbols : Nat := 286

/-- How many symbols a code of distances may have there; the fixed one has two more, too. -/
def maxDistances : Nat := 30

/-- The codes at the start of a block. -/
def readCodes? (bits : Bits) : Option (Codes × Bits) := do
  let (moreSymbols, bits) ← Bits.number? 5 bits
  let (moreDistances, bits) ← Bits.number? 5 bits
  let (moreLengths, bits) ← Bits.number? 4 bits
  let symbolCount := moreSymbols + 257
  let distanceCount := moreDistances + 1
  guard (symbolCount ≤ maxSymbols && distanceCount ≤ maxDistances)
  let (code, bits) ← readLengthCode? (moreLengths + 4) bits
  let count := symbolCount + distanceCount
  let (ls, bits) ← readLengths? code count (count + 1) [] bits
  let symbols ← PrefixCode.ofLengths? (ls.take symbolCount)
  let distances ← PrefixCode.ofLengths? (ls.drop symbolCount)
  some (⟨symbols, distances⟩, bits)

/-! ### Blocks -/

/-- Appends `length` octets, each a copy of the one `distance` before it. -/
def copy (distance : Nat) : Nat → Array UInt8 → Array UInt8
  | 0, out => out
  | length + 1, out => copy distance length (out.push (out.getD (out.size - distance) 0))

/-- The symbol that ends a block. -/
def endOfBlock : Nat := 256

/-- Appends what the symbols of a block stand for. -/
def readSymbols? (codes : Codes) : Nat → Array UInt8 → Bits → Option (Array UInt8 × Bits)
  | 0, _, _ => none
  | fuel + 1, out, bits => do
      let (s, bits) ← codes.symbols.read? bits
      if s < endOfBlock then readSymbols? codes fuel (out.push (UInt8.ofNat s)) bits
      else if s = endOfBlock then some (out, bits)
      else
        let (length, bits) ← readExtended? lengthBases (s - 257) bits
        let (place, bits) ← codes.distances.read? bits
        let (distance, bits) ← readExtended? distanceBases place bits
        if out.size < distance then none
        else readSymbols? codes fuel (copy distance length out) bits

/-- Appends the octets of a block that holds them as they are; their number is written twice, the
second time with every bit changed. -/
def readStored? (out : Array UInt8) (bits : Bits) : Option (Array UInt8 × Bits) := do
  let (length, bits) ← Bits.number? 16 bits.aligned
  let (check, bits) ← Bits.number? 16 bits
  guard (length + check = 0xFFFF)
  let (bytes, bits) ← Bits.bytes? length bits
  some (out ++ bytes.toArray, bits)

/-- Appends what a block of a given type stands for. -/
def readBlock? (type : Nat) (out : Array UInt8) (bits : Bits) : Option (Array UInt8 × Bits) :=
  match type with
  | 0 => readStored? out bits
  | 1 => do readSymbols? (← fixedCodes?) (bits.length + 1) out bits
  | 2 => do
      let (codes, bits) ← readCodes? bits
      readSymbols? codes (bits.length + 1) out bits
  | _ => none

/-- Appends what blocks stand for, up to the one marked as the last. -/
def readBlocks? : Nat → Array UInt8 → Bits → Option (Array UInt8 × Bits)
  | 0, _, _ => none
  | fuel + 1, out, bits => do
      let (isLast, bits) ← Bits.bit? bits
      let (type, bits) ← Bits.number? 2 bits
      let (out, bits) ← readBlock? type out bits
      if isLast then some (out, bits) else readBlocks? fuel out bits

/-- The data at the start of a stream, and what follows from the next octet on. -/
def inflate? (bits : Bits) : Option (List UInt8 × Bits) :=
  (readBlocks? (bits.length + 1) #[] bits).map fun (out, bits) => (out.toList, bits.aligned)

end HostRouting.Inflate
