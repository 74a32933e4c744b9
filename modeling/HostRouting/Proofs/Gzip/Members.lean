/-
**Members of gzip files.**

A gzip file is a series of members.  A member says where it ends, so its data can be read whatever
stands behind it, and each member of a series could be read in turn.

Main definitions:

* `Gzip.IsMember` — octets that are one member with given data;
* `Gzip.stored` — a member that holds its data as they are, from `Gzip.storedBlock` and
  `Gzip.trailer`.

Main results:

* `Gzip.member?_append` — **a member is read alike, whatever stands behind it**;
* `Gzip.decode?_append` — of a series of members the first one is read;
* `Gzip.isMember_stored` — data of one block are the data of some member.
-/

import HostRouting.Gzip.Member
import HostRouting.Proofs.Gzip.Reading

set_option autoImplicit false

namespace HostRouting

namespace Gzip

/-! ### Heads -/

section

variable (more : List UInt8) {bs rest : List UInt8}

theorem afterText?_append {room : Nat} (h : afterText? room bs = some rest) :
    afterText? room (bs ++ more) = some (rest ++ more) := by
  fun_induction afterText? room bs with
  | case1 => cases h
  | case2 bs => rw [List.cons_append, afterText?, if_pos rfl, Option.some.inj h]
  | case3 => cases h
  | case4 room bs => rw [List.cons_append, afterText?, if_pos rfl, Option.some.inj h]
  | case5 room b bs hb ih =>
      rw [List.cons_append, afterText?, if_neg hb]
      exact ih h

theorem number?_append {n k : Nat} (h : number? n bs = some (k, rest)) :
    number? n (bs ++ more) = some (k, rest ++ more) := by
  have heq (bs : List UInt8) : number? n bs
      = if (bs.take n).length < n then none else some (number (bs.take n), bs.drop n) := rfl
  rw [heq] at h
  split at h
  · cases h
  · next hlong =>
      have hle : n ≤ bs.length := by
        rw [List.length_take] at hlong
        omega
      obtain ⟨rfl, rfl⟩ := Prod.mk.inj (Option.some.inj h)
      rw [heq, List.take_append_of_le_length hle, if_neg hlong, List.drop_append_of_le_length hle]

theorem afterExtra?_append (h : afterExtra? bs = some rest) :
    afterExtra? (bs ++ more) = some (rest ++ more) := by
  obtain ⟨⟨n, left⟩, hn, h⟩ := Option.bind_eq_some_iff.1 h
  refine Option.bind_eq_some_iff.2 ⟨_, number?_append more hn, ?_⟩
  simp only at h ⊢
  split at h
  · cases h
  · next hlong =>
      have hle : n ≤ left.length := Nat.le_of_not_lt hlong
      rw [if_neg (by rw [List.length_append]; omega), List.drop_append_of_le_length hle,
        Option.some.inj h]

/-- The check of a head covers the head only. -/
theorem afterHeadCheck?_append {file : List UInt8} (h : afterHeadCheck? file bs = some rest) :
    afterHeadCheck? (file ++ more) (bs ++ more) = some (rest ++ more) := by
  have hlength : (file ++ more).length - (bs ++ more).length = file.length - bs.length := by
    rw [List.length_append, List.length_append]
    omega
  have hhead : (file ++ more).take (file.length - bs.length)
      = file.take (file.length - bs.length) :=
    List.take_append_of_le_length (Nat.sub_le _ _)
  obtain ⟨⟨check, left⟩, hcheck, h⟩ := Option.bind_eq_some_iff.1 h
  refine Option.bind_eq_some_iff.2 ⟨_, number?_append more hcheck, ?_⟩
  simp only [hlength, hhead] at h ⊢
  split at h
  · next heq =>
      rw [if_pos heq, Option.some.inj h]
  · cases h

/-- A field that is there or not. -/
theorem optionalField_append {flags : UInt8} {place : Nat}
    {pass pass' : List UInt8 → Option (List UInt8)}
    (hpass : ∀ {bs rest}, pass bs = some rest → pass' (bs ++ more) = some (rest ++ more))
    (h : optionalField flags place pass bs = some rest) :
    optionalField flags place pass' (bs ++ more) = some (rest ++ more) := by
  rw [optionalField] at h ⊢
  split at h
  · next hset =>
      rw [if_pos hset]
      exact hpass h
  · next hset =>
      rw [if_neg hset, Option.some.inj h]

theorem afterHead?_append {file : List UInt8} (h : afterHead? file = some rest) :
    afterHead? (file ++ more) = some (rest ++ more) := by
  unfold afterHead? at h
  split at h
  · next flags _ _ _ _ _ _ bs =>
      obtain ⟨_, hflags, h⟩ := Option.bind_eq_some_iff.1 h
      obtain ⟨bs₁, h₁, h⟩ := Option.bind_eq_some_iff.1 h
      obtain ⟨bs₂, h₂, h⟩ := Option.bind_eq_some_iff.1 h
      obtain ⟨bs₃, h₃, h⟩ := Option.bind_eq_some_iff.1 h
      have hextra := optionalField_append more (afterExtra?_append more) h₁
      have hname := optionalField_append more (afterText?_append more) h₂
      have hcomment := optionalField_append more (afterText?_append more) h₃
      have hcheck := optionalField_append more (afterHeadCheck?_append more) h
      refine Option.bind_eq_some_iff.2 ⟨_, hflags, ?_⟩
      refine Option.bind_eq_some_iff.2 ⟨_, hextra, ?_⟩
      refine Option.bind_eq_some_iff.2 ⟨_, hname, ?_⟩
      exact Option.bind_eq_some_iff.2 ⟨_, hcomment, hcheck⟩
  · cases h

end

/-! ### Members -/

theorem isLocal_body? : Bits.IsLocal body? := by
  refine Inflate.isLocal_inflate?.bind fun data => (Bits.isLocal_number? 32).bind fun check => ?_
  exact (Bits.isLocal_number? 32).bind fun length => .given fun _ => .done data

/-- **A member is read alike, whatever stands behind it.** -/
theorem member?_append {file data : List UInt8} {rest : Bits}
    (h : member? file = some (data, rest)) (more : List UInt8) :
    member? (file ++ more) = some (data, rest ++ Bits.ofBytes more) := by
  obtain ⟨bs, hbs, h⟩ := Option.bind_eq_some_iff.1 h
  refine Option.bind_eq_some_iff.2 ⟨_, afterHead?_append more hbs, ?_⟩
  rw [Bits.ofBytes_append]
  exact isLocal_body?.append h more

/-- Whether octets are one member, with nothing behind it, and hold the given data. -/
def IsMember (file data : List UInt8) : Prop := member? file = some (data, [])

/-- Of a member with anything behind it, the data of that member are read. -/
theorem decode?_append {file data : List UInt8} (h : IsMember file data) (more : List UInt8) :
    decode? (file ++ more) = some data := by
  rw [decode?, member?_append h more]
  rfl

/-- A member begins like a gzip file. -/
theorem isGzip_append {file data : List UInt8} (h : IsMember file data) (more : List UInt8) :
    isGzip (file ++ more) = true := by
  obtain ⟨bs, hbs, -⟩ := Option.bind_eq_some_iff.1 h
  unfold afterHead? at hbs
  split at hbs
  · rfl
  · cases hbs

/-! ### Stored data -/

/-- A number in `n` octets, the least significant first. -/
def octets : Nat → Nat → List UInt8
  | 0, _ => []
  | n + 1, k => UInt8.ofNat k :: octets n (k / 256)

/-- A block that holds data as they are and is the last, and what stands behind it. -/
def storedBlock (data more : List UInt8) : List UInt8 :=
  1 :: (octets 2 data.length ++ (octets 2 (0xFFFF - data.length) ++ (data ++ more)))

/-- The checksum and the length of data. -/
def trailer (data : List UInt8) : List UInt8 :=
  octets 4 (checksum data).toNat ++ octets 4 data.length

/-- A member that holds its data as they are, in one block. -/
def stored (data : List UInt8) : List UInt8 :=
  [0x1F, 0x8B, 8, 0, 0, 0, 0, 0, 0, 0xFF] ++ storedBlock data (trailer data)

end Gzip

namespace Bits

theorem ofBytes_singleton (b : UInt8) : ofBytes [b] = ofByte b :=
  List.flatMap_singleton ofByte b

theorem value_ofByte (b : UInt8) : value (ofByte b) = b.toNat := by
  have hbyte : ∀ n < 256, value ((List.range 8).map n.testBit) = n := by decide +kernel
  exact hbyte _ b.toNat_lt

theorem value_ofByte_append (b : UInt8) (bits : Bits) :
    value (ofByte b ++ bits) = b.toNat + 256 * value bits := by
  obtain ⟨b₀, b₁, b₂, b₃, b₄, b₅, b₆, b₇, hb⟩ :
      ∃ b₀ b₁ b₂ b₃ b₄ b₅ b₆ b₇, ofByte b = [b₀, b₁, b₂, b₃, b₄, b₅, b₆, b₇] :=
    ⟨_, _, _, _, _, _, _, _, rfl⟩
  rw [← value_ofByte, hb]
  simp only [List.cons_append, List.nil_append, value]
  omega

/-- Whole octets at the start of a stream are read as a number. -/
theorem number?_ofBytes (bs : List UInt8) (bits : Bits) :
    number? (8 * bs.length) (ofBytes bs ++ bits) = some (value (ofBytes bs), bits) := by
  have hlength : (ofBytes bs).length = 8 * bs.length := length_ofBytes bs
  rw [number?_eq, List.take_left' hlength, List.drop_left' hlength, if_neg]
  rw [List.length_append]
  omega

theorem bytes?_ofBytes (bs : List UInt8) (bits : Bits) :
    bytes? bs.length (ofBytes bs ++ bits) = some (bs, bits) := by
  induction bs with
  | nil => rfl
  | cons b bs ih =>
      have hb : number? 8 (ofByte b ++ (ofBytes bs ++ bits))
          = some (b.toNat, ofBytes bs ++ bits) := by
        have hread := number?_ofBytes [b] (ofBytes bs ++ bits)
        rwa [ofBytes_singleton, value_ofByte] at hread
      rw [List.length_cons, bytes?, ofBytes_cons, List.append_assoc, hb]
      simp only [Option.bind_eq_bind, Option.bind_some, ih, UInt8.ofNat_toNat]

theorem length_octets (n k : Nat) : (Gzip.octets n k).length = n := by
  induction n generalizing k with
  | zero => rfl
  | succ n ih => rw [Gzip.octets, List.length_cons, ih]

theorem value_octets {n k : Nat} (h : k < Nat.pow 256 n) :
    value (ofBytes (Gzip.octets n k)) = k := by
  induction n generalizing k with
  | zero => exact (Nat.lt_one_iff.1 h).symm
  | succ n ih =>
      have hrest : k / 256 < Nat.pow 256 n := Nat.div_lt_of_lt_mul ((Nat.mul_comm _ _).symm ▸ h)
      rw [Gzip.octets, ofBytes_cons, value_ofByte_append, UInt8.toNat_ofNat', ih hrest]
      exact Nat.mod_add_div k 256

/-- A number that is written in enough octets is read back. -/
theorem number?_octets {n k : Nat} (h : k < Nat.pow 256 n) (bits : Bits) :
    number? (8 * n) (ofBytes (Gzip.octets n k) ++ bits) = some (k, bits) := by
  have hread := number?_ofBytes (Gzip.octets n k) bits
  rwa [length_octets, value_octets h] at hread

/-- A stream of full octets is not cut. -/
theorem aligned_ofBytes (bs : List UInt8) : aligned (ofBytes bs) = ofBytes bs :=
  aligned_append [] bs

/-- What is left of an octet before full ones is cut off. -/
theorem aligned_append_ofBytes {bits : Bits} (h : bits.length < 8) (bs : List UInt8) :
    aligned (bits ++ ofBytes bs) = ofBytes bs := by
  have hself : bits.aligned = [] := by
    rw [aligned, Nat.mod_eq_of_lt h, List.drop_length]
  rw [aligned_append, hself, List.nil_append]

end Bits

namespace Inflate

open Bits

/-- A stored block is read as its data. -/
theorem readStored?_ofBytes {data : List UInt8} (h : data.length ≤ 0xFFFF) {bits : Bits}
    (hbits : bits.length < 8) (more : List UInt8) :
    readStored? #[] (bits ++ ofBytes (Gzip.octets 2 data.length
      ++ (Gzip.octets 2 (0xFFFF - data.length) ++ (data ++ more))))
      = some (data.toArray, ofBytes more) := by
  have hlength (bits : Bits) : number? 16 (ofBytes (Gzip.octets 2 data.length) ++ bits)
      = some (data.length, bits) := number?_octets (n := 2) (Nat.lt_succ_of_le h) bits
  have hcheck (bits : Bits) : number? 16 (ofBytes (Gzip.octets 2 (0xFFFF - data.length)) ++ bits)
      = some (0xFFFF - data.length, bits) :=
    number?_octets (n := 2) (Nat.lt_succ_of_le (Nat.sub_le _ _)) bits
  have hguard : guard (data.length + (0xFFFF - data.length) = 0xFFFF) = some () :=
    if_pos (Nat.add_sub_cancel' h)
  rw [readStored?, aligned_append_ofBytes hbits, ofBytes_append, ofBytes_append, ofBytes_append]
  refine Option.bind_eq_some_iff.2 ⟨_, hlength _, ?_⟩
  refine Option.bind_eq_some_iff.2 ⟨_, hcheck _, ?_⟩
  refine Option.bind_eq_some_iff.2 ⟨_, hguard, ?_⟩
  refine Option.bind_eq_some_iff.2 ⟨_, bytes?_ofBytes data _, ?_⟩
  simp only [Array.empty_append]

/-- Data in one stored block, which is the last. -/
theorem inflate?_stored {data : List UInt8} (h : data.length ≤ 0xFFFF) (more : List UInt8) :
    inflate? (ofBytes (Gzip.storedBlock data more)) = some (data, ofBytes more) := by
  have hone : ofByte 1 = true :: false :: false :: List.replicate 5 false := rfl
  have htype (bits : Bits) : number? 2 (false :: false :: bits) = some (0, bits) := rfl
  have hblocks (fuel : Nat) (bits : Bits) :
      readBlocks? (fuel + 1) #[] (true :: false :: false :: bits) = readStored? #[] bits := by
    rw [readBlocks?, bit?, Option.bind_eq_bind, Option.bind_some]
    simp only
    rw [htype]
    simp only [Option.bind_eq_bind, Option.bind_some, readBlock?, if_pos]
    exact Option.bind_fun_some _
  rw [Gzip.storedBlock, ofBytes_cons, hone, inflate?]
  simp only [List.cons_append]
  rw [hblocks, readStored?_ofBytes h (by decide) more, Option.map_some, aligned_ofBytes]

end Inflate

namespace Gzip

/-- What stands behind the head of a member that holds its data as they are. -/
theorem body?_stored {data : List UInt8} (h : data.length ≤ 0xFFFF) :
    body? (Bits.ofBytes (storedBlock data (trailer data))) = some (data, []) := by
  have hcheck (bits : Bits) :
      Bits.number? 32 (Bits.ofBytes (octets 4 (checksum data).toNat) ++ bits)
        = some ((checksum data).toNat, bits) :=
    Bits.number?_octets (n := 4) (checksum data).toNat_lt bits
  have hshort : data.length < 0x100000000 := by omega
  have hlength : Bits.number? 32 (Bits.ofBytes (octets 4 data.length))
      = some (data.length, []) := by
    have hread := Bits.number?_octets (n := 4) hshort []
    rwa [List.append_nil] at hread
  have hguard : guard ((checksum data).toNat = (checksum data).toNat
      && data.length = data.length % 0x100000000) = some () := by
    refine if_pos (Bool.and_eq_true_iff.2 ⟨decide_eq_true rfl, decide_eq_true ?_⟩)
    exact (Nat.mod_eq_of_lt hshort).symm
  refine Option.bind_eq_some_iff.2 ⟨_, Inflate.inflate?_stored h _, ?_⟩
  rw [trailer, Bits.ofBytes_append]
  refine Option.bind_eq_some_iff.2 ⟨_, hcheck _, ?_⟩
  refine Option.bind_eq_some_iff.2 ⟨_, hlength, ?_⟩
  exact Option.bind_eq_some_iff.2 ⟨_, hguard, rfl⟩

/-- **Data of at most one block are the data of some member.** -/
theorem isMember_stored {data : List UInt8} (h : data.length ≤ 0xFFFF) :
    IsMember (stored data) data := by
  have hhead : afterHead? (stored data) = some (storedBlock data (trailer data)) := rfl
  rw [IsMember, member?, hhead]
  exact body?_stored h

end Gzip

end HostRouting
