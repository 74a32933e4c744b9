/-
**Compressed data with something behind it.**

Compressed data says where it ends, and nothing of what stands behind it is looked at.  That is so
because it is so of every step: whatever octets are put behind a stream, the step reads the same and
leaves them behind what it left before.  Steps are put together from other steps, and this keeps the
property.  Two steps begin or end at the next full octet, which is why whole octets are put behind;
and two are bounded by the length of the stream, so that a longer stream also raises their bound.

Main definitions:

* `Bits.Extends` — whether a reader reads what another does, with anything behind it;
* `Bits.IsLocal` — whether a reader takes no notice of what is behind.

Main results:

* `Bits.Extends.bind`, `Bits.Extends.given`, `Bits.Extends.ite` — readers put together from others;
* `Bits.Extends.isLocal_bounded` — readers that the stream itself sets a bound;
* `Inflate.isLocal_readBlock?` — a block of any type;
* `Inflate.isLocal_inflate?` — **compressed data is read alike, whatever stands behind it**.
-/

import HostRouting.Gzip.Inflate

set_option autoImplicit false

namespace HostRouting

/-! ### Readers that do not look further -/

namespace Bits

/-- Whether `wider` reads what `read` does, also with octets put behind it, which it leaves. -/
structure Extends {α : Type} (read wider : Bits → Option (α × Bits)) : Prop where
  append : ∀ {bits : Bits} {a : α} {rest : Bits}, read bits = some (a, rest) →
    ∀ more : List UInt8, wider (bits ++ ofBytes more) = some (a, rest ++ ofBytes more)

/-- Whether a reader takes no notice of octets behind what it reads. -/
abbrev IsLocal {α : Type} (read : Bits → Option (α × Bits)) : Prop := Extends read read

theorem ofBytes_cons (b : UInt8) (bs : List UInt8) :
    ofBytes (b :: bs) = ofByte b ++ ofBytes bs :=
  List.flatMap_cons

theorem ofBytes_append (bs more : List UInt8) :
    ofBytes (bs ++ more) = ofBytes bs ++ ofBytes more :=
  List.flatMap_append

theorem length_ofBytes (more : List UInt8) : (ofBytes more).length = 8 * more.length := by
  induction more with
  | nil => rfl
  | cons b more ih =>
      rw [ofBytes_cons, List.length_append, ih, ofByte, List.length_map, List.length_range,
        List.length_cons]
      omega

/-- Octets behind a stream stay behind it when it is cut to full octets. -/
theorem aligned_append (bits : Bits) (more : List UInt8) :
    aligned (bits ++ ofBytes more) = bits.aligned ++ ofBytes more := by
  have hmod : (bits ++ ofBytes more).length % 8 = bits.length % 8 := by
    rw [List.length_append, length_ofBytes]
    omega
  rw [aligned, aligned, hmod, List.drop_append_of_le_length (Nat.mod_le _ _)]

namespace Extends

variable {α β γ : Type}

theorem done (a : α) : IsLocal fun bits => some (a, bits) where
  append h more := by
    obtain ⟨rfl, rfl⟩ := Prod.mk.inj (Option.some.inj h)
    rfl

/-- A reader that reads nothing is extended by every other. -/
theorem fails (wider : Bits → Option (α × Bits)) : Extends (fun _ => none) wider where
  append h _ := by cases h

/-- One reader after another. -/
theorem bind {read wider : Bits → Option (α × Bits)} {next next' : α × Bits → Option (β × Bits)}
    (hread : Extends read wider)
    (hnext : ∀ a, Extends (fun bits => next (a, bits)) fun bits => next' (a, bits)) :
    Extends (fun bits => read bits >>= next) fun bits => wider bits >>= next' where
  append h more := by
    obtain ⟨⟨a, left⟩, ha, hb⟩ := Option.bind_eq_some_iff.1 h
    exact Option.bind_eq_some_iff.2 ⟨_, hread.append ha more, (hnext a).append hb more⟩

/-- A reader that depends on something that there may not be. -/
theorem given {o : Option γ} {next next' : γ → Bits → Option (β × Bits)}
    (hnext : ∀ c, Extends (next c) (next' c)) :
    Extends (fun bits => o >>= fun c => next c bits) fun bits => o >>= fun c => next' c bits where
  append h more := by
    obtain ⟨c, hc, hb⟩ := Option.bind_eq_some_iff.1 h
    exact Option.bind_eq_some_iff.2 ⟨c, hc, (hnext c).append hb more⟩

theorem ite {p : Prop} [Decidable p] {yes no yes' no' : Bits → Option (α × Bits)}
    (hyes : Extends yes yes') (hno : Extends no no') :
    Extends (fun bits => if p then yes bits else no bits)
      fun bits => if p then yes' bits else no' bits where
  append h more := by
    split at h
    · next hp =>
        rw [if_pos hp]
        exact hyes.append h more
    · next hp =>
        rw [if_neg hp]
        exact hno.append h more

/-- A reader that begins at the next full octet. -/
theorem comp_aligned {read : Bits → Option (α × Bits)} (h : IsLocal read) :
    IsLocal fun bits => read bits.aligned where
  append ha more := by
    rw [aligned_append]
    exact h.append ha more

/-- A reader that goes on to the next full octet. -/
theorem map_aligned {read : Bits → Option (α × Bits)} (h : IsLocal read) (f : α → β) :
    IsLocal fun bits => (read bits).map fun r => (f r.1, r.2.aligned) where
  append hb more := by
    obtain ⟨⟨a, left⟩, ha, heq⟩ := Option.map_eq_some_iff.1 hb
    obtain ⟨rfl, rfl⟩ := Prod.mk.inj heq
    rw [h.append ha more, Option.map_some, ← aligned_append]

/-- A reader that is bounded by the length of the stream, if a higher bound extends it. -/
theorem isLocal_bounded {read : Nat → Bits → Option (α × Bits)}
    (h : ∀ {fuel more : Nat}, fuel ≤ more → Extends (read fuel) (read more)) :
    IsLocal fun bits => read (bits.length + 1) bits where
  append {bits a rest} ha more := by
    have hle : bits.length + 1 ≤ (bits ++ ofBytes more).length + 1 := by
      rw [List.length_append]
      omega
    exact (h hle).append ha more

end Extends

/-! ### Numbers and octets -/

theorem number?_eq (n : Nat) (bits : Bits) :
    number? n bits
      = if bits.length < n then none else some (value (bits.take n), bits.drop n) := by
  have hshort : (bits.take n).length < n ↔ bits.length < n := by
    rw [List.length_take]
    omega
  unfold number?
  simp only [hshort]

theorem isLocal_number? (n : Nat) : IsLocal (number? n) where
  append {bits k rest} h more := by
    rw [number?_eq] at h
    split at h
    · cases h
    · next hlong =>
        have hle : n ≤ bits.length := Nat.le_of_not_lt hlong
        obtain ⟨rfl, rfl⟩ := Prod.mk.inj (Option.some.inj h)
        rw [number?_eq, List.take_append_of_le_length hle, List.drop_append_of_le_length hle,
          if_neg]
        rw [List.length_append]
        omega

theorem isLocal_bit? : IsLocal bit? where
  append {bits b rest} h more := by
    cases bits with
    | nil => cases h
    | cons c bits =>
        obtain ⟨rfl, rfl⟩ := Prod.mk.inj (Option.some.inj h)
        rfl

theorem isLocal_bytes? (n : Nat) : IsLocal (bytes? n) := by
  induction n with
  | zero => exact .done []
  | succ n ih => exact (isLocal_number? 8).bind fun b => ih.bind fun bs => .done _

end Bits

open Bits (IsLocal Extends)

/-! ### Codes -/

theorem PrefixCode.isLocal_read? (code : PrefixCode) : IsLocal code.read? := by
  induction code with
  | none => exact .fails _
  | symbol n => exact .done n
  | fork zero one ihzero ihone =>
      refine ⟨fun {bits n rest} h more => ?_⟩
      cases bits with
      | nil => cases h
      | cons b bits =>
          cases b with
          | false => exact ihzero.append h more
          | true => exact ihone.append h more

namespace Inflate

theorem isLocal_readExtended? (bases : List (Nat × Nat)) (place : Nat) :
    IsLocal (readExtended? bases place) :=
  .given fun _ => (Bits.isLocal_number? _).bind fun _ => .done _

theorem isLocal_readCodeLengths? (places : List Nat) : IsLocal (readCodeLengths? places) := by
  induction places with
  | nil => exact .done []
  | cons place places ih => exact (Bits.isLocal_number? 3).bind fun _ => ih.bind fun _ => .done _

theorem isLocal_readLengthCode? (n : Nat) : IsLocal (readLengthCode? n) :=
  (isLocal_readCodeLengths? _).bind fun _ => .given fun _ => .done _

theorem isLocal_readLengths? (code : PrefixCode) (count fuel : Nat) :
    ∀ ls : List Nat, IsLocal (readLengths? code count fuel ls) := by
  induction fuel with
  | zero => exact fun _ => .fails _
  | succ fuel ih =>
      intro ls
      refine .ite (.fails _) (.ite (.done _) (code.isLocal_read?.bind fun s => ?_))
      refine .ite (ih _) (.ite (.given fun last => ?_) (.ite ?_ ?_))
      · exact (Bits.isLocal_number? 2).bind fun n => ih _
      · exact (Bits.isLocal_number? 3).bind fun n => ih _
      · exact (Bits.isLocal_number? 7).bind fun n => ih _

theorem isLocal_readCodes? : IsLocal readCodes? := by
  refine (Bits.isLocal_number? 5).bind fun moreSymbols => ?_
  refine (Bits.isLocal_number? 5).bind fun moreDistances => ?_
  refine (Bits.isLocal_number? 4).bind fun moreLengths => .given fun _ => ?_
  refine (isLocal_readLengthCode? _).bind fun code => ?_
  refine (isLocal_readLengths? _ _ _ _).bind fun ls => ?_
  exact .given fun symbols => .given fun distances => .done _

/-! ### Blocks -/

/-- Symbols with a bound on their number, and with a higher one. -/
theorem extends_readSymbols? (codes : Codes) {fuel more : Nat} (hle : fuel ≤ more) :
    ∀ out : Array UInt8, Extends (readSymbols? codes fuel out) (readSymbols? codes more out) := by
  induction fuel generalizing more with
  | zero => exact fun _ => .fails _
  | succ fuel ih =>
      intro out
      obtain ⟨more, rfl⟩ : ∃ n, more = n + 1 := ⟨more - 1, by omega⟩
      have hrest : ∀ out, Extends (readSymbols? codes fuel out) (readSymbols? codes more out) :=
        ih (by omega)
      refine codes.symbols.isLocal_read?.bind fun s => .ite (hrest _) (.ite (.done _) ?_)
      refine (isLocal_readExtended? _ _).bind fun length => ?_
      refine codes.distances.isLocal_read?.bind fun place => ?_
      exact (isLocal_readExtended? _ _).bind fun distance => .ite (.fails _) (hrest _)

/-- Symbols as far as the stream goes. -/
theorem isLocal_readSymbols? (codes : Codes) (out : Array UInt8) :
    IsLocal fun bits => readSymbols? codes (bits.length + 1) out bits :=
  .isLocal_bounded fun hle => extends_readSymbols? codes hle out

theorem isLocal_readStored? (out : Array UInt8) : IsLocal (readStored? out) := by
  refine (Bits.isLocal_number? 16).comp_aligned.bind fun length => ?_
  refine (Bits.isLocal_number? 16).bind fun _ => .given fun _ => ?_
  exact (Bits.isLocal_bytes? length).bind fun _ => .done _

/-- A block of any type. -/
theorem isLocal_readBlock? (type : Nat) (out : Array UInt8) : IsLocal (readBlock? type out) :=
  match type with
  | 0 => isLocal_readStored? out
  | 1 => .given fun codes => isLocal_readSymbols? codes out
  | 2 => isLocal_readCodes?.bind fun codes => isLocal_readSymbols? codes out
  | _ + 3 => .fails _

/-- Blocks with a bound on their number, and with a higher one. -/
theorem extends_readBlocks? {fuel more : Nat} (hle : fuel ≤ more) :
    ∀ out : Array UInt8, Extends (readBlocks? fuel out) (readBlocks? more out) := by
  induction fuel generalizing more with
  | zero => exact fun _ => .fails _
  | succ fuel ih =>
      intro out
      obtain ⟨more, rfl⟩ : ∃ n, more = n + 1 := ⟨more - 1, by omega⟩
      refine Bits.isLocal_bit?.bind fun isLast => (Bits.isLocal_number? 2).bind fun type => ?_
      refine (isLocal_readBlock? _ _).bind fun out => .ite (.done _) ?_
      exact ih (by omega) out

/-- **Compressed data is read alike, whatever octets stand behind it.** -/
theorem isLocal_inflate? : IsLocal inflate? :=
  (Extends.isLocal_bounded fun hle => extends_readBlocks? hle #[]).map_aligned Array.toList

end Inflate

end HostRouting
