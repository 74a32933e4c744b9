/-
**Bases of patterns.**

The test behind `.base` and `*.base` works on octets: the host is longer than the base, its last
octets are those of the base, and the octet right before them is a full stop.  The third part takes
an octet by its index, which it finds by subtracting lengths.  As the lengths are compared first,
no subtraction goes below zero and the index is one of the host, whatever the octets are.

Because UTF-8 shows where a character begins, what holds of the octets holds of the texts: a host
lies below a base if it is some text, a full stop and the base.  A base is compared as it stands,
so a star or a question mark in it is a character like any other.  One can tell that from outside:
if characters are exchanged for others in both the base and the host, the full stop kept, the same
hosts match.

Main definitions:

* `Pattern.octetBefore?` — the octet right before an ending, if its index is in range;
* `Pattern.isBelow?` — the test on octets, without an answer where its index is out of range.

Main results:

* `Pattern.octetBefore?_eq_none_iff` — when the index is out of range;
* `Pattern.isBelow?_eq` — the test never comes to such an index;
* `Pattern.isSubdomain_iff_exists` — the hosts below a base, as texts;
* `Pattern.isSubdomain_map` — exchanging characters changes no answer;
* `Pattern.matchesHost_literally` — **a base is matched safely and literally**.
-/

import HostRouting.Proofs.Pattern.Parsed
import Mathlib.Data.Nat.PSub
import Mathlib.Logic.Equiv.Basic

set_option autoImplicit false

namespace HostRouting.Pattern

/-! ### The index of the full stop -/

/-- The octet right before the last `ending` octets of a host.  There is none if a length would have
to go below zero, or if the index is not one of the host. -/
def octetBefore? (host : List UInt8) (ending : Nat) : Option UInt8 := do
  let start ← host.length.psub ending
  let index ← start.psub 1
  host[index]?

/-- The test `isBelow` with no answer where the octet that it asks for is not there. -/
def isBelow? (host base : List UInt8) : Option Bool :=
  if base.length < host.length && base.isSuffixOf host then
    (octetBefore? host base.length).map (· == 0x2E)
  else some false

theorem octetBefore?_of_lt {host : List UInt8} {ending : Nat} (h : ending < host.length) :
    octetBefore? host ending = some host[host.length - ending - 1] := by
  have hstart : host.length.psub ending = some (host.length - ending) :=
    Nat.psub_eq_sub (Nat.le_of_lt h)
  have hindex : (host.length - ending).psub 1 = some (host.length - ending - 1) :=
    Nat.psub_eq_sub (Nat.sub_pos_of_lt h)
  simp only [octetBefore?, hstart, hindex, Option.bind_eq_bind, Option.bind_some]
  exact List.getElem?_eq_getElem _

/-- **The index is out of range exactly for the hosts that are no longer than the ending.** -/
theorem octetBefore?_eq_none_iff {host : List UInt8} {ending : Nat} :
    octetBefore? host ending = none ↔ host.length ≤ ending := by
  constructor
  · intro h
    refine Nat.le_of_not_lt fun hlt => ?_
    rw [octetBefore?_of_lt hlt] at h
    cases h
  · intro h
    -- either the first subtraction fails, or nothing is left for the second one
    rcases Nat.lt_or_eq_of_le h with hlt | rfl
    · rw [octetBefore?, Nat.psub_eq_none.2 hlt]
      rfl
    · rw [octetBefore?, Nat.psub_eq_sub (Nat.le_refl _), Nat.sub_self]
      rfl

/-- **The test on octets never comes to an index out of range.** -/
theorem isBelow?_eq (host base : List UInt8) : isBelow? host base = some (isBelow host base) := by
  rw [isBelow?, isBelow]
  split
  · next hends =>
      have hlen : base.length < host.length :=
        of_decide_eq_true (Bool.and_eq_true_iff.1 hends).1
      rw [hends, Bool.true_and, octetBefore?_of_lt hlen, List.getElem?_eq_getElem]
      rfl
  · next hends => rw [Bool.eq_false_iff.2 hends, Bool.false_and]

/-! ### Hosts below a base -/

/-- **A host lies below a base if it is some text, a full stop and the base.** -/
theorem isSubdomain_iff_exists (host base : String) :
    isSubdomain host base = true ↔ ∃ x, host = x ++ "." ++ base := by
  have hends (x : String) : (x ++ "." ++ base).toList = x.toList ++ '.' :: base.toList := by
    rw [String.toList_append, String.toList_append, List.append_assoc]
    rfl
  rw [isSubdomain_iff]
  constructor
  · rintro ⟨before, hbefore⟩
    refine ⟨String.ofList before, ?_⟩
    rw [← String.toList_inj, hends, String.toList_ofList, hbefore]
  · rintro ⟨x, rfl⟩
    exact ⟨x.toList, (hends x).symm⟩

theorem matchesHost_starred_iff (host base : String) :
    (starred base).matchesHost host = true ↔ ∃ x, host = x ++ "." ++ base :=
  isSubdomain_iff_exists host base

theorem matchesHost_dotted_iff (host base : String) :
    (dotted base).matchesHost host = true ↔ host = base ∨ ∃ x, host = x ++ "." ++ base := by
  rw [matchesHost, Bool.or_eq_true, beq_iff_eq, isSubdomain_iff_exists]

/-! ### Characters exchanged for others -/

section

variable {f : Char → Char} (hf : Function.Injective f)

include hf

theorem map_eq_map_iff {s t : String} : s.map f = t.map f ↔ s = t := by
  rw [← String.toList_inj, String.toList_map, String.toList_map, List.map_inj_right hf,
    String.toList_inj]

variable (hdot : f '.' = '.') (host base : String)

include hdot

/-- **Characters may be exchanged in a base and a host**, as long as the full stop stays. -/
theorem isSubdomain_map : isSubdomain (host.map f) (base.map f) = isSubdomain host base := by
  have hends : '.' :: (base.map f).toList = ('.' :: base.toList).map f := by
    rw [List.map_cons, hdot, String.toList_map]
  rw [Bool.eq_iff_iff, isSubdomain_iff, isSubdomain_iff, hends, String.toList_map,
    List.suffix_map_iff_of_injective hf]

theorem matchesHost_starred_map :
    (starred (base.map f)).matchesHost (host.map f) = (starred base).matchesHost host :=
  isSubdomain_map hf hdot host base

theorem matchesHost_dotted_map :
    (dotted (base.map f)).matchesHost (host.map f) = (dotted base).matchesHost host := by
  have hsame : (host.map f == base.map f) = (host == base) := by
    rw [Bool.eq_iff_iff, beq_iff_eq, beq_iff_eq, map_eq_map_iff hf]
  rw [matchesHost, matchesHost, hsame, isSubdomain_map hf hdot]

end

/-- **A base is matched safely and literally.**  There is an octet before an ending as long as the
base only in a longer host, and the test on octets looks for it in no other, so it always has an
answer.  The answer is yes if and only if the host is some text, a full stop and the base.  So
`*.base` matches these hosts, and `.base` matches them and the base, and nothing else matters: with
characters exchanged for others in the base and in the host, wildcards among them, the answers stay
the same. -/
theorem matchesHost_literally (host base : String) :
    (octetBefore? (Utf8.encodeText host) (Utf8.encodeText base).length = none ↔
        (Utf8.encodeText host).length ≤ (Utf8.encodeText base).length) ∧
      isBelow? (Utf8.encodeText host) (Utf8.encodeText base) = some (isSubdomain host base) ∧
      (isSubdomain host base = true ↔ ∃ x, host = x ++ "." ++ base) ∧
      ((dotted base).matchesHost host = true ↔ host = base ∨ ∃ x, host = x ++ "." ++ base) ∧
      ((starred base).matchesHost host = true ↔ ∃ x, host = x ++ "." ++ base) ∧
      ∀ f : Char → Char, Function.Injective f → f '.' = '.' →
        (dotted (base.map f)).matchesHost (host.map f) = (dotted base).matchesHost host ∧
          (starred (base.map f)).matchesHost (host.map f) = (starred base).matchesHost host := by
  refine ⟨octetBefore?_eq_none_iff, isBelow?_eq _ _, isSubdomain_iff_exists host base,
    matchesHost_dotted_iff host base, matchesHost_starred_iff host base, ?_⟩
  intro f hf hdot
  exact ⟨matchesHost_dotted_map hf hdot host base, matchesHost_starred_map hf hdot host base⟩

/-- The star of the base `*.cn` takes no other character, and exchanged for one of two octets in the
base and the host it matches as before.  The empty host has no octet to look for, and the test does
not look for one. -/
theorem matchesHost_literally_exchanged :
    Function.Injective (Equiv.swap '*' 'é') ∧ Equiv.swap '*' 'é' '.' = '.' ∧
      (starred "*.cn").matchesHost "京.*.cn" = true ∧
      (starred "é.cn").matchesHost "京.é.cn" = true ∧
      (starred "*.cn").matchesHost "京.é.cn" = false ∧
      octetBefore? (Utf8.encodeText "") (Utf8.encodeText "").length = none ∧
      isBelow? (Utf8.encodeText "") (Utf8.encodeText "") = some false ∧
      (dotted "").matchesHost "" = true ∧ (starred "").matchesHost "" = false := by
  have hswap : Function.Injective (Equiv.swap '*' 'é') := (Equiv.swap '*' 'é').injective
  have hdot : Equiv.swap '*' 'é' '.' = '.' := by decide
  have hhost : "京.*.cn".map (Equiv.swap '*' 'é') = "京.é.cn" := by
    rw [← String.toList_inj, String.toList_map]
    decide
  have hbase : "*.cn".map (Equiv.swap '*' 'é') = "é.cn" := by
    rw [← String.toList_inj, String.toList_map]
    decide
  obtain ⟨-, -, -, -, hstar, hmap⟩ := matchesHost_literally "京.*.cn" "*.cn"
  obtain ⟨hnone, htest, -, hsame, -, -⟩ := matchesHost_literally "" ""
  have hmatch : (starred "*.cn").matchesHost "京.*.cn" = true := hstar.2 ⟨"京", by decide⟩
  have hexchanged := (hmap _ hswap hdot).2
  rw [hhost, hbase] at hexchanged
  exact ⟨hswap, hdot, hmatch, hexchanged.trans hmatch, by decide, hnone.2 (Nat.le_refl _),
    htest.trans (by decide), hsame.2 (.inl rfl), by decide⟩

end HostRouting.Pattern
