/-
**Merging rules.**

The rules entered by hand and the fetched ones are merged by going through one list behind the other
and keeping what was not there before.  So each rule stands where it occurred first, and one more
rule at the end either was there already or comes last.  That decides the merged list: it is the
only one without repetition that holds the same rules in the order of their first occurrence.

Main definitions:

* `IsOrderedUnion` — what a merged list is, without saying how it is found.

Main results:

* `eraseDups_concat` — what one more rule at the end does;
* `pairwise_eraseDups`, `filter_eraseDups` — the order of what is kept, and that a test of each rule
  may come before or after;
* `isOrderedUnion_iff` — the merged list is the only ordered union;
* `mergeRules_laws` — **merging as an operation on lists, and the rules of a mode**.
-/

import HostRouting.Proofs.Rules.RuleList
import Mathlib.Data.List.Nodup

set_option autoImplicit false

namespace HostRouting

/-! ### Each once -/

section

variable {α : Type} [DecidableEq α]

/-- One more element at the end is kept if it was not there before. -/
theorem eraseDups_concat (xs : List α) (x : α) :
    (xs ++ [x]).eraseDups = if x ∈ xs then xs.eraseDups else xs.eraseDups ++ [x] := by
  rw [List.eraseDups_append]
  split
  · next h => simp [List.removeAll, h]
  · next h => simp [List.removeAll, h, List.eraseDups_cons]

theorem nodup_eraseDups (xs : List α) : xs.eraseDups.Nodup := by
  induction xs using List.reverseRecOn with
  | nil => exact List.nodup_nil
  | append_singleton xs x ih =>
      rw [eraseDups_concat]
      split
      · exact ih
      · next h =>
          refine List.nodup_append.2 ⟨ih, List.nodup_singleton x, ?_⟩
          intro y hy z hz
          rw [List.mem_singleton.1 hz]
          rintro rfl
          exact h (List.mem_eraseDups.1 hy)

theorem eraseDups_sublist (xs : List α) : xs.eraseDups.Sublist xs := by
  induction xs using List.reverseRecOn with
  | nil => exact List.Sublist.refl []
  | append_singleton xs x ih =>
      rw [eraseDups_concat]
      split
      · exact ih.trans (List.sublist_append_left xs [x])
      · exact ih.append (List.Sublist.refl [x])

/-- What is kept stands in the order of first occurrence. -/
theorem pairwise_eraseDups (xs : List α) :
    xs.eraseDups.Pairwise fun x y => xs.idxOf x < xs.idxOf y := by
  induction xs using List.reverseRecOn with
  | nil => exact List.Pairwise.nil
  | append_singleton xs x ih =>
      -- what occurred before occurs first where it did
      have hold {y : α} (hy : y ∈ xs.eraseDups) : (xs ++ [x]).idxOf y = xs.idxOf y :=
        List.idxOf_append_of_mem (List.mem_eraseDups.1 hy)
      have hkept : xs.eraseDups.Pairwise
          fun y z => (xs ++ [x]).idxOf y < (xs ++ [x]).idxOf z := by
        refine ih.imp_of_mem ?_
        intro y z hy hz hyz
        rw [hold hy, hold hz]
        exact hyz
      rw [eraseDups_concat]
      split
      · exact hkept
      · next hnew =>
          refine List.pairwise_append.2 ⟨hkept, List.pairwise_singleton _ x, ?_⟩
          intro y hy z hz
          rw [List.mem_singleton.1 hz, hold hy, List.idxOf_append_of_notMem hnew]
          have hlength := List.idxOf_lt_length_of_mem (List.mem_eraseDups.1 hy)
          omega

/-- A test of each element may come before or after. -/
theorem filter_eraseDups (p : α → Bool) (xs : List α) :
    xs.eraseDups.filter p = (xs.filter p).eraseDups := by
  induction xs using List.reverseRecOn with
  | nil => rfl
  | append_singleton xs x ih =>
      rw [eraseDups_concat, List.filter_append, List.filter_singleton]
      cases hx : p x with
      | false =>
          rw [Bool.cond_false, List.append_nil, ← ih]
          split
          · rfl
          · simp [hx]
      | true =>
          rw [Bool.cond_true, eraseDups_concat, ← ih]
          have hmem : x ∈ xs.filter p ↔ x ∈ xs := by simp [hx]
          simp only [hmem]
          split
          · rfl
          · simp [hx]

/-- Nothing is left out exactly if nothing is repeated. -/
theorem eraseDups_eq_self_iff {xs : List α} : xs.eraseDups = xs ↔ xs.Nodup := by
  constructor
  · intro h
    rw [← h]
    exact nodup_eraseDups xs
  · intro h
    induction xs using List.reverseRecOn with
    | nil => rfl
    | append_singleton xs x ih =>
        obtain ⟨hxs, -, hx⟩ := List.nodup_append.1 h
        have hnew : x ∉ xs := fun hmem => hx x hmem x (List.mem_singleton_self x) rfl
        rw [eraseDups_concat, if_neg hnew, ih hxs]

theorem eraseDups_eraseDups (xs : List α) : xs.eraseDups.eraseDups = xs.eraseDups :=
  eraseDups_eq_self_iff.2 (nodup_eraseDups xs)

/-- Repetitions in the first of two lists make no difference. -/
theorem eraseDups_eraseDups_append (xs ys : List α) :
    (xs.eraseDups ++ ys).eraseDups = (xs ++ ys).eraseDups := by
  have hnew : ys.removeAll xs.eraseDups = ys.removeAll xs := by
    simp [List.removeAll]
  rw [List.eraseDups_append, List.eraseDups_append, eraseDups_eraseDups, hnew]

/-- Repetitions in the second of two lists make no difference. -/
theorem eraseDups_append_eraseDups (xs ys : List α) :
    (xs ++ ys.eraseDups).eraseDups = (xs ++ ys).eraseDups := by
  rw [List.eraseDups_append, List.eraseDups_append, List.removeAll, filter_eraseDups,
    eraseDups_eraseDups, List.removeAll]

/-- A list behind one that holds all of it adds nothing. -/
theorem eraseDups_append_of_subset {xs ys : List α} (h : ys ⊆ xs) :
    (xs ++ ys).eraseDups = xs.eraseDups := by
  have hnone : ys.removeAll xs = [] := by
    rw [List.removeAll, List.filter_eq_nil_iff]
    intro y hy
    simpa using h hy
  rw [List.eraseDups_append, hnone, List.eraseDups_nil, List.append_nil]

/-! ### Order -/

/-- In a list without repetition each element stands before those at later places. -/
theorem pairwise_idxOf {xs : List α} (h : xs.Nodup) :
    xs.Pairwise fun x y => xs.idxOf x < xs.idxOf y := by
  have hself := pairwise_eraseDups xs
  rwa [eraseDups_eq_self_iff.2 h] at hself

/-- If a list is ordered by some number, its places are. -/
theorem idxOf_lt_iff_of_pairwise {xs : List α} {f : α → Nat}
    (h : xs.Pairwise fun x y => f x < f y) {x y : α} (hx : x ∈ xs) (hy : y ∈ xs) :
    xs.idxOf x < xs.idxOf y ↔ f x < f y := by
  have hforward {x y : α} (hx : x ∈ xs) (hy : y ∈ xs) (hlt : xs.idxOf x < xs.idxOf y) :
      f x < f y := by
    have hxl := List.idxOf_lt_length_of_mem hx
    have hyl := List.idxOf_lt_length_of_mem hy
    have hplaces := List.pairwise_iff_getElem.1 h _ _ hxl hyl hlt
    rwa [List.getElem_idxOf hxl, List.getElem_idxOf hyl] at hplaces
  refine ⟨hforward hx hy, ?_⟩
  intro hlt
  rcases Nat.lt_trichotomy (xs.idxOf x) (xs.idxOf y) with hbefore | hsame | hafter
  · exact hbefore
  · obtain rfl := (List.idxOf_inj hx).1 hsame
    exact absurd hlt (Nat.lt_irrefl _)
  · exact absurd hlt (Nat.lt_asymm (hforward hy hx hafter))

end

/-! ### Ordered unions -/

/-- What a list is that merges two others. -/
structure IsOrderedUnion (manual fetched merged : List String) : Prop where
  /-- No rule stands in it twice. -/
  nodup : merged.Nodup
  /-- It holds the rules of both lists and no others. -/
  mem_iff : ∀ r, r ∈ merged ↔ r ∈ manual ∨ r ∈ fetched
  /-- Rules stand in it as they occur first in the one list and then the other. -/
  order : ∀ r ∈ merged, ∀ t ∈ merged,
    (merged.idxOf r < merged.idxOf t ↔
      (manual ++ fetched).idxOf r < (manual ++ fetched).idxOf t)

section

variable {manual fetched merged : List String}

theorem IsOrderedUnion.pairwise (h : IsOrderedUnion manual fetched merged) :
    merged.Pairwise fun r t => (manual ++ fetched).idxOf r < (manual ++ fetched).idxOf t := by
  refine (pairwise_idxOf h.nodup).imp_of_mem ?_
  intro r t hr ht hlt
  exact (h.order r hr t ht).1 hlt

theorem mem_mergeRules {r : String} :
    r ∈ mergeRules manual fetched ↔ r ∈ manual ∨ r ∈ fetched := by
  rw [mergeRules, List.mem_eraseDups, List.mem_append]

theorem isOrderedUnion_mergeRules (manual fetched : List String) :
    IsOrderedUnion manual fetched (mergeRules manual fetched) where
  nodup := nodup_eraseDups _
  mem_iff _ := mem_mergeRules
  order _ hr _ ht := idxOf_lt_iff_of_pairwise (pairwise_eraseDups _) hr ht

/-- **The merged list is the only ordered union.** -/
theorem isOrderedUnion_iff :
    IsOrderedUnion manual fetched merged ↔ merged = mergeRules manual fetched := by
  constructor
  · intro h
    have hmerged := isOrderedUnion_mergeRules manual fetched
    have hperm : merged.Perm (mergeRules manual fetched) :=
      (List.perm_ext_iff_of_nodup h.nodup hmerged.nodup).2 fun r =>
        (h.mem_iff r).trans (hmerged.mem_iff r).symm
    refine hperm.eq_of_pairwise ?_ h.pairwise hmerged.pairwise
    intro r t _ _ hrt htr
    exact absurd htr (Nat.lt_asymm hrt)
  · rintro rfl
    exact isOrderedUnion_mergeRules manual fetched

end

/-! ### Merging as an operation -/

theorem mergeRules_assoc (a b c : List String) :
    mergeRules (mergeRules a b) c = mergeRules a (mergeRules b c) := by
  rw [mergeRules, mergeRules, eraseDups_eraseDups_append, List.append_assoc, mergeRules,
    mergeRules, eraseDups_append_eraseDups]

/-- Merging what is there already adds nothing. -/
theorem mergeRules_of_subset {a b : List String} (h : b ⊆ a) :
    mergeRules a b = mergeRules a [] := by
  rw [mergeRules, mergeRules, eraseDups_append_of_subset h, List.append_nil]

theorem mergeRules_nil_eq_self_iff {a : List String} : mergeRules a [] = a ↔ a.Nodup := by
  rw [mergeRules, List.append_nil, eraseDups_eq_self_iff]

/-- A merged list takes no more of what it was merged from. -/
theorem mergeRules_mergeRules_of_subset {a b c : List String} (h : c ⊆ mergeRules a b) :
    mergeRules (mergeRules a b) c = mergeRules a b := by
  rw [mergeRules_of_subset h, mergeRules_nil_eq_self_iff]
  exact nodup_eraseDups _

/-- The rules of a mode may be cleaned before they are merged. -/
theorem Settings.rulesFor_eq (s : Settings) (m : Mode) :
    s.rulesFor m = mergeRules ((s.source m).manual.filter Pattern.isValid)
      ((s.source m).fetched.filter Pattern.isValid) := by
  rw [rulesFor, mergeRules, mergeRules, filter_eraseDups, List.filter_append]

/-- **What merging is.**  The merged list is the one and only list without repetition that holds the
rules of both lists in the order of their first occurrence.  It makes no difference which two of
three lists are merged first.  A list merged with itself, or with the empty list on either side, is
the list without its repetitions, and so the list itself exactly if it has none; a merged list that
is merged again with a list it came from, or with itself, stays what it is.  The rules of a mode are
the two lists merged, whether what is no pattern is left out before that or afterwards; they are
without repetition and all of them patterns. -/
theorem mergeRules_laws :
    (∀ a b merged, IsOrderedUnion a b merged ↔ merged = mergeRules a b) ∧
      (∀ a b c, mergeRules (mergeRules a b) c = mergeRules a (mergeRules b c)) ∧
      (∀ a, mergeRules a a = mergeRules a [] ∧ mergeRules [] a = mergeRules a [] ∧
        (mergeRules a []).Sublist a ∧ (∀ r, r ∈ mergeRules a [] ↔ r ∈ a) ∧
        (mergeRules a []).Nodup ∧ (mergeRules a [] = a ↔ a.Nodup)) ∧
      (∀ a b, mergeRules (mergeRules a b) a = mergeRules a b ∧
        mergeRules (mergeRules a b) b = mergeRules a b ∧
        mergeRules (mergeRules a b) (mergeRules a b) = mergeRules a b) ∧
      ∀ (s : Settings) (m : Mode),
        s.rulesFor m = (mergeRules (s.source m).manual (s.source m).fetched).filter
          Pattern.isValid ∧
        s.rulesFor m = mergeRules ((s.source m).manual.filter Pattern.isValid)
          ((s.source m).fetched.filter Pattern.isValid) ∧
        (s.rulesFor m).Nodup ∧ (s.rulesFor m).all Pattern.isValid = true := by
  refine ⟨fun _ _ _ => isOrderedUnion_iff, mergeRules_assoc, ?single, ?again, ?mode⟩
  case single =>
    intro a
    have hsublist : (mergeRules a []).Sublist a := by
      rw [mergeRules, List.append_nil]
      exact eraseDups_sublist a
    have hmem : ∀ r, r ∈ mergeRules a [] ↔ r ∈ a := by
      intro r
      rw [mem_mergeRules, or_iff_left List.not_mem_nil]
    have hleft : mergeRules [] a = mergeRules a [] := by
      rw [mergeRules, mergeRules, List.nil_append, List.append_nil]
    exact ⟨mergeRules_of_subset (List.Subset.refl a), hleft, hsublist, hmem, nodup_eraseDups _,
      mergeRules_nil_eq_self_iff⟩
  case again =>
    intro a b
    refine ⟨?_, ?_, mergeRules_mergeRules_of_subset (List.Subset.refl _)⟩
    · exact mergeRules_mergeRules_of_subset fun r hr => mem_mergeRules.2 (.inl hr)
    · exact mergeRules_mergeRules_of_subset fun r hr => mem_mergeRules.2 (.inr hr)
  case mode =>
    intro s m
    have hnodup : (s.rulesFor m).Nodup := by
      rw [s.rulesFor_eq m]
      exact nodup_eraseDups _
    have hvalid : (s.rulesFor m).all Pattern.isValid = true :=
      List.all_eq_true.2 fun r hr => (List.mem_filter.1 hr).2
    exact ⟨rfl, s.rulesFor_eq m, hnodup, hvalid⟩

end HostRouting
