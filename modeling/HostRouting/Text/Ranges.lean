/-
**Sets of characters given by ranges.**

A property of characters that a standard lists as ranges of code points is kept here as that list.
The tables themselves live in the modules named for the property; this module only says what it
means to belong to one.  Every table is in increasing order, so a search ends at the first range
that begins past the character.

Main definitions:

* `Text.Ranges` — an increasing list of closed ranges of code points;
* `Text.Ranges.has` — membership of a character.
-/

set_option autoImplicit false

namespace HostRouting.Text

/-- Closed ranges of code points in increasing order: each entry holds its first and its last
member. -/
abbrev Ranges := List (Nat × Nat)

/-- Whether some range holds the code point `n`. -/
def Ranges.hasCode (n : Nat) : Ranges → Bool
  | [] => false
  | r :: rs => if n < r.1 then false else if n ≤ r.2 then true else Ranges.hasCode n rs

/-- Whether some range holds the code point of `c`. -/
def Ranges.has (rs : Ranges) (c : Char) : Bool := Ranges.hasCode c.toNat rs

@[simp] theorem Ranges.has_nil (c : Char) : Ranges.has [] c = false := rfl

/-- What a search finds is in a range. -/
theorem Ranges.exists_of_hasCode {n : Nat} {rs : Ranges} (h : Ranges.hasCode n rs = true) :
    ∃ r ∈ rs, r.1 ≤ n ∧ n ≤ r.2 := by
  induction rs with
  | nil => simp [hasCode] at h
  | cons r rs ih =>
      simp only [hasCode] at h
      split at h
      · simp at h
      · split at h
        · exact ⟨r, by simp, by omega, by assumption⟩
        · obtain ⟨r', hr', hn⟩ := ih h
          exact ⟨r', by simp [hr'], hn⟩

end HostRouting.Text
