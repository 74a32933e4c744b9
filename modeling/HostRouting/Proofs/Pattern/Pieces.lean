/-
**What a glob takes, piece by piece.**

A glob takes a text if the text splits, in order, into one piece for each item of the glob: a
literal takes its own character, `?` one character inside a line, `*` any number of them.  The marks
of `Glob.accepts` compute this without looking for a split: after each character the mark of an item
says whether the items up to it take exactly what was read.

Main definitions:

* `Glob.Item.Takes` — the pieces that one item takes;
* `Glob.Takes` — the texts that split into pieces;
* `Glob.IsMarked` — what the marks say about the text read so far.

Main results:

* `Glob.takes_append_singleton` — the last item takes an ending of the text;
* `Glob.isMarked_advance` — one more character keeps the marks right;
* `Glob.accepts_iff` — the marks decide whether there is a split.
-/

import HostRouting.Pattern.Glob

set_option autoImplicit false

namespace HostRouting.Glob

/-! ### Pieces -/

/-- The pieces that an item takes. -/
def Item.Takes : Item → List Char → Prop
  | .literal d, v => v = [d]
  | .one, v => ∃ c, v = [c] ∧ isLineTerminator c = false
  | .run, v => ∀ c ∈ v, isLineTerminator c = false

/-- The texts that split, in order, into one piece for each item. -/
inductive Takes : List Item → List Char → Prop where
  | nil : Takes [] []
  | cons {i : Item} {is : List Item} {v w : List Char} (here : i.Takes v) (rest : Takes is w) :
      Takes (i :: is) (v ++ w)

@[simp] theorem takes_nil {w : List Char} : Takes [] w ↔ w = [] := by
  constructor
  · intro h
    cases h
    rfl
  · rintro rfl
    exact .nil

theorem takes_cons {i : Item} {is : List Item} {w : List Char} :
    Takes (i :: is) w ↔ ∃ u v, w = u ++ v ∧ i.Takes u ∧ Takes is v := by
  constructor
  · intro h
    cases h with
    | cons here rest => exact ⟨_, _, rfl, here, rest⟩
  · rintro ⟨u, v, rfl, here, rest⟩
    exact .cons here rest

/-- The last item takes an ending of the text, the items before it what is in front. -/
theorem takes_append_singleton (p : List Item) (i : Item) :
    ∀ w : List Char, Takes (p ++ [i]) w ↔ ∃ u v, w = u ++ v ∧ Takes p u ∧ i.Takes v := by
  induction p with
  | nil =>
      intro w
      rw [List.nil_append, takes_cons]
      constructor
      · rintro ⟨u, v, rfl, here, rest⟩
        obtain rfl := takes_nil.1 rest
        exact ⟨[], u, List.append_nil u, .nil, here⟩
      · rintro ⟨u, v, rfl, front, last⟩
        obtain rfl := takes_nil.1 front
        exact ⟨v, [], (List.append_nil v).symm, last, .nil⟩
  | cons j p ih =>
      intro w
      rw [List.cons_append, takes_cons]
      constructor
      · rintro ⟨u, v, rfl, first, rest⟩
        obtain ⟨x, y, rfl, middle, last⟩ := (ih v).1 rest
        exact ⟨u ++ x, y, by rw [List.append_assoc], .cons first middle, last⟩
      · rintro ⟨u, v, rfl, front, last⟩
        obtain ⟨x, y, rfl, first, middle⟩ := takes_cons.1 front
        exact ⟨x, y ++ v, by rw [List.append_assoc], first, (ih _).2 ⟨y, v, rfl, middle, last⟩⟩

/-! ### One more character -/

theorem takes_literal_snoc (p : List Item) (w : List Char) (d c : Char) :
    Takes (p ++ [.literal d]) (w ++ [c]) ↔ Takes p w ∧ c = d := by
  rw [takes_append_singleton]
  constructor
  · rintro ⟨u, v, heq, front, rfl⟩
    -- both pieces at the end are one character long, so the fronts agree too
    obtain ⟨rfl, hc⟩ := List.append_inj' heq rfl
    exact ⟨front, List.singleton_inj.1 hc⟩
  · rintro ⟨front, rfl⟩
    exact ⟨w, [c], rfl, front, rfl⟩

theorem takes_one_snoc (p : List Item) (w : List Char) (c : Char) :
    Takes (p ++ [.one]) (w ++ [c]) ↔ Takes p w ∧ isLineTerminator c = false := by
  rw [takes_append_singleton]
  constructor
  · rintro ⟨u, v, heq, front, d, rfl, hd⟩
    obtain ⟨rfl, hc⟩ := List.append_inj' heq rfl
    rw [List.singleton_inj.1 hc]
    exact ⟨front, hd⟩
  · rintro ⟨front, hc⟩
    exact ⟨w, [c], rfl, front, c, rfl, hc⟩

/-- The piece of a run is empty, or one character longer than a piece of the run. -/
theorem takes_run_snoc (p : List Item) (w : List Char) (c : Char) :
    Takes (p ++ [.run]) (w ++ [c]) ↔
      Takes p (w ++ [c]) ∨ Takes (p ++ [.run]) w ∧ isLineTerminator c = false := by
  simp only [takes_append_singleton]
  constructor
  · rintro ⟨u, v, heq, front, last⟩
    rcases List.eq_nil_or_concat v with rfl | ⟨v, d, rfl⟩
    · left
      rw [heq, List.append_nil]
      exact front
    · right
      rw [List.concat_eq_append] at heq last
      rw [← List.append_assoc] at heq
      obtain ⟨rfl, hc⟩ := List.append_inj' heq rfl
      rw [List.singleton_inj.1 hc]
      refine ⟨⟨u, v, rfl, front, ?_⟩, last d (by simp)⟩
      intro e he
      exact last e (by simp [he])
  · rintro (front | ⟨⟨u, v, rfl, front, last⟩, hc⟩)
    · exact ⟨w ++ [c], [], by simp, front, by simp [Item.Takes]⟩
    · refine ⟨u, v ++ [c], by simp, front, ?_⟩
      intro e he
      rcases List.mem_append.1 he with he | he
      · exact last e he
      · rw [List.mem_singleton.1 he]
        exact hc

/-- Only runs take the empty text. -/
theorem takes_empty_snoc (p : List Item) (i : Item) :
    Takes (p ++ [i]) [] ↔ Takes p [] ∧ i = .run := by
  rw [takes_append_singleton]
  constructor
  · rintro ⟨u, v, heq, front, last⟩
    obtain ⟨rfl, rfl⟩ := List.append_eq_nil_iff.1 heq.symm
    refine ⟨front, ?_⟩
    cases i with
    | literal d => simp [Item.Takes] at last
    | one => simp [Item.Takes] at last
    | run => rfl
  · rintro ⟨front, rfl⟩
    exact ⟨[], [], rfl, front, by simp [Item.Takes]⟩

/-! ### Marks -/

/-- The marks are right for the text `w` read so far, where the items `p` stand in front: every mark
says whether the items up to its own take exactly `w`. -/
def IsMarked (w : List Char) : List Item → Marks → Prop
  | _, [] => True
  | p, (i, mark) :: ms => (mark = true ↔ Takes (p ++ [i]) w) ∧ IsMarked w (p ++ [i]) ms

theorem isMarked_start (is : List Item) :
    ∀ (p : List Item) (before : Bool), (before = true ↔ Takes p []) →
      IsMarked [] p (start before is) := by
  induction is with
  | nil =>
      intro p before _
      trivial
  | cons i is ih =>
      intro p before hbefore
      have hmark : (before && i == .run) = true ↔ Takes (p ++ [i]) [] := by
        rw [takes_empty_snoc, Bool.and_eq_true, hbefore, beq_iff_eq]
      exact ⟨hmark, ih _ _ hmark⟩

/-- The mark of one item after one more character. -/
theorem mark_iff {p : List Item} {w : List Char} {i : Item} (c : Char)
    {oldBefore newBefore old : Bool} (hold : oldBefore = true ↔ Takes p w)
    (hnew : newBefore = true ↔ Takes p (w ++ [c])) (hmark : old = true ↔ Takes (p ++ [i]) w) :
    i.mark c oldBefore newBefore old = true ↔ Takes (p ++ [i]) (w ++ [c]) := by
  cases i with
  | literal d => rw [takes_literal_snoc, Item.mark, Bool.and_eq_true, hold, beq_iff_eq]
  | one => rw [takes_one_snoc, Item.mark, Bool.and_eq_true, hold, Bool.not_eq_true']
  | run =>
      rw [takes_run_snoc, Item.mark, Bool.or_eq_true, Bool.and_eq_true, hnew, hmark,
        Bool.not_eq_true']

/-- **One more character keeps the marks right.** -/
theorem isMarked_advance {w : List Char} (c : Char) (ms : Marks) :
    ∀ (p : List Item) (oldBefore newBefore : Bool), (oldBefore = true ↔ Takes p w) →
      (newBefore = true ↔ Takes p (w ++ [c])) → IsMarked w p ms →
        IsMarked (w ++ [c]) p (advance c oldBefore newBefore ms) := by
  -- along the marks; what stands in front of an item carries its old and its new mark with it
  induction ms with
  | nil =>
      intro p oldBefore newBefore _ _ _
      trivial
  | cons m ms ih =>
      obtain ⟨i, old⟩ := m
      intro p oldBefore newBefore hold hnew ⟨hmark, hms⟩
      have hnow := mark_iff c hold hnew hmark
      exact ⟨hnow, ih _ _ _ hmark hnow hms⟩

/-- The items of marks. -/
def Marks.items (ms : Marks) : List Item := ms.map Prod.fst

theorem items_start (is : List Item) (before : Bool) : Marks.items (start before is) = is := by
  induction is generalizing before with
  | nil => rfl
  | cons i is ih => exact congrArg (i :: ·) (ih _)

theorem items_advance (c : Char) (ms : Marks) (oldBefore newBefore : Bool) :
    Marks.items (advance c oldBefore newBefore ms) = ms.items := by
  induction ms generalizing oldBefore newBefore with
  | nil => rfl
  | cons m ms ih => exact congrArg (m.1 :: ·) (ih _ _)

/-- The last mark says whether all the items take the text. -/
theorem last_iff {w : List Char} (ms : Marks) :
    ∀ (p : List Item) (before : Bool), (before = true ↔ Takes p w) → IsMarked w p ms →
      (ms.last before = true ↔ Takes (p ++ ms.items) w) := by
  induction ms with
  | nil =>
      intro p before hbefore _
      simpa [Marks.last, Marks.items] using hbefore
  | cons m ms ih =>
      obtain ⟨i, mark⟩ := m
      intro p before _ ⟨hmark, hms⟩
      have hlast : Marks.last before ((i, mark) :: ms) = Marks.last mark ms := by
        cases ms with
        | nil => rfl
        | cons m ms => rw [Marks.last, Marks.last, List.getLast?_cons_cons, List.getLast?_cons]; rfl
      rw [hlast, ih (p ++ [i]) mark hmark hms]
      simp [Marks.items]

/-! ### Whole texts -/

/-- With right marks for what was read, the items are found to take the rest iff they take the whole
text. -/
theorem finishes_iff (v : List Char) :
    ∀ (w : List Char) (before : Bool) (ms : Marks), (before = true ↔ Takes [] w) →
      IsMarked w [] ms → (finishes before ms v = true ↔ Takes ms.items (w ++ v)) := by
  induction v with
  | nil =>
      intro w before ms hbefore hms
      rw [finishes, last_iff ms [] before hbefore hms, List.append_nil, List.nil_append]
  | cons c v ih =>
      intro w before ms hbefore hms
      -- no items at all take a text that is not empty
      have hnew : false = true ↔ Takes [] (w ++ [c]) := by simp
      have hnext := isMarked_advance c ms [] before false hbefore hnew hms
      rw [finishes, ih (w ++ [c]) false _ hnew hnext, items_advance, List.append_assoc,
        List.singleton_append]

/-- **A glob takes a text iff the text splits into one piece for each of its items.** -/
theorem accepts_iff (source text : List Char) :
    accepts source text = true ↔ Takes (items source) text := by
  have hstart : true = true ↔ Takes [] [] := by simp
  rw [accepts, itemsAccept,
    finishes_iff text [] true _ hstart (isMarked_start (items source) [] true hstart), items_start,
    List.nil_append]

end HostRouting.Glob
