/-
**Lines.**

A line ends at a line feed, and a carriage return right before that line feed belongs to the line
end; a carriage return anywhere else is part of the line.  Text after the last line feed is a line
of its own unless it is empty.  The rule is the same for characters and for bytes, so it is stated
for any alphabet with a line feed `lf` and a carriage return `cr`.

Main definitions:

* `Text.pieces` — what stands between the line feeds;
* `Text.lines` — the lines, without their ends.
-/

set_option autoImplicit false

namespace HostRouting.Text

variable {α : Type} [BEq α]

/-- What stands between the occurrences of `sep`: one piece more than there are occurrences. -/
def pieces (sep : α) : List α → List (List α)
  | [] => [[]]
  | x :: xs =>
      if x == sep then [] :: pieces sep xs
      else
        match pieces sep xs with
        | [] => [[x]]
        | p :: ps => (x :: p) :: ps

/-- A piece that a line feed closed, without a carriage return at its end. -/
def withoutReturn (cr : α) (line : List α) : List α :=
  match line.getLast? with
  | some x => if x == cr then line.dropLast else line
  | none => line

/-- The lines made of given pieces: every piece but the last was closed by a line feed, and the
last is a line only if something stands in it. -/
def closeLines (cr : α) : List (List α) → List (List α)
  | [] => []
  | [last] => if last.isEmpty then [] else [last]
  | p :: q :: ps => withoutReturn cr p :: closeLines cr (q :: ps)

/-- The lines of a text, without their ends. -/
def lines (lf cr : α) (text : List α) : List (List α) := closeLines cr (pieces lf text)

@[simp] theorem pieces_nil (sep : α) : pieces sep [] = [[]] := rfl

theorem pieces_ne_nil (sep : α) (xs : List α) : pieces sep xs ≠ [] := by
  cases xs with
  | nil => simp
  | cons x xs =>
      simp only [pieces]
      split
      · simp
      · split <;> simp

end HostRouting.Text
