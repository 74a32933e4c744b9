/-
**Layouts of a document.**

The parts of a document may be set apart in many ways: every item and member on a line of its own, as
the library writes them, or all of them without a gap.  A layout says what stands in front of an item,
a member and a closing bracket at each level, and what stands behind a colon; nothing but gaps may.

Main definitions:

* `Json.Layout` — a layout, with `Json.Layout.indented` and `Json.Layout.compact`;
* `Json.Layout.write` — the text of a document in a layout.

Main results:

* `Json.Layout.write_indented` — the text over several lines is the text in the layout of lines.
-/

import HostRouting.Json.Printer
import HostRouting.Json.Reader

set_option autoImplicit false

namespace HostRouting.Json

/-- What stands between the parts of a document: `line` in front of items, members and closing
brackets at a level, `space` behind a colon. -/
structure Layout where
  line : Nat → List Char
  space : List Char
  isGap_line : ∀ level, ∀ c ∈ line level, isGap c = true
  isGap_space : ∀ c ∈ space, isGap c = true

namespace Layout

theorem isGap_lineStart (level : Nat) : ∀ c ∈ lineStart level, isGap c = true := by
  intro c hc
  rw [lineStart, List.mem_cons, List.mem_replicate] at hc
  rcases hc with rfl | ⟨-, rfl⟩
  · decide
  · decide

/-- Every item and member on a line of its own. -/
def indented : Layout := ⟨lineStart, [' '], isGap_lineStart, List.all_eq_true.1 rfl⟩

/-- No gaps at all. -/
def compact : Layout := ⟨fun _ => [], [], by simp, by simp⟩

variable (l : Layout)

mutual

/-- The text of a document in a layout. -/
def render (level : Nat) : Json → List Char
  | .null => "null".toList
  | .bool b => if b then "true".toList else "false".toList
  | .number n => numeralText n
  | .string s => quoted s
  | .array [] => ['[', ']']
  | .array (j :: js) =>
      ['['] ++ l.line (level + 1) ++ render (level + 1) j ++ renderItems (level + 1) js
        ++ l.line level ++ [']']
  | .object [] => ['\x7b', '\x7d']
  | .object ((key, j) :: ms) =>
      ['\x7b'] ++ l.line (level + 1) ++ quoted key ++ [':'] ++ l.space ++ render (level + 1) j
        ++ renderMembers (level + 1) ms ++ l.line level ++ ['\x7d']

/-- The items of an array after the first. -/
def renderItems (level : Nat) : List Json → List Char
  | [] => []
  | j :: js => [','] ++ l.line level ++ render level j ++ renderItems level js

/-- The members of an object after the first. -/
def renderMembers (level : Nat) : List (Option String × Json) → List Char
  | [] => []
  | (key, j) :: ms =>
      [','] ++ l.line level ++ quoted key ++ [':'] ++ l.space ++ render level j
        ++ renderMembers level ms

end

/-- A member of an object with its key. -/
def member (level : Nat) (key : Option String) (j : Json) : List Char :=
  quoted key ++ [':'] ++ l.space ++ l.render level j

/-- A document as a text in a layout. -/
def write (j : Json) : String := String.ofList (l.render 0 j)

mutual

theorem render_indented (level : Nat) : ∀ j, indented.render level j = Json.render level j
  | .null => rfl
  | .bool _ => rfl
  | .number _ => rfl
  | .string _ => rfl
  | .array [] => rfl
  | .array (j :: js) => by
      rw [render, Json.render, render_indented (level + 1) j, renderItems_indented (level + 1) js]
      rfl
  | .object [] => rfl
  | .object ((key, j) :: ms) => by
      rw [render, Json.render, render_indented (level + 1) j,
        renderMembers_indented (level + 1) ms]
      simp [indented]

theorem renderItems_indented (level : Nat) :
    ∀ js, indented.renderItems level js = Json.renderItems level js
  | [] => rfl
  | j :: js => by
      rw [renderItems, Json.renderItems, render_indented level j, renderItems_indented level js]
      rfl

theorem renderMembers_indented (level : Nat) :
    ∀ ms, indented.renderMembers level ms = Json.renderMembers level ms
  | [] => rfl
  | (key, j) :: ms => by
      rw [renderMembers, Json.renderMembers, render_indented level j,
        renderMembers_indented level ms]
      simp [indented]

end

/-- The text over several lines is the text in the layout of lines. -/
theorem write_indented (j : Json) : indented.write j = j.indented := by
  rw [write, Json.indented, render_indented]

end Layout

end HostRouting.Json
