/-
**The tokens of a script.**

What a script does is what its text says, so the text is read again: first into tokens, one
character at a time.  The machine here knows the tokens that scripts use and refuses everything
else.  Two rules of the language need the token before: a slash begins a regular expression only
where no value has just ended, and a line may not end after `return`.

Main definitions:

* `Script.Token` — the tokens;
* `Script.State`, `Script.step` — what the machine is in the middle of, and its step;
* `Script.feed` — the tokens that a stretch of text completes, and the state after it;
* `Script.tokens?` — the tokens of a whole text.

Main results:

* `Script.feed_append` — stretches of text are read one after the other;
* `Script.feed_quoted`, `Script.feed_regex`, `Script.feed_remark` — what stands inside a literal or
  a remark stays there.
-/

import HostRouting.Proofs.Pattern.RegexText

set_option autoImplicit false

namespace HostRouting.Script

/-! ### Tokens -/

/-- The reserved words that scripts use. -/
inductive Keyword where
  /-- The word `var`. -/
  | declare
  /-- The word `function`. -/
  | define
  /-- The word `if`. -/
  | when
  /-- The word `return`. -/
  | give
  /-- The word `in`. -/
  | within
  /-- The word `true`. -/
  | yes
  /-- The word `false`. -/
  | no
  /-- The word `null`. -/
  | null
  deriving DecidableEq, Repr

/-- The punctuation that scripts use. -/
inductive Mark where
  | parenOpen
  | parenClose
  | braceOpen
  | braceClose
  | bracketOpen
  | bracketClose
  | semicolon
  | comma
  | dot
  | not
  | question
  | colon
  /-- One equals sign. -/
  | assign
  /-- Three equals signs. -/
  | same
  /-- Two bars. -/
  | or
  deriving DecidableEq, Repr

/-- A token. -/
inductive Token where
  | name (s : String)
  | keyword (k : Keyword)
  /-- What stands between double quotes. -/
  | text (s : String)
  /-- What stands between slashes, and the letters after them. -/
  | regex (body flags : List Char)
  | mark (m : Mark)
  deriving DecidableEq, Repr

/-- What matters of the token before. -/
inductive Before where
  /-- A value may begin here. -/
  | operator
  /-- A value has just ended. -/
  | value
  /-- The word `return`. -/
  | give
  deriving DecidableEq, Repr

/-- What matters of a token to what comes after it. -/
def Token.before : Token → Before
  | .name _ | .text _ | .regex _ _ => .value
  | .keyword .give => .give
  | .keyword .yes | .keyword .no | .keyword .null => .value
  | .keyword _ => .operator
  | .mark .parenClose | .mark .braceClose | .mark .bracketClose => .value
  | .mark _ => .operator

/-! ### Words and marks -/

/-- The reserved words by their first letters, with what those that scripts use are. -/
def reserved : Char → List (String × Option Keyword)
  | 'a' => [("arguments", none), ("async", none), ("await", none)]
  | 'b' => [("break", none)]
  | 'c' => [("case", none), ("catch", none), ("class", none), ("const", none), ("continue", none)]
  | 'd' => [("debugger", none), ("default", none), ("delete", none), ("do", none)]
  | 'e' => [("else", none), ("enum", none), ("eval", none), ("export", none), ("extends", none)]
  | 'f' => [("false", some .no), ("finally", none), ("for", none), ("function", some .define)]
  | 'g' => [("get", none)]
  | 'i' => [("if", some .when), ("implements", none), ("import", none), ("in", some .within),
      ("instanceof", none), ("interface", none)]
  | 'l' => [("let", none)]
  | 'n' => [("new", none), ("null", some .null)]
  | 'o' => [("of", none)]
  | 'p' => [("package", none), ("private", none), ("protected", none), ("public", none)]
  | 'r' => [("return", some .give)]
  | 's' => [("set", none), ("static", none), ("super", none), ("switch", none)]
  | 't' => [("this", none), ("throw", none), ("true", some .yes), ("try", none), ("typeof", none)]
  | 'u' => [("undefined", none)]
  | 'v' => [("var", some .declare), ("void", none)]
  | 'w' => [("while", none), ("with", none)]
  | 'y' => [("yield", none)]
  | _ => []

/-- The token of a word, unless it is a reserved word that scripts do not use. -/
def ofWord? (cs : List Char) : Option Token :=
  match (reserved (cs.headD ' ')).lookup (String.ofList cs) with
  | some k => k.map Token.keyword
  | none => some (.name (String.ofList cs))

/-- The token of a run of equals signs. -/
def ofEquals? (count : Nat) : Option Token :=
  if count = 1 then some (.mark .assign) else if count = 3 then some (.mark .same) else none

/-- The marks of one character. -/
def marks : List (Char × Mark) := [
  ('(', .parenOpen), (')', .parenClose), ('\x7b', .braceOpen), ('\x7d', .braceClose),
  ('[', .bracketOpen), (']', .bracketClose), (';', .semicolon), (',', .comma), ('.', .dot),
  ('!', .not), ('?', .question), (':', .colon)]

/-- Whether a word may begin with a character. -/
def beginsWord (c : Char) : Bool := c.isAlpha || c == '_' || c == '$'

/-- Whether a word may go on with a character. -/
def continuesWord (c : Char) : Bool := beginsWord c || c.isDigit

/-! ### The machine -/

/-- Where in a regular expression a character stands. -/
inductive Place where
  | outside
  /-- After a backslash. -/
  | escape
  /-- In a class. -/
  | inClass
  /-- After a backslash in a class. -/
  | classEscape
  deriving DecidableEq, Repr

/-- What the machine is in the middle of; what it has read of a token is kept in reverse. -/
inductive State where
  | gap (before : Before)
  | word (cs : List Char)
  | equals (count : Nat)
  /-- After one bar. -/
  | bar
  | quoted (cs : List Char)
  /-- After one slash. -/
  | slash (before : Before)
  | remark (before : Before)
  | regex (cs : List Char) (place : Place)
  /-- After the closing slash of a regular expression. -/
  | flags (body cs : List Char)
  deriving DecidableEq, Repr

/-- Reads a character between two tokens. -/
def stepGap (before : Before) (c : Char) : Option (List Token × State) :=
  if c = ' ' ∨ c = '\t' then some ([], .gap before)
  else if Glob.isLineTerminator c then
    if before = .give then none else some ([], .gap before)
  else if beginsWord c then some ([], .word [c])
  else if c = '\"' then some ([], .quoted [])
  else if c = '/' then some ([], .slash before)
  else if c = '=' then some ([], .equals 1)
  else if c = '|' then some ([], .bar)
  else (marks.lookup c).map fun m => ([.mark m], .gap (Token.mark m).before)

/-- Completes a token by the character after it. -/
def complete (t : Token) (c : Char) : Option (List Token × State) :=
  (stepGap t.before c).map fun r => (t :: r.1, r.2)

/-- Reads a character of a regular expression. -/
def stepRegex (cs : List Char) (place : Place) (c : Char) : Option (List Token × State) :=
  if Glob.isLineTerminator c then none
  else
    match place with
    | .outside =>
        if c = '/' then some ([], .flags cs [])
        else if c = '\\' then some ([], .regex (c :: cs) .escape)
        else if c = '[' then some ([], .regex (c :: cs) .inClass)
        else some ([], .regex (c :: cs) .outside)
    | .escape => some ([], .regex (c :: cs) .outside)
    | .inClass =>
        if c = '\\' then some ([], .regex (c :: cs) .classEscape)
        else if c = ']' then some ([], .regex (c :: cs) .outside)
        else some ([], .regex (c :: cs) .inClass)
    | .classEscape => some ([], .regex (c :: cs) .inClass)

/-- Reads a character: the tokens that it completes, and the state after it. -/
def step : State → Char → Option (List Token × State)
  | .gap before, c => stepGap before c
  | .word cs, c =>
      if continuesWord c then some ([], .word (c :: cs))
      else (ofWord? cs.reverse).bind (complete · c)
  | .equals count, c =>
      if c = '=' then some ([], .equals (count + 1)) else (ofEquals? count).bind (complete · c)
  | .bar, c => if c = '|' then some ([.mark .or], .gap .operator) else none
  | .quoted cs, c =>
      if c = '\"' then some ([.text (String.ofList cs.reverse)], .gap .value)
      else if c = '\\' ∨ Glob.isLineTerminator c then none
      else some ([], .quoted (c :: cs))
  | .slash before, c =>
      if c = '/' then some ([], .remark before)
      else if c = '*' ∨ before = .value then none
      else stepRegex [] .outside c
  | .remark before, c =>
      if Glob.isLineTerminator c then stepGap before c else some ([], .remark before)
  | .regex cs place, c => stepRegex cs place c
  | .flags body cs, c =>
      if continuesWord c then some ([], .flags body (c :: cs))
      else complete (.regex body.reverse cs.reverse) c

/-- The tokens that a text completes, and the state after it. -/
def feed : State → List Char → Option (List Token × State)
  | st, [] => some ([], st)
  | st, c :: cs => (step st c).bind fun r => (feed r.2 cs).map fun r' => (r.1 ++ r'.1, r'.2)

/-- The tokens that the end of the text completes. -/
def State.close? : State → Option (List Token)
  | .gap _ | .remark _ => some []
  | .word cs => (ofWord? cs.reverse).map fun t => [t]
  | .flags body cs => some [.regex body.reverse cs.reverse]
  | _ => none

/-- The tokens of a text. -/
def tokens? (text : List Char) : Option (List Token) :=
  (feed (.gap .operator) text).bind fun r => r.2.close?.map (r.1 ++ ·)

/-! ### Stretches of text -/

@[simp] theorem feed_nil (st : State) : feed st [] = some ([], st) := rfl

/-- **Stretches of text are read one after the other.** -/
theorem feed_append {st st₁ st₂ : State} {cs ds : List Char} {ts us : List Token}
    (first : feed st cs = some (ts, st₁)) (second : feed st₁ ds = some (us, st₂)) :
    feed st (cs ++ ds) = some (ts ++ us, st₂) := by
  induction cs generalizing st ts with
  | nil =>
      rw [feed_nil, Option.some.injEq, Prod.mk.injEq] at first
      obtain ⟨rfl, rfl⟩ := first
      exact second
  | cons c cs ih =>
      simp only [feed, Option.bind_eq_some_iff, Option.map_eq_some_iff] at first
      obtain ⟨⟨here, st'⟩, hstep, ⟨later, st''⟩, hrest, hpair⟩ := first
      rw [Prod.mk.injEq] at hpair
      obtain ⟨rfl, rfl⟩ := hpair
      rw [List.cons_append, feed, hstep, Option.bind_some, ih hrest, Option.map_some,
        List.append_assoc]

/-- A literal text is read as its characters. -/
theorem feed_literal {st : State} {cs : List Char} {r : Option (List Token × State)}
    (h : feed st cs = r) : feed st (String.ofList cs).toList = r := by
  rw [String.toList_ofList]
  exact h

/-- Characters that leave the machine inside a token are only collected. -/
theorem feed_collect (wrap : List Char → State) (ok : Char → Prop)
    (hstep : ∀ cs c, ok c → step (wrap cs) c = some ([], wrap (c :: cs))) (cs : List Char) :
    ∀ acc : List Char, (∀ c ∈ cs, ok c) →
      feed (wrap acc) cs = some ([], wrap (cs.reverse ++ acc)) := by
  induction cs with
  | nil =>
      intro acc _
      rfl
  | cons c cs ih =>
      intro acc h
      have hrest := ih (c :: acc) fun d hd => h d (List.mem_cons_of_mem c hd)
      rw [feed, hstep acc c (h c List.mem_cons_self), Option.bind_some, hrest, List.reverse_cons,
        List.append_assoc]
      rfl

/-! ### Literals and remarks -/

/-- Whether a character may stand between quotes without an escape. -/
def IsQuotable (c : Char) : Prop := c ≠ '\"' ∧ c ≠ '\\' ∧ Glob.isLineTerminator c = false

instance (c : Char) : Decidable (IsQuotable c) :=
  inferInstanceAs (Decidable (c ≠ '\"' ∧ c ≠ '\\' ∧ Glob.isLineTerminator c = false))

/-- Whether a text may stand between quotes without an escape. -/
def IsQuotableText (s : String) : Prop := ∀ c ∈ s.toList, IsQuotable c

instance (s : String) : Decidable (IsQuotableText s) := List.decidableBAll _ _

theorem feed_quoted (s : String) (h : IsQuotableText s) :
    feed (.quoted []) s.toList = some ([], .quoted s.toList.reverse) := by
  have hall : feed (.quoted []) s.toList = some ([], .quoted (s.toList.reverse ++ [])) := by
    refine feed_collect .quoted IsQuotable ?_ s.toList [] h
    intro acc c hc
    rw [step, if_neg hc.1, if_neg]
    rintro (h | h)
    · exact hc.2.1 h
    · rw [hc.2.2] at h
      exact absurd h (by decide)
  rw [hall, List.append_nil]

/-- A quote ends the text before it. -/
theorem feed_quoted_close (s : String) {cs : List Char} {ts : List Token} {st : State}
    (h : feed (.gap .value) cs = some (ts, st)) :
    feed (.quoted s.toList.reverse) ('\"' :: cs) = some (.text s :: ts, st) := by
  rw [feed, step, if_pos rfl, Option.bind_some, h, List.reverse_reverse, String.ofList_toList]
  rfl

theorem feed_remark (before : Before) (cs : List Char)
    (h : ∀ c ∈ cs, Glob.isLineTerminator c = false) :
    feed (.remark before) cs = some ([], .remark before) := by
  refine feed_collect (fun _ => .remark before) (Glob.isLineTerminator · = false) ?_ cs [] h
  intro _ c hc
  rw [step, hc]
  rfl

/-- A plain character of a regular expression stands for itself in a script too. -/
theorem stepRegex_plain (acc : List Char) {c : Char} (h : RegexText.IsPlain c) :
    stepRegex acc .outside c = some ([], .regex (c :: acc) .outside) := by
  have hslash : c ≠ '/' := Pattern.ne_of_admits h.1 (by decide)
  have hescape : c ≠ '\\' := Pattern.ne_of_admits h.1 (by decide)
  have hclass : c ≠ '[' := Pattern.ne_of_admits h.1 (by decide)
  rw [stepRegex, Pattern.isLineTerminator_of_admits h.1, if_neg (by decide)]
  simp only [if_neg hslash, if_neg hescape, if_neg hclass]

/-- A term of a regular expression cannot end the literal. -/
theorem feed_term (t : Regex.Term) (h : ∀ c, t = .char c → RegexText.IsPlain c) (acc : List Char) :
    feed (.regex acc .outside) t.chars = some ([], .regex (t.chars.reverse ++ acc) .outside) := by
  cases t with
  | char c =>
      by_cases hdot : c = '.'
      · subst hdot
        rfl
      · rw [Regex.Term.chars, if_neg hdot, feed, step, stepRegex_plain acc (h c rfl)]
        rfl
  | inLine => rfl
  | inLines => rfl

/-- **The characters of a regular expression stay inside its slashes.** -/
theorem feed_regex (r : Regex) :
    ∀ acc : List Char, RegexText.HasPlainChars r →
      feed (.regex acc .outside) r.chars = some ([], .regex (r.chars.reverse ++ acc) .outside) := by
  induction r with
  | nil =>
      intro acc _
      rfl
  | cons t r ih =>
      intro acc h
      obtain ⟨ht, hr⟩ := RegexText.hasPlainChars_cons h
      have hall := feed_append (feed_term t ht acc) (ih (t.chars.reverse ++ acc) hr)
      rw [Regex.chars_cons, hall, List.reverse_append, List.append_assoc]
      rfl

end HostRouting.Script
