/-
**The meaning of the text of a regular expression.**

A script holds a regular expression as text, so what it means is what reading that text gives.  The
reader here knows the anchors, single characters, escapes, classes of excluded characters and the
star, and refuses every other text.  The matcher looks for a match from every position of the host,
a repeated part taking as much as it can and giving it back character by character; text is read by
code points.

Main definitions:

* `RegexText.Set`, `RegexText.Part` — the parts of a regular expression;
* `RegexText.read?` — the parts that a text stands for;
* `RegexText.test` — whether parts match somewhere in a text.

Main results:

* `RegexText.read?_anchored` — the text of a regular expression is read as its terms;
* `RegexText.test_anchored` — between anchors, terms match what the glob items take;
* `RegexText.test_ofGlob` — the text that means a glob tests exactly what the glob takes.
-/

import HostRouting.Proofs.Pattern.Parsed
import HostRouting.Proofs.Pattern.Pieces

set_option autoImplicit false

namespace HostRouting.RegexText

/-! ### Parts and matching -/

/-- The characters that may stand at one place. -/
inductive Set where
  /-- Just this character. -/
  | char (c : Char)
  /-- Every character but these. -/
  | allBut (cs : List Char)
  deriving DecidableEq, Repr

/-- Whether a set has a character. -/
def Set.has : Set → Char → Bool
  | .char d, c => c == d
  | .allBut cs, c => !cs.contains c

/-- A part of a regular expression. -/
inductive Part where
  /-- The beginning of the text. -/
  | begins
  /-- The end of the text. -/
  | ends
  /-- One character of a set. -/
  | one (s : Set)
  /-- Any number of characters of a set. -/
  | many (s : Set)
  deriving DecidableEq, Repr

/-- Whether a repeated set, and after it `next`, matches from here on; `first` says whether nothing
of the text lies before. -/
def Set.repeats (s : Set) (next : Bool → List Char → Bool) : Bool → List Char → Bool
  | first, [] => next first []
  | first, c :: cs => (s.has c && s.repeats next false cs) || next first (c :: cs)

/-- Whether parts match from here on; `first` says whether nothing of the text lies before. -/
def matchesHere : List Part → Bool → List Char → Bool
  | [], _, _ => true
  | .begins :: ps, first, cs => first && matchesHere ps first cs
  | .ends :: ps, first, cs => cs.isEmpty && matchesHere ps first cs
  | .one _ :: _, _, [] => false
  | .one s :: ps, _, c :: cs => s.has c && matchesHere ps false cs
  | .many s :: ps, first, cs => s.repeats (matchesHere ps) first cs

/-- Whether parts match from here or from a later place on. -/
def finds (ps : List Part) : Bool → List Char → Bool
  | first, [] => matchesHere ps first []
  | first, c :: cs => matchesHere ps first (c :: cs) || finds ps false cs

/-- Whether parts match somewhere in a text. -/
def test (ps : List Part) (text : List Char) : Bool := finds ps true text

/-! ### Reading -/

/-- The characters with a meaning of their own. -/
def syntaxChars : List Char := "^$\\.*+?()[]\x7b\x7d|".toList

/-- Where the reading of a regular expression stands. -/
inductive Reader where
  /-- Between two parts, the last of which may still be repeated. -/
  | between (parts : List Part) (last : Option Set)
  /-- After a backslash. -/
  | escape (parts : List Part)
  /-- After an opening bracket. -/
  | opened (parts : List Part)
  /-- Among the characters that a class excludes. -/
  | members (parts : List Part) (cs : List Char)
  /-- After a backslash among them. -/
  | memberEscape (parts : List Part) (cs : List Char)
  /-- After `count` of the four digits of a code point, which stand for `value`. -/
  | memberCode (parts : List Part) (cs : List Char) (count value : Nat)
  deriving DecidableEq, Repr

namespace Reader

/-- The parts read, with the last one. -/
def withLast (parts : List Part) (last : Option Set) : List Part :=
  parts ++ (last.map Part.one).toList

/-- Reads a character between two parts. -/
def stepBetween (parts : List Part) (last : Option Set) (c : Char) : Option Reader :=
  if c = '*' then last.map fun s => .between (parts ++ [.many s]) none
  else if c = '^' then some (.between (withLast parts last ++ [.begins]) none)
  else if c = '$' then some (.between (withLast parts last ++ [.ends]) none)
  else if c = '\\' then some (.escape (withLast parts last))
  else if c = '[' then some (.opened (withLast parts last))
  else if syntaxChars.contains c then none
  else some (.between (withLast parts last) (some (.char c)))

/-- Reads the character after a backslash in a class. -/
def stepMemberEscape (parts : List Part) (cs : List Char) (c : Char) : Option Reader :=
  if c = 'n' then some (.members parts (cs ++ ['\n']))
  else if c = 'r' then some (.members parts (cs ++ ['\r']))
  else if c = 'u' then some (.memberCode parts cs 0 0)
  else if syntaxChars.contains c || c == '/' || c == '-' then some (.members parts (cs ++ [c]))
  else none

/-- Reads a digit of a code point; only the four digits of a character that is no surrogate are
read. -/
def stepMemberCode (parts : List Part) (cs : List Char) (count value : Nat) (c : Char) :
    Option Reader :=
  (Text.digitValue? 16 c).bind fun d =>
    let value := 16 * value + d
    if count < 3 then some (.memberCode parts cs (count + 1) value)
    else if value.isValidChar then some (.members parts (cs ++ [Char.ofNat value]))
    else none

/-- Reads one more character, unless the text is not one of those that are understood. -/
def step : Reader → Char → Option Reader
  | .between parts last, c => stepBetween parts last c
  | .escape parts, c =>
      if syntaxChars.contains c || c == '/' then some (.between parts (some (.char c))) else none
  | .opened parts, c => if c = '^' then some (.members parts []) else none
  | .members parts cs, c =>
      if c = ']' then some (.between parts (some (.allBut cs)))
      else if c = '\\' then some (.memberEscape parts cs)
      else if c = '-' then none
      else some (.members parts (cs ++ [c]))
  | .memberEscape parts cs, c => stepMemberEscape parts cs c
  | .memberCode parts cs count value, c => stepMemberCode parts cs count value c

/-- The parts, if the text may end here. -/
def finished? : Reader → Option (List Part)
  | .between parts last => some (withLast parts last)
  | _ => none

end Reader

/-- The parts that a text stands for. -/
def read? (text : List Char) : Option (List Part) :=
  (text.foldlM Reader.step (.between [] none)).bind Reader.finished?

/-! ### Terms as parts -/

/-- The four line terminators, as the class of a term lists them. -/
def lineTerminators : List Char := ['\n', '\r', '\u2028', '\u2029']

/-- The part that a term is read as. -/
def ofTerm : Regex.Term → Part
  | .char c => .one (.char c)
  | .inLine => .one (.allBut lineTerminators)
  | .inLines => .many (.allBut lineTerminators)

/-- Whether a character stands for itself in a glob and may stand in a pattern. -/
def IsPlain (c : Char) : Prop := Pattern.admits c = true ∧ c ≠ '*' ∧ c ≠ '?'

/-- Whether the characters of a regular expression are plain. -/
def HasPlainChars (r : Regex) : Prop := ∀ c, Regex.Term.char c ∈ r → IsPlain c

theorem hasPlainChars_cons {t : Regex.Term} {r : Regex} (h : HasPlainChars (t :: r)) :
    (∀ c, t = .char c → IsPlain c) ∧ HasPlainChars r := by
  constructor
  · rintro c rfl
    exact h c List.mem_cons_self
  · intro c hc
    exact h c (List.mem_cons_of_mem t hc)

/-- The only plain character with a meaning of its own is the full stop. -/
theorem not_syntax_of_isPlain {c : Char} (h : IsPlain c) (hdot : c ≠ '.') : c ∉ syntaxChars := by
  intro hc
  -- of the characters with a meaning, patterns admit the full stop and the two signs of globs
  have hall : syntaxChars.all (fun d => d == '.' || d == '*' || d == '?' || !Pattern.admits d)
      = true := by decide
  have hone := List.all_eq_true.1 hall c hc
  simp only [Bool.or_eq_true, beq_iff_eq, Bool.not_eq_true', or_assoc] at hone
  rcases hone with rfl | rfl | rfl | hno
  · exact hdot rfl
  · exact h.2.1 rfl
  · exact h.2.2 rfl
  · exact Pattern.ne_of_admits h.1 hno rfl

theorem step_plain {parts : List Part} {last : Option Set} {c : Char} (h : IsPlain c)
    (hdot : c ≠ '.') :
    Reader.step (.between parts last) c
      = some (.between (Reader.withLast parts last) (some (.char c))) := by
  have hno := not_syntax_of_isPlain h hdot
  have hne : ∀ d ∈ syntaxChars, c ≠ d := by
    rintro d hd rfl
    exact hno hd
  rw [Reader.step, Reader.stepBetween, if_neg (hne '*' (by decide)), if_neg (hne '^' (by decide)),
    if_neg (hne '$' (by decide)), if_neg (hne '\\' (by decide)), if_neg (hne '[' (by decide)),
    if_neg (by simpa using hno)]

/-- The text of a term is read as its part, whatever was read before. -/
theorem foldlM_term (t : Regex.Term) (h : ∀ c, t = .char c → IsPlain c) (parts : List Part)
    (last : Option Set) :
    ∃ parts' last', t.chars.foldlM Reader.step (.between parts last) = some (.between parts' last')
      ∧ Reader.withLast parts' last' = Reader.withLast parts last ++ [ofTerm t] := by
  cases t with
  | char c =>
      by_cases hdot : c = '.'
      · subst hdot
        exact ⟨_, some (.char '.'), rfl, rfl⟩
      · refine ⟨_, some (.char c), ?_, rfl⟩
        simp only [Regex.Term.chars, if_neg hdot, List.foldlM_cons, List.foldlM_nil]
        rw [step_plain (h c rfl) hdot]
        rfl
  | inLine => exact ⟨_, some (.allBut lineTerminators), rfl, rfl⟩
  | inLines =>
      refine ⟨Reader.withLast parts last ++ [.many (.allBut lineTerminators)], none, rfl, ?_⟩
      simp [Reader.withLast, ofTerm]

theorem foldlM_chars (r : Regex) :
    ∀ (parts : List Part) (last : Option Set), HasPlainChars r →
      ∃ parts' last', r.chars.foldlM Reader.step (.between parts last)
          = some (.between parts' last')
        ∧ Reader.withLast parts' last' = Reader.withLast parts last ++ r.map ofTerm := by
  induction r with
  | nil =>
      intro parts last _
      exact ⟨parts, last, rfl, by simp⟩
  | cons t r ih =>
      intro parts last h
      obtain ⟨ht, hr⟩ := hasPlainChars_cons h
      obtain ⟨parts₁, last₁, hread₁, heq₁⟩ := foldlM_term t ht parts last
      obtain ⟨parts₂, last₂, hread₂, heq₂⟩ := ih parts₁ last₁ hr
      refine ⟨parts₂, last₂, ?_, ?_⟩
      · rw [Regex.chars_cons, List.foldlM_append, hread₁]
        exact hread₂
      · rw [heq₂, heq₁, List.map_cons, List.append_assoc, List.singleton_append]

/-- **The text of a regular expression, put between anchors, is read as its terms.** -/
theorem read?_anchored (r : Regex) (h : HasPlainChars r) :
    read? ('^' :: r.chars ++ ['$']) = some (.begins :: r.map ofTerm ++ [.ends]) := by
  obtain ⟨parts, last, hread, heq⟩ := foldlM_chars r [.begins] none h
  have hall : ('^' :: r.chars ++ ['$']).foldlM Reader.step (.between [] none)
      = some (.between (Reader.withLast parts last ++ [.ends]) none) := by
    rw [List.foldlM_append, List.foldlM_cons]
    have hbegin : Reader.step (.between [] none) '^' = some (.between [.begins] none) := rfl
    rw [hbegin, Option.bind_eq_bind, Option.bind_some, hread, Option.bind_some]
    rfl
  rw [read?, hall, Option.bind_some, Reader.finished?, heq]
  simp [Reader.withLast]

/-! ### Matching between anchors -/

theorem has_lineTerminators (c : Char) :
    (Set.allBut lineTerminators).has c = !Glob.isLineTerminator c := by
  simp only [Set.has, lineTerminators, Glob.isLineTerminator, List.contains_cons,
    List.contains_nil, Bool.or_false, Bool.or_assoc]

/-- A repeated set takes some characters of its own, and what follows matches after them. -/
theorem repeats_iff (s : Set) (next : Bool → List Char → Bool) (cs : List Char) :
    ∀ first : Bool, s.repeats next first cs = true ↔
      ∃ u v, cs = u ++ v ∧ (∀ c ∈ u, s.has c = true) ∧ next (first && u.isEmpty) v = true := by
  induction cs with
  | nil =>
      intro first
      rw [Set.repeats]
      constructor
      · intro h
        exact ⟨[], [], rfl, by simp, by simpa using h⟩
      · rintro ⟨u, v, heq, -, h⟩
        obtain ⟨rfl, rfl⟩ := List.append_eq_nil_iff.1 heq.symm
        simpa using h
  | cons c cs ih =>
      intro first
      rw [Set.repeats, Bool.or_eq_true, Bool.and_eq_true, ih]
      constructor
      · rintro (⟨hc, u, v, rfl, hu, h⟩ | h)
        · refine ⟨c :: u, v, rfl, ?_, by simpa using h⟩
          intro d hd
          rcases List.mem_cons.1 hd with rfl | hd
          · exact hc
          · exact hu d hd
        · exact ⟨[], c :: cs, rfl, by simp, by simpa using h⟩
      · rintro ⟨u, v, heq, hu, h⟩
        -- either the set takes nothing here, or at least this character
        cases u with
        | nil =>
            right
            rw [List.nil_append] at heq
            subst heq
            simpa using h
        | cons d u =>
            left
            obtain ⟨rfl, rfl⟩ := List.cons.inj heq
            exact ⟨hu c List.mem_cons_self, u, v, rfl,
              fun e he => hu e (List.mem_cons_of_mem c he), by simpa using h⟩

/-- The parts of glob items, up to the end of the text, match what the items take. -/
theorem matchesHere_iff (is : List Glob.Item) :
    ∀ (first : Bool) (cs : List Char),
      matchesHere (is.map (ofTerm ∘ Regex.Term.ofItem) ++ [.ends]) first cs = true
        ↔ Glob.Takes is cs := by
  induction is with
  | nil =>
      intro first cs
      simp [matchesHere]
  | cons i is ih =>
      intro first cs
      rw [List.map_cons, List.cons_append, Function.comp_apply, Glob.takes_cons]
      cases i with
      | literal d =>
          cases cs with
          | nil => simp [Regex.Term.ofItem, ofTerm, matchesHere, Glob.Item.Takes]
          | cons c cs =>
              simp only [Regex.Term.ofItem, ofTerm, matchesHere, Set.has, Bool.and_eq_true, ih,
                beq_iff_eq]
              constructor
              · rintro ⟨rfl, h⟩
                exact ⟨[c], cs, rfl, rfl, h⟩
              · rintro ⟨u, v, heq, rfl, h⟩
                obtain ⟨rfl, rfl⟩ := List.cons.inj heq
                exact ⟨rfl, h⟩
      | one =>
          cases cs with
          | nil =>
              simp only [Regex.Term.ofItem, ofTerm, matchesHere, Bool.false_eq_true, false_iff]
              rintro ⟨u, v, heq, ⟨c, rfl, -⟩, -⟩
              simp at heq
          | cons c cs =>
              simp only [Regex.Term.ofItem, ofTerm, matchesHere, has_lineTerminators,
                Bool.and_eq_true, ih, Bool.not_eq_true']
              constructor
              · rintro ⟨hc, h⟩
                exact ⟨[c], cs, rfl, ⟨c, rfl, hc⟩, h⟩
              · rintro ⟨u, v, heq, ⟨d, rfl, hd⟩, h⟩
                obtain ⟨rfl, rfl⟩ := List.cons.inj heq
                exact ⟨hd, h⟩
      | run =>
          simp only [Regex.Term.ofItem, ofTerm, matchesHere, repeats_iff, has_lineTerminators, ih,
            Bool.not_eq_true', Glob.Item.Takes]

/-- What is anchored to the beginning is found nowhere else. -/
theorem finds_begins_false (ps : List Part) (cs : List Char) :
    finds (.begins :: ps) false cs = false := by
  induction cs with
  | nil => rfl
  | cons c cs ih => rw [finds, ih, matchesHere]; rfl

theorem test_begins (ps : List Part) (cs : List Char) :
    test (.begins :: ps) cs = matchesHere ps true cs := by
  cases cs with
  | nil => rfl
  | cons c cs => rw [test, finds, finds_begins_false, matchesHere, Bool.true_and, Bool.or_false]

/-- **Between anchors, the parts of a glob match what the glob takes.** -/
theorem test_anchored (source text : List Char) :
    test (.begins :: (Regex.ofGlob source).map ofTerm ++ [.ends]) text
      = Glob.accepts source text := by
  rw [List.cons_append, test_begins, Bool.eq_iff_iff, Regex.ofGlob, List.map_map, matchesHere_iff,
    Glob.accepts_iff]

/-! ### Globs -/

theorem hasPlainChars_ofGlob {source : List Char}
    (h : ∀ c ∈ source, Pattern.admits c = true) : HasPlainChars (Regex.ofGlob source) := by
  intro c hc
  simp only [Regex.ofGlob, Glob.items, List.map_map, List.mem_map, Function.comp_apply] at hc
  obtain ⟨d, hd, hterm⟩ := hc
  simp only [Glob.Item.ofChar] at hterm
  split at hterm
  · simp [Regex.Term.ofItem] at hterm
  · rename_i hstar
    split at hterm
    · simp [Regex.Term.ofItem] at hterm
    · rename_i hmark
      simp only [Regex.Term.ofItem, Regex.Term.char.injEq] at hterm
      subst hterm
      exact ⟨h d hd, hstar, hmark⟩

/-- **The anchored text that means a glob tests exactly what the glob takes.** -/
theorem test_ofGlob {source : List Char} (h : ∀ c ∈ source, Pattern.admits c = true) :
    ∃ parts, read? ('^' :: (Regex.ofGlob source).chars ++ ['$']) = some parts ∧
      ∀ text, test parts text = Glob.accepts source text :=
  ⟨_, read?_anchored _ (hasPlainChars_ofGlob h), test_anchored source⟩

end HostRouting.RegexText
