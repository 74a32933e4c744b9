/-
**Punycode.**

A label with characters outside ASCII is written in ASCII: first its ASCII characters, then, after a
hyphen, one number for each other character in increasing order of code points.  A number says how
many steps a walk over (code point, position) takes from the previous insertion to this one; it is
written in a mixed base whose thresholds follow a bias that adapts to the sizes of the numbers.

Main definitions:

* `Punycode.encode` — the ASCII form of a label, without the `xn--` mark;
* `Punycode.decode?` — the label of an ASCII form.
-/

set_option autoImplicit false

namespace HostRouting.Punycode

/-! ### Digits and bias -/

/-- The digit of value `n`: the letters stand for 0 to 25, the decimal digits for 26 to 35. -/
def digit (n : Nat) : Char := if n < 26 then Char.ofNat (0x61 + n) else Char.ofNat (0x30 + (n - 26))

/-- The value of a digit. -/
def value? (c : Char) : Option Nat :=
  if 'a' ≤ c ∧ c ≤ 'z' then some (c.toNat - 0x61)
  else if 'A' ≤ c ∧ c ≤ 'Z' then some (c.toNat - 0x41)
  else if '0' ≤ c ∧ c ≤ '9' then some (c.toNat - 0x30 + 26)
  else none

/-- The threshold of the digit at `k` (36, 72, …). -/
def threshold (k bias : Nat) : Nat := if k ≤ bias then 1 else if bias + 26 ≤ k then 26 else k - bias

/-- Counts how often `delta` is divided until it is small; gives that count and the quotient. -/
def shrink : Nat → Nat → Nat × Nat
  | 0, delta => (0, delta)
  | fuel + 1, delta =>
      if 455 < delta then
        let (count, rest) := shrink fuel (delta / 35)
        (count + 1, rest)
      else (0, delta)

/-- The bias after a number `delta` that was the `count`-th one; the `first` number is damped. -/
def adapt (delta count : Nat) (first : Bool) : Nat :=
  let damped := if first then delta / 700 else delta / 2
  let scaled := damped + damped / count
  let (rounds, rest) := shrink (scaled.log2 + 1) scaled
  rounds * 36 + 36 * rest / (rest + 38)

/-! ### Encoding -/

/-- The digits of a number from the position `k` on. -/
def digitsFrom : Nat → Nat → Nat → Nat → List Char
  | 0, _, _, _ => []
  | fuel + 1, bias, k, q =>
      let t := threshold k bias
      if q < t then [digit q]
      else digit (t + (q - t) % (36 - t)) :: digitsFrom fuel bias (k + 36) ((q - t) / (36 - t))

/-- The digits of a number under a bias. -/
def digits (bias q : Nat) : List Char := digitsFrom (q.log2 + 2) bias 36 q

/-- Where an encoding stands: the code point `next` that the walk has reached, the steps taken since
the last insertion, the bias, and how many characters are written, with the digits in reverse. -/
structure Walk where
  next : Nat
  delta : Nat
  bias : Nat
  written : Nat
  out : List Char

/-- Walks over the label once for the code point `w.next`; `basic` is the number of ASCII
characters. -/
def Walk.pass (basic : Nat) (w : Walk) : List Nat → Walk
  | [] => w
  | n :: ns =>
      if n < w.next then Walk.pass basic { w with delta := w.delta + 1 } ns
      else if n = w.next then
        Walk.pass basic
          { w with
            delta := 0
            bias := adapt w.delta (w.written + 1) (w.written == basic)
            written := w.written + 1
            out := (digits w.bias w.delta).reverse ++ w.out } ns
      else Walk.pass basic w ns

/-- Inserts the occurrences of the code point `n` of the label. -/
def Walk.insert (basic : Nat) (label : List Nat) (w : Walk) (n : Nat) : Walk :=
  let w := ({ w with
    delta := w.delta + (n - w.next) * (w.written + 1)
    next := n } : Walk).pass basic label
  { w with delta := w.delta + 1, next := w.next + 1 }

/-- The code points of a label outside ASCII, each once, in increasing order. -/
def wideCodes (label : List Nat) : List Nat :=
  ((label.filter (0x80 ≤ ·)).mergeSort (· ≤ ·)).eraseReps

/-- The ASCII form of a label. -/
def encode (label : List Char) : List Char :=
  let codes := label.map Char.toNat
  let basic := label.filter (·.toNat < 0x80)
  let start : Walk := ⟨0x80, 0, 72, basic.length, []⟩
  let walk := (wideCodes codes).foldl (Walk.insert basic.length codes) start
  basic ++ (if basic.isEmpty then [] else ['-']) ++ walk.out.reverse

/-! ### Decoding -/

/-- Reads one number; gives it and the rest of the text. -/
def number? (bias k weight sum : Nat) : List Char → Option (Nat × List Char)
  | [] => none
  | c :: cs => do
      let d ← value? c
      let t := threshold k bias
      let sum := sum + d * weight
      if d < t then some (sum, cs) else number? bias (k + 36) (weight * (36 - t)) sum cs

/-- Inserts the characters that the numbers of a text stand for; `fuel` bounds their count. -/
def insertAll : Nat → Nat → Nat → Nat → List Char → List Char → Option (List Char)
  | _, _, _, _, out, [] => some out
  | 0, _, _, _, _, _ => none
  | fuel + 1, next, last, bias, out, cs => do
      let (delta, rest) ← number? bias 36 1 0 cs
      let count := out.length + 1
      let place := last + delta
      let code := next + place / count
      guard (code < 0x110000 ∧ ¬ (0xD800 ≤ code ∧ code < 0xE000))
      let here := place % count
      insertAll fuel code (here + 1) (adapt delta count (last == 0))
        (out.insertIdx here (Char.ofNat code)) rest

/-- The ASCII characters of an ASCII form and its digits: what stands before and after its last
hyphen, unless that hyphen comes first or there is none. -/
def parts (cs : List Char) : List Char × List Char :=
  let tail := cs.reverse.takeWhile (· != '-')
  let head := cs.take (cs.length - tail.length - 1)
  if head.isEmpty then ([], cs) else (head, tail.reverse)

/-- The label of an ASCII form. -/
def decode? (cs : List Char) : Option (List Char) := do
  let (basic, numbers) := parts cs
  guard (basic.all (·.toNat < 0x80))
  insertAll numbers.length 0x80 0 72 basic numbers

end HostRouting.Punycode
