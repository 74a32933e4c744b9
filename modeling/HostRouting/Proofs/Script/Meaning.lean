/-
**The meaning of a script.**

A program runs by calls of its function `FindProxyForURL`, each with a URL and a host.  Its records
live from call to call, its variables for one call.  Where the language would raise an error,
convert a value or leave the part that is understood, there is no meaning at all; texts are compared
by their 16-bit units, and `||` gives the first operand that counts as true, or else the last.

Main definitions:

* `Script.Value`, `Script.Records` — what variables and records hold;
* `Script.Term.eval`, `Script.Code.exec`, `Script.Function.call` — terms, statements, one call;
* `Script.answers` — what the text of a script answers to a list of calls;
* `Script.meaning?` — what a text means as a condition on a host.

Main results:

* `Script.same?_text`, `Script.method?_endsWith` — what units say of texts, they say of characters;
* `Script.answersFrom_eq` — an invariant of the records gives the answers to all calls.
-/

import HostRouting.Proofs.Script.Syntax
import HostRouting.Proofs.Text.SuffixCode

set_option autoImplicit false

namespace HostRouting.Script

/-! ### Values -/

/-- A value; regular expressions are objects, and no two are compared here. -/
inductive Value where
  | undefined
  | bool (b : Bool)
  | text (s : String)
  | regex (ps : List RegexText.Part)
  deriving DecidableEq, Repr

namespace Value

/-- Whether a value counts as true. -/
def isTruthy : Value → Bool
  | .undefined => false
  | .bool b => b
  | .text s => !s.isEmpty
  | .regex _ => true

/-- Whether two values are strictly equal. -/
def same? : Value → Value → Option Bool
  | .regex _, .regex _ => none
  | .text s, .text t => some (Utf16.units s.toList == Utf16.units t.toList)
  | v, w => some (v == w)

/-- The key that a value is. -/
def key? : Value → Option String
  | .text s => some s
  | _ => none

/-- The result of a method. -/
def method? (f : String) : Value → Value → Option Value
  | .text s, .text t =>
      if f = "endsWith" then some (.bool ((Utf16.units t.toList).isSuffixOf (Utf16.units s.toList)))
      else none
  | .regex ps, .text t => if f = "test" then some (.bool (RegexText.test ps t.toList)) else none
  | _, _ => none

end Value

/-- Variables with their values, the last assigned first. -/
abbrev Locals := List (String × Value)

/-- Records with their entries, the last put first. -/
abbrev Records := List (String × List (String × Value))

/-- The records after an entry is put into one of them. -/
def Records.put? (rs : Records) (record key : String) (v : Value) : Option Records :=
  (rs.lookup record).map fun es => (record, (key, v) :: es) :: rs

/-! ### Terms and statements -/

/-- The value of a term. -/
def Term.eval (ls : Locals) (rs : Records) : Term → Option Value
  | .name x => ls.lookup x
  | .bool b => some (.bool b)
  | .text s => some (.text s)
  | .regex ps => some (.regex ps)
  | .not a => (a.eval ls rs).map fun v => .bool (!v.isTruthy)
  | .or a b => (a.eval ls rs).bind fun v => if v.isTruthy then some v else b.eval ls rs
  | .same a b =>
      (a.eval ls rs).bind fun v => (b.eval ls rs).bind fun w => (v.same? w).map Value.bool
  | .has record key =>
      ((key.eval ls rs).bind Value.key?).bind fun k =>
        (rs.lookup record).map fun es => .bool (es.lookup k).isSome
  | .entry record key =>
      ((key.eval ls rs).bind Value.key?).bind fun k =>
        (rs.lookup record).map fun es => (es.lookup k).getD .undefined
  | .method a f b =>
      (a.eval ls rs).bind fun v => (b.eval ls rs).bind fun w => Value.method? f v w
  | .choice c a b =>
      (c.eval ls rs).bind fun v => if v.isTruthy then a.eval ls rs else b.eval ls rs

/-- Where statements lead: variables and records, and the value returned if they return. -/
structure Outcome where
  locals : Locals
  records : Records
  returned : Option Value
  deriving DecidableEq, Repr

/-- Runs statements. -/
def Code.exec : Code → Locals → Records → Option Outcome
  | .done, ls, rs => some ⟨ls, rs, none⟩
  | .declare x e next, ls, rs => (e.eval ls rs).bind fun v => next.exec ((x, v) :: ls) rs
  | .when c body next, ls, rs =>
      (c.eval ls rs).bind fun v =>
        if v.isTruthy then
          (body.exec ls rs).bind fun o =>
            match o.returned with
            | some _ => some o
            | none => next.exec o.locals o.records
        else next.exec ls rs
  | .give e _, ls, rs => (e.eval ls rs).map fun v => ⟨ls, rs, some v⟩
  | .put record key e next, ls, rs =>
      ((key.eval ls rs).bind Value.key?).bind fun k =>
        (e.eval ls rs).bind fun v => (rs.put? record k v).bind fun rs => next.exec ls rs

/-- Parameters with their arguments; a missing argument is undefined. -/
def boundTo : List String → List Value → Locals
  | [], _ => []
  | x :: xs, [] => (x, .undefined) :: boundTo xs []
  | x :: xs, v :: vs => (x, v) :: boundTo xs vs

/-- Calls a function; gives its value and the records after the call. -/
def Function.call (f : Function) (args : List Value) (rs : Records) : Option (Value × Records) :=
  (f.body.exec (boundTo f.params args) rs).map fun o => (o.returned.getD .undefined, o.records)

/-! ### Calls -/

namespace Program

/-- The records of a program that has just been read: all empty. -/
def fresh (p : Program) : Records := p.records.map fun x => (x, [])

/-- The answer to a call, which has to be a text, and the records after it. -/
def answer? (p : Program) (rs : Records) (call : String × String) : Option (String × Records) :=
  (p.functions.lookup "FindProxyForURL").bind fun f =>
    (f.call [.text call.1, .text call.2] rs).bind fun r => r.1.key?.map fun s => (s, r.2)

/-- The answers to calls one after the other. -/
def answersFrom (p : Program) : Records → List (String × String) → Option (List String)
  | _, [] => some []
  | rs, call :: calls =>
      (p.answer? rs call).bind fun r => (p.answersFrom r.2 calls).map (r.1 :: ·)

end Program

/-- What the text of a script answers to calls, each with a URL and a host, after it is loaded. -/
def answers (text : String) (calls : List (String × String)) : Option (List String) :=
  ((tokens? text.toList).bind program?).bind fun p => p.answersFrom p.fresh calls

/-- What a text means as a condition on the variable `host`. -/
def meaning? (text host : String) : Option Value :=
  ((tokens? text.toList).bind term?).bind fun e => e.eval [("host", .text host)] []

/-! ### Texts -/

/-- Texts are the same iff their units are. -/
theorem units_beq (s t : String) :
    (Utf16.units s.toList == Utf16.units t.toList) = (s == t) := by
  rw [Bool.eq_iff_iff, beq_iff_eq, beq_iff_eq]
  constructor
  · intro h
    -- each of the two texts ends the other
    have hst : s.toList <:+ t.toList := Utf16.units_suffix_iff.1 (h ▸ List.suffix_refl _)
    have hts : t.toList <:+ s.toList := Utf16.units_suffix_iff.1 (h ▸ List.suffix_refl _)
    exact String.toList_inj.1 (hst.eq_of_length (Nat.le_antisymm hst.length_le hts.length_le))
  · rintro rfl
    rfl

theorem same?_text (s t : String) : Value.same? (.text s) (.text t) = some (s == t) :=
  congrArg some (units_beq s t)

theorem method?_endsWith (s t : String) :
    Value.method? "endsWith" (.text s) (.text t)
      = some (.bool (t.toList.isSuffixOf s.toList)) := by
  have h : (Utf16.units t.toList).isSuffixOf (Utf16.units s.toList)
      = t.toList.isSuffixOf s.toList := by
    rw [Bool.eq_iff_iff, List.isSuffixOf_iff_suffix, List.isSuffixOf_iff_suffix,
      Utf16.units_suffix_iff]
  rw [Value.method?, if_pos rfl, h]

/-! ### Runs of statements -/

theorem exec_when_give {c e : Term} {next : Code} {ls : Locals} {rs : Records} {v w : Value}
    (hc : c.eval ls rs = some v) (hv : v.isTruthy = true) (he : e.eval ls rs = some w) :
    (Code.when c (.give e .done) next).exec ls rs = some ⟨ls, rs, some w⟩ := by
  rw [Code.exec, hc, Option.bind_some, if_pos hv, Code.exec, he, Option.map_some, Option.bind_some]

theorem exec_when_skip {c : Term} {body next : Code} {ls : Locals} {rs : Records} {v : Value}
    (hc : c.eval ls rs = some v) (hv : v.isTruthy = false) :
    (Code.when c body next).exec ls rs = next.exec ls rs := by
  rw [Code.exec, hc, Option.bind_some, hv]
  rfl

theorem exec_declare {x : String} {e : Term} {next : Code} {ls : Locals} {rs : Records} {v : Value}
    (he : e.eval ls rs = some v) :
    (Code.declare x e next).exec ls rs = next.exec ((x, v) :: ls) rs := by
  rw [Code.exec, he, Option.bind_some]

/-! ### Runs of calls -/

/-- **An invariant of the records gives the answers to all calls.** -/
theorem answersFrom_eq (p : Program) (I : Records → Prop) (result : String → String)
    (hstep : ∀ rs call, I rs → ∃ rs', p.answer? rs call = some (result call.2, rs') ∧ I rs')
    (calls : List (String × String)) :
    ∀ rs : Records, I rs → p.answersFrom rs calls = some (calls.map fun call => result call.2) := by
  induction calls with
  | nil =>
      intro rs _
      rfl
  | cons call calls ih =>
      intro rs hrs
      obtain ⟨rs', hanswer, hrs'⟩ := hstep rs call hrs
      rw [Program.answersFrom, hanswer, Option.bind_some, ih rs' hrs', Option.map_some,
        List.map_cons]

end HostRouting.Script
