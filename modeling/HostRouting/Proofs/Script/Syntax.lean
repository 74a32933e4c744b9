/-
**The syntax of a script.**

The tokens of a script are read as a program by recursive descent, one function for all the levels
of precedence.  The language is the part that scripts need: records without a prototype and
functions at the top; in functions variables, conditions, answers and entries of records; in terms
the operators that bind weaker than a call, and at most one call or entry after a value.  Everything
else is refused, so a text that is read means in the whole language what it means here.

Main definitions:

* `Script.Term`, `Script.Code`, `Script.Program` — terms, the statements of a function, programs;
* `Script.term`, `Script.code`, `Script.program` — their readers, with a bound on the depth;
* `Script.term?`, `Script.program?` — the term or program that all tokens of a text form.

Main results:

* `Script.term_either_cons`, `Script.term_choice_of_either` — a sum of conditions is read operand by
  operand;
* `Script.code_declare`, `Script.code_when` — rules of statements that hold a term read elsewhere;
* `Script.program_record`, `Script.program_function` — one rule for each kind of item at the top.
-/

import HostRouting.Proofs.Script.Token

set_option autoImplicit false

namespace HostRouting.Script

/-! ### Programs -/

/-- A term. -/
inductive Term where
  | name (x : String)
  | bool (b : Bool)
  | text (s : String)
  | regex (ps : List RegexText.Part)
  | not (a : Term)
  | or (a b : Term)
  | same (a b : Term)
  /-- Whether a record has a key. -/
  | has (record : String) (key : Term)
  /-- What a record has under a key. -/
  | entry (record : String) (key : Term)
  /-- A method of a value, applied to one value. -/
  | method (a : Term) (f : String) (b : Term)
  | choice (c a b : Term)
  deriving DecidableEq, Repr

/-- The statements of a block, each with those after it. -/
inductive Code where
  | done
  | declare (x : String) (e : Term) (next : Code)
  | when (c : Term) (body next : Code)
  | give (e : Term) (next : Code)
  | put (record : String) (key value : Term) (next : Code)
  deriving DecidableEq, Repr

/-- A function. -/
structure Function where
  params : List String
  body : Code
  deriving DecidableEq, Repr

/-- A program: the names of its records, and its functions, the last one first. -/
structure Program where
  records : List String
  functions : List (String × Function)
  deriving DecidableEq, Repr

/-- The variables that code declares. -/
def Code.declared : Code → List String
  | .done => []
  | .declare x _ next => x :: next.declared
  | .when _ body next => body.declared ++ next.declared
  | .give _ next => next.declared
  | .put _ _ _ next => next.declared

/-- The names that a function gives to itself and to its variables. -/
def Function.names (f : String × Function) : List String :=
  f.1 :: f.2.params ++ f.2.body.declared

/-- Whether no other name hides a record or the maker of records. -/
def Program.isClear (p : Program) : Bool :=
  !p.records.contains "Object" &&
    p.functions.all fun f =>
      (Function.names f).all fun x => !p.records.contains x && x != "Object"

/-! ### Terms -/

/-- The levels of precedence, the weakest first. -/
inductive Level where
  /-- A choice between two terms. -/
  | choice
  /-- A sum of conditions. -/
  | either
  /-- A comparison. -/
  | compared
  /-- A negation. -/
  | negated
  /-- A value with a call or an entry after it. -/
  | applied
  /-- A value on its own. -/
  | single
  deriving DecidableEq, Repr

/-- The tokens after a mark that has to come next. -/
def after? (m : Mark) : List Token → Option (List Token)
  | .mark m' :: ts => if m = m' then some ts else none
  | _ => none

/-- Reads a term of a level; gives it and the tokens after it.  Sums are read from the right, which
makes no difference to their value. -/
def term : Nat → Level → List Token → Option (Term × List Token)
  | 0, _, _ => none
  | fuel + 1, .choice, ts =>
      (term fuel .either ts).bind fun r =>
        match r.2 with
        | .mark .question :: ts =>
            (term fuel .choice ts).bind fun a =>
              (after? .colon a.2).bind fun ts =>
                (term fuel .choice ts).map fun b => (.choice r.1 a.1 b.1, b.2)
        | _ => some r
  | fuel + 1, .either, ts =>
      (term fuel .compared ts).bind fun r =>
        match r.2 with
        | .mark .or :: ts => (term fuel .either ts).map fun b => (.or r.1 b.1, b.2)
        | _ => some r
  | fuel + 1, .compared, ts =>
      (term fuel .negated ts).bind fun r =>
        match r.2 with
        | .mark .same :: ts => (term fuel .negated ts).map fun b => (.same r.1 b.1, b.2)
        | .keyword .within :: .name record :: ts => some (.has record r.1, ts)
        | _ => some r
  | fuel + 1, .negated, ts =>
      match ts with
      | .mark .not :: ts => (term fuel .negated ts).map fun a => (.not a.1, a.2)
      | ts => term fuel .applied ts
  | fuel + 1, .applied, ts =>
      match ts with
      -- only records are looked into, so the name in front of a bracket must be one
      | .name record :: .mark .bracketOpen :: ts =>
          (term fuel .choice ts).bind fun key =>
            (after? .bracketClose key.2).map fun ts => (.entry record key.1, ts)
      | ts =>
          (term fuel .single ts).bind fun r =>
            match r.2 with
            | .mark .dot :: .name f :: .mark .parenOpen :: ts =>
                (term fuel .choice ts).bind fun b =>
                  (after? .parenClose b.2).map fun ts => (.method r.1 f b.1, ts)
            | _ => some r
  | fuel + 1, .single, ts =>
      match ts with
      | .name x :: ts => some (.name x, ts)
      | .text s :: ts => some (.text s, ts)
      | .keyword .yes :: ts => some (.bool true, ts)
      | .keyword .no :: ts => some (.bool false, ts)
      | .regex body flags :: ts =>
          if flags = ['u'] then (RegexText.read? body).map fun ps => (.regex ps, ts) else none
      | .mark .parenOpen :: ts =>
          (term fuel .choice ts).bind fun r => (after? .parenClose r.2).map fun ts => (r.1, ts)
      | _ => none

/-- A bound on the depth that suffices for some tokens: more than all levels for each of them. -/
def depth (ts : List Token) : Nat := 8 * ts.length + 40

/-- The term that all tokens form. -/
def term? (ts : List Token) : Option Term :=
  (term (depth ts) .choice ts).bind fun r => if r.2.isEmpty then some r.1 else none

/-! ### Statements -/

/-- Reads the statements of a block up to its closing brace; gives them and the tokens after it. -/
def code : Nat → List Token → Option (Code × List Token)
  | 0, _ => none
  | fuel + 1, ts =>
      match ts with
      | .mark .braceClose :: ts => some (.done, ts)
      | .keyword .declare :: .name x :: .mark .assign :: ts =>
          (term fuel .choice ts).bind fun e => (after? .semicolon e.2).bind fun ts =>
            (code fuel ts).map fun next => (.declare x e.1 next.1, next.2)
      | .keyword .when :: .mark .parenOpen :: ts =>
          (term fuel .choice ts).bind fun c => (after? .parenClose c.2).bind fun ts =>
            (after? .braceOpen ts).bind fun ts =>
              (code fuel ts).bind fun body =>
                (code fuel body.2).map fun next => (.when c.1 body.1 next.1, next.2)
      | .keyword .give :: ts =>
          (term fuel .choice ts).bind fun e => (after? .semicolon e.2).bind fun ts =>
            (code fuel ts).map fun next => (.give e.1 next.1, next.2)
      | .name record :: .mark .bracketOpen :: ts =>
          (term fuel .choice ts).bind fun key => (after? .bracketClose key.2).bind fun ts =>
            (after? .assign ts).bind fun ts =>
              (term fuel .choice ts).bind fun value => (after? .semicolon value.2).bind fun ts =>
                (code fuel ts).map fun next => (.put record key.1 value.1 next.1, next.2)
      | _ => none

/-- Reads the names of parameters up to the closing parenthesis. -/
def params : List Token → Option (List String × List Token)
  | .name x :: .mark .parenClose :: ts => some ([x], ts)
  | .name x :: .mark .comma :: ts => (params ts).map fun r => (x :: r.1, r.2)
  | _ => none

/-- Reads a program.  A record is made by `Object.create(null)`, so it has no prototype. -/
def program : Nat → List Token → Option Program
  | 0, _ => none
  | fuel + 1, ts =>
      match ts with
      | [] => some ⟨[], []⟩
      | .keyword .declare :: .name x :: .mark .assign :: .name maker :: .mark .dot :: .name f ::
          .mark .parenOpen :: .keyword .null :: .mark .parenClose :: .mark .semicolon :: ts =>
          if maker = "Object" ∧ f = "create" then
            (program fuel ts).map fun p => ⟨x :: p.records, p.functions⟩
          else none
      | .keyword .define :: .name f :: .mark .parenOpen :: ts =>
          (params ts).bind fun ps => (after? .braceOpen ps.2).bind fun ts =>
            (code fuel ts).bind fun body =>
              (program fuel body.2).map fun p =>
                ⟨p.records, p.functions ++ [(f, ⟨ps.1, body.1⟩)]⟩
      | _ => none

/-- The program that all tokens form, if its names are clear. -/
def program? (ts : List Token) : Option Program :=
  (program (depth ts) ts).filter Program.isClear

/-! ### Rules of terms -/

/-- Where a condition may end: at a closing parenthesis, at the end of a statement or at the end of
the tokens. -/
inductive EndsSum : List Token → Prop where
  | nil : EndsSum []
  | close (ts : List Token) : EndsSum (.mark .parenClose :: ts)
  | semicolon (ts : List Token) : EndsSum (.mark .semicolon :: ts)

/-- Where an operand of a sum may end. -/
inductive EndsOperand : List Token → Prop where
  | sum {ts : List Token} (h : EndsSum ts) : EndsOperand ts
  | or (ts : List Token) : EndsOperand (.mark .or :: ts)

theorem term_either_last {fuel : Nat} {ts rest : List Token} {e : Term}
    (h : term fuel .compared ts = some (e, rest)) (hrest : EndsSum rest) :
    term (fuel + 1) .either ts = some (e, rest) := by
  have heither : term (fuel + 1) .either ts = (term fuel .compared ts).bind _ := rfl
  rw [heither, h, Option.bind_some]
  cases hrest <;> rfl

theorem term_either_cons {fuel : Nat} {ts us rest : List Token} {a b : Term}
    (ha : term fuel .compared ts = some (a, .mark .or :: us))
    (hb : term fuel .either us = some (b, rest)) :
    term (fuel + 1) .either ts = some (.or a b, rest) := by
  have heither : term (fuel + 1) .either ts = (term fuel .compared ts).bind _ := rfl
  rw [heither, ha, Option.bind_some]
  simp only [hb, Option.map_some]

theorem term_choice_of_either {fuel : Nat} {ts rest : List Token} {e : Term}
    (h : term fuel .either ts = some (e, rest)) (hrest : EndsSum rest) :
    term (fuel + 1) .choice ts = some (e, rest) := by
  have hchoice : term (fuel + 1) .choice ts = (term fuel .either ts).bind _ := rfl
  rw [hchoice, h, Option.bind_some]
  cases hrest <;> rfl

theorem term_compared_of_negated {fuel : Nat} {ts rest : List Token} {e : Term}
    (h : term fuel .negated ts = some (e, rest)) (hrest : EndsOperand rest) :
    term (fuel + 1) .compared ts = some (e, rest) := by
  have hcompared : term (fuel + 1) .compared ts = (term fuel .negated ts).bind _ := rfl
  rw [hcompared, h, Option.bind_some]
  cases hrest with
  | sum h => cases h <;> rfl
  | or ts => rfl

/-- A regular expression with a method applied to it. -/
theorem term_applied_regex {fuel : Nat} {body : List Char} {ps : List RegexText.Part} {f : String}
    {ts rest : List Token} {b : Term} (hread : RegexText.read? body = some ps)
    (hb : term (fuel + 1) .choice ts = some (b, .mark .parenClose :: rest)) :
    term (fuel + 2) .applied
        (.regex body ['u'] :: .mark .dot :: .name f :: .mark .parenOpen :: ts)
      = some (.method (.regex ps) f b, rest) := by
  have hsingle (us : List Token) :
      term (fuel + 1) .single (.regex body ['u'] :: us) = some (.regex ps, us) := by
    have hregex : term (fuel + 1) .single (.regex body ['u'] :: us)
        = (RegexText.read? body).map fun ps => (.regex ps, us) := rfl
    rw [hregex, hread, Option.map_some]
  have happlied : term (fuel + 2) .applied
      (.regex body ['u'] :: .mark .dot :: .name f :: .mark .parenOpen :: ts)
        = (term (fuel + 1) .single _).bind _ := rfl
  have hmethod : term (fuel + 2) .applied
      (.regex body ['u'] :: .mark .dot :: .name f :: .mark .parenOpen :: ts)
        = (term (fuel + 1) .choice ts).bind fun b =>
            (after? .parenClose b.2).map fun ts => (.method (.regex ps) f b.1, ts) := by
    rw [happlied, hsingle, Option.bind_some]
  rw [hmethod, hb, Option.bind_some]
  rfl

/-- A test by a regular expression, as an operand. -/
theorem term_compared_regex {fuel : Nat} {body : List Char} {ps : List RegexText.Part}
    {f x : String} {rest : List Token} (hread : RegexText.read? body = some ps)
    (hrest : EndsOperand rest) :
    term (fuel + 16) .compared
        (.regex body ['u'] :: .mark .dot :: .name f :: .mark .parenOpen :: .name x ::
          .mark .parenClose :: rest)
      = some (.method (.regex ps) f (.name x), rest) := by
  have hname : term (fuel + 13) .choice (.name x :: .mark .parenClose :: rest)
      = some (.name x, .mark .parenClose :: rest) := rfl
  have hnegated : term (fuel + 15) .negated
      (.regex body ['u'] :: .mark .dot :: .name f :: .mark .parenOpen :: .name x ::
        .mark .parenClose :: rest)
      = some (.method (.regex ps) f (.name x), rest) := term_applied_regex hread hname
  exact term_compared_of_negated hnegated hrest

/-- A term between parentheses, as an operand. -/
theorem term_compared_paren {fuel : Nat} {ts rest : List Token} {e : Term}
    (h : term fuel .choice ts = some (e, .mark .parenClose :: rest)) (hrest : EndsOperand rest) :
    term (fuel + 4) .compared (.mark .parenOpen :: ts) = some (e, rest) := by
  have hsingle : term (fuel + 1) .single (.mark .parenOpen :: ts) = some (e, rest) := by
    have hparen : term (fuel + 1) .single (.mark .parenOpen :: ts)
        = (term fuel .choice ts).bind fun r =>
            (after? .parenClose r.2).map fun ts => (r.1, ts) := rfl
    rw [hparen, h]
    rfl
  have hnegated : term (fuel + 3) .negated (.mark .parenOpen :: ts) = some (e, rest) := by
    have happlied : term (fuel + 3) .negated (.mark .parenOpen :: ts)
        = (term (fuel + 1) .single (.mark .parenOpen :: ts)).bind _ := rfl
    rw [happlied, hsingle, Option.bind_some]
    cases hrest with
    | sum h => cases h <;> rfl
    | or ts => rfl
  exact term_compared_of_negated hnegated hrest

/-! ### Rules of statements -/

theorem code_declare {fuel : Nat} {x : String} {ts us rest : List Token} {e : Term} {next : Code}
    (he : term fuel .choice ts = some (e, .mark .semicolon :: us))
    (hnext : code fuel us = some (next, rest)) :
    code (fuel + 1) (.keyword .declare :: .name x :: .mark .assign :: ts)
      = some (.declare x e next, rest) := by
  have hdeclare : code (fuel + 1) (.keyword .declare :: .name x :: .mark .assign :: ts)
      = (term fuel .choice ts).bind _ := rfl
  rw [hdeclare, he, Option.bind_some]
  simp only [after?, if_true, Option.bind_some, hnext, Option.map_some]

theorem code_when {fuel : Nat} {ts us vs rest : List Token} {c : Term} {body next : Code}
    (hc : term fuel .choice ts = some (c, .mark .parenClose :: .mark .braceOpen :: us))
    (hbody : code fuel us = some (body, vs)) (hnext : code fuel vs = some (next, rest)) :
    code (fuel + 1) (.keyword .when :: .mark .parenOpen :: ts)
      = some (.when c body next, rest) := by
  have hwhen : code (fuel + 1) (.keyword .when :: .mark .parenOpen :: ts)
      = (term fuel .choice ts).bind _ := rfl
  rw [hwhen, hc, Option.bind_some]
  simp only [after?, if_true, Option.bind_some, hbody, hnext, Option.map_some]

/-! ### Rules of programs -/

theorem program_record {fuel : Nat} {x : String} {ts : List Token} {p : Program}
    (h : program fuel ts = some p) :
    program (fuel + 1) (.keyword .declare :: .name x :: .mark .assign :: .name "Object" ::
        .mark .dot :: .name "create" :: .mark .parenOpen :: .keyword .null :: .mark .parenClose ::
        .mark .semicolon :: ts)
      = some ⟨x :: p.records, p.functions⟩ := by
  have hmade : program (fuel + 1) (.keyword .declare :: .name x :: .mark .assign ::
      .name "Object" :: .mark .dot :: .name "create" :: .mark .parenOpen :: .keyword .null ::
        .mark .parenClose :: .mark .semicolon :: ts)
      = if "Object" = "Object" ∧ "create" = "create" then
          (program fuel ts).map fun p => ⟨x :: p.records, p.functions⟩
        else none := rfl
  rw [hmade, if_pos ⟨rfl, rfl⟩, h, Option.map_some]

theorem program_function {fuel : Nat} {f : String} {xs : List String} {ts us vs : List Token}
    {body : Code} {p : Program} (hparams : params ts = some (xs, .mark .braceOpen :: us))
    (hbody : code fuel us = some (body, vs)) (hrest : program fuel vs = some p) :
    program (fuel + 1) (.keyword .define :: .name f :: .mark .parenOpen :: ts)
      = some ⟨p.records, p.functions ++ [(f, ⟨xs, body⟩)]⟩ := by
  have hdefine : program (fuel + 1) (.keyword .define :: .name f :: .mark .parenOpen :: ts)
      = (params ts).bind _ := rfl
  rw [hdefine, hparams, Option.bind_some]
  simp only [after?, if_true, Option.bind_some, hbody, hrest, Option.map_some]

end HostRouting.Script
