/-
**Conditions of a script.**

A script decides by a condition on the variable `host`.  Every pattern gives one, and the condition
of a rule set holds if one of its patterns does.  A pattern is embedded only if its text is valid,
so that no text can end the literal that it stands in.

Main definitions:

* `Script.Expr` — conditions, with `Script.Expr.text`;
* `Script.condition?` — the condition of a pattern;
* `Script.matched` — the condition of a rule set.
-/

import HostRouting.Rules.RuleSet

set_option autoImplicit false

namespace HostRouting.Script

/-- A condition on the variable `host`. -/
inductive Expr where
  /-- Nothing satisfies it. -/
  | never
  /-- The host is this text. -/
  | equals (s : String)
  /-- The host ends in this text. -/
  | endsWith (s : String)
  /-- The whole host satisfies a regular expression. -/
  | test (r : Regex)
  /-- One of the two holds. -/
  | or (a b : Expr)
  /-- The condition between the parentheses holds. -/
  | paren (e : Expr)
  deriving DecidableEq, Repr

namespace Expr

/-- The text of a condition. -/
def text : Expr → String
  | .never => "false"
  | .equals s => "host === \"" ++ s ++ "\""
  | .endsWith s => "host.endsWith(\"" ++ s ++ "\")"
  | .test r => "/^" ++ r.text ++ "$/u.test(host)"
  | .or a b => a.text ++ " || " ++ b.text
  | .paren e => "(" ++ e.text ++ ")"

/-- The condition that one of several holds. -/
def anyOf : List Expr → Expr
  | [] => .never
  | [e] => e
  | e :: f :: es => .or e (anyOf (f :: es))

@[simp] theorem anyOf_nil : anyOf [] = .never := rfl

@[simp] theorem anyOf_singleton (e : Expr) : anyOf [e] = e := rfl

end Expr

/-- The condition that means a pattern. -/
def condition : Pattern → Expr
  | .dotted base => .paren (.or (.equals base) (.endsWith ("." ++ base)))
  | .starred base => .endsWith ("." ++ base)
  | .glob g => .test g.regex

/-- The condition of a pattern, unless its text may not be embedded. -/
def condition? (p : Pattern) : Option Expr :=
  if Pattern.isValid p.text then some (condition p) else none

/-- The condition of a rule set. -/
def matched (rules : RuleSet) : Expr := Expr.anyOf (rules.patterns.filterMap condition?)

end HostRouting.Script
