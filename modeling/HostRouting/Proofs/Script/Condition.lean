/-
**What the condition of a rule set means.**

The condition of a pattern is written as text and read again as tokens, as a term and as a value.
On every host that value is whether the pattern matches: the literal of `.base` and `*.base` says
what the octet comparison says, and the regular expression of a glob tests what the glob takes.  A
valid text cannot end its literal, so the operands of a sum are read one by one.

Main definitions:

* `Script.Expr.holds` — what a condition says of a host;
* `Script.Expr.IsRead` — a condition whose text is read as a term of a level, with that meaning.

Main results:

* `Script.isRead_condition` — the condition of a valid pattern is read as an operand;
* `Script.isRead_anyOf` — several operands are read as a sum;
* `Script.holds_condition`, `Script.holds_matched` — conditions hold for the hosts that are matched;
* `Script.exists_matched` — the condition of a rule set, read as the value of a variable.
-/

import HostRouting.Proofs.Pattern.Parsed
import HostRouting.Proofs.Script.Meaning
import HostRouting.Script.Expr
import Mathlib.Data.List.Basic

set_option autoImplicit false

namespace HostRouting.Script

/-! ### The texts of conditions -/

theorem text_equals (s : String) : (Expr.equals s).text = "host === \"" ++ s ++ "\"" := rfl

theorem text_endsWith (s : String) :
    (Expr.endsWith s).text = "host.endsWith(\"" ++ s ++ "\")" := rfl

theorem text_test (r : Regex) : (Expr.test r).text = "/^" ++ r.text ++ "$/u.test(host)" := rfl

theorem text_or (a b : Expr) : (Expr.or a b).text = a.text ++ " || " ++ b.text := rfl

theorem text_paren (e : Expr) : (Expr.paren e).text = "(" ++ e.text ++ ")" := rfl

/-! ### What a condition says -/

/-- What a condition says of a host. -/
def Expr.holds (host : String) : Expr → Bool
  | .never => false
  | .equals s => host == s
  | .endsWith s => s.toList.isSuffixOf host.toList
  | .test r => (RegexText.read? ('^' :: r.chars ++ ['$'])).any (RegexText.test · host.toList)
  | .or a b => a.holds host || b.holds host
  | .paren e => e.holds host

theorem holds_anyOf (host : String) (es : List Expr) :
    (Expr.anyOf es).holds host = es.any (·.holds host) := by
  induction es with
  | nil => rfl
  | cons e es ih =>
      cases es with
      | nil => rw [Expr.anyOf_singleton, List.any_cons, List.any_nil, Bool.or_false]
      | cons f es => rw [Expr.anyOf, Expr.holds, ih]; rfl

/-- The ending that means a host below a base. -/
theorem isSuffixOf_dot (host base : String) :
    ("." ++ base).toList.isSuffixOf host.toList = Pattern.isSubdomain host base := by
  rw [Bool.eq_iff_iff, Pattern.isSubdomain_iff, List.isSuffixOf_iff_suffix, String.toList_append]
  rfl

/-- **The condition of a valid pattern holds for the hosts that the pattern matches.** -/
theorem holds_condition {p : Pattern} (h : Pattern.isValid p.text = true) (host : String) :
    (condition p).holds host = p.matchesHost host := by
  cases p with
  | dotted base =>
      rw [condition, Expr.holds, Expr.holds, Expr.holds, Expr.holds, isSuffixOf_dot]
      rfl
  | starred base =>
      rw [condition, Expr.holds, isSuffixOf_dot]
      rfl
  | glob g =>
      obtain ⟨ps, hread, htest⟩ := RegexText.test_ofGlob (Pattern.admits_of_isValid h)
      rw [Pattern.text_glob] at hread htest
      rw [condition, Expr.holds, Pattern.GlobText.regex, hread, Option.any_some, htest]
      rfl

/-! ### Reading a condition -/

/-- Where a term of a level may end. -/
def Level.Ends : Level → List Token → Prop
  | .compared => EndsOperand
  | _ => EndsSum

/-- How much depth a term of some tokens needs at a level. -/
def Level.need : Level → Nat → Nat
  | .compared, n => 8 * n
  | _, n => 8 * n + 1

@[simp] theorem need_compared (n : Nat) : Level.compared.need n = 8 * n := rfl

@[simp] theorem need_either (n : Nat) : Level.either.need n = 8 * n + 1 := rfl

/-- The text of `e` is read as the tokens `ts`, these as the term `t` of the level `l`, and this
term has the value that `e` says of the host. -/
structure Expr.IsRead (l : Level) (e : Expr) (ts : List Token) (t : Term) : Prop where
  feeds : feed (.gap .operator) e.text.toList = some (ts, .gap .value)
  parses : ∀ fuel rest, l.need ts.length ≤ fuel → l.Ends rest →
    term fuel l (ts ++ rest) = some (t, rest)
  means : ∀ ls rs host, List.lookup "host" ls = some (.text host) →
    t.eval ls rs = some (.bool (e.holds host))

theorem isRead_equals (s : String) (h : IsQuotableText s) :
    Expr.IsRead .compared (.equals s) [.name "host", .mark .same, .text s]
      (.same (.name "host") (.text s)) where
  feeds := by
    have hhost : feed (.gap .operator) "host === \"".toList
        = some ([.name "host", .mark .same], .quoted []) := feed_literal (by decide +kernel)
    rw [text_equals, String.toList_append, String.toList_append]
    exact feed_append (feed_append hhost (feed_quoted s h)) (feed_quoted_close s (feed_nil _))
  parses fuel rest hfuel hrest := by
    obtain ⟨k, rfl⟩ := Nat.exists_eq_add_of_le' hfuel
    cases hrest with
    | sum hrest => cases hrest <;> rfl
    | or ts => rfl
  means ls rs host hhost := by
    simp only [Term.eval, hhost, Option.bind_some, same?_text, Option.map_some, Expr.holds]

theorem isRead_endsWith (s : String) (h : IsQuotableText s) :
    Expr.IsRead .compared (.endsWith s)
      [.name "host", .mark .dot, .name "endsWith", .mark .parenOpen, .text s, .mark .parenClose]
      (.method (.name "host") "endsWith" (.text s)) where
  feeds := by
    have hhost : feed (.gap .operator) "host.endsWith(\"".toList
        = some ([.name "host", .mark .dot, .name "endsWith", .mark .parenOpen], .quoted []) :=
      feed_literal (by decide +kernel)
    have hclose : feed (.gap .value) [')'] = some ([.mark .parenClose], .gap .value) := rfl
    rw [text_endsWith, String.toList_append, String.toList_append]
    exact feed_append (feed_append hhost (feed_quoted s h)) (feed_quoted_close s hclose)
  parses fuel rest hfuel hrest := by
    obtain ⟨k, rfl⟩ := Nat.exists_eq_add_of_le' hfuel
    cases hrest with
    | sum hrest => cases hrest <;> rfl
    | or ts => rfl
  means ls rs host hhost := by
    simp only [Term.eval, hhost, Option.bind_some, method?_endsWith, Expr.holds]

theorem isRead_test {r : Regex} (h : RegexText.HasPlainChars r) :
    Expr.IsRead .compared (.test r)
      [.regex ('^' :: r.chars ++ ['$']) ['u'], .mark .dot, .name "test", .mark .parenOpen,
        .name "host", .mark .parenClose]
      (.method (.regex (.begins :: r.map RegexText.ofTerm ++ [.ends])) "test" (.name "host")) where
  feeds := by
    have hsplit : (Expr.test r).text.toList
        = ['/', '^'] ++ r.chars ++ "$/u.test(host)".toList := by
      have hbody : r.text.toList = r.chars := String.toList_ofList
      rw [text_test, String.toList_append, String.toList_append, hbody]
      rfl
    have hopen : feed (.gap .operator) ['/', '^'] = some ([], .regex ['^'] .outside) := rfl
    have hbody := feed_append hopen (feed_regex r ['^'] h)
    have hclose : feed (.regex (r.chars.reverse ++ ['^']) .outside) "$/u.test(host)".toList
        = some ([.regex ('$' :: (r.chars.reverse ++ ['^'])).reverse ['u'], .mark .dot,
            .name "test", .mark .parenOpen, .name "host", .mark .parenClose], .gap .value) := rfl
    have hreverse : ('$' :: (r.chars.reverse ++ ['^'])).reverse = '^' :: r.chars ++ ['$'] := by simp
    rw [hreverse] at hclose
    rw [hsplit]
    exact feed_append hbody hclose
  parses fuel rest hfuel hrest := by
    obtain ⟨k, rfl⟩ := Nat.exists_eq_add_of_le' hfuel
    exact term_compared_regex (RegexText.read?_anchored r h) hrest
  means ls rs host hhost := by
    simp only [Term.eval, hhost, Option.bind_some, Value.method?, if_true, Expr.holds,
      RegexText.read?_anchored r h, Option.any_some]

/-- A single operand is a sum. -/
theorem isRead_sum {e : Expr} {ts : List Token} {t : Term} (h : e.IsRead .compared ts t) :
    e.IsRead .either ts t where
  feeds := h.feeds
  parses fuel rest hfuel hrest := by
    obtain ⟨k, rfl⟩ := Nat.exists_eq_add_of_le' hfuel
    have hoperand := h.parses (k + 8 * ts.length) rest (Nat.le_add_left _ _) (.sum hrest)
    exact term_either_last hoperand hrest
  means := h.means

theorem isRead_or {a b : Expr} {ts us : List Token} {t u : Term} (ha : a.IsRead .compared ts t)
    (hb : b.IsRead .either us u) :
    (Expr.or a b).IsRead .either (ts ++ .mark .or :: us) (.or t u) where
  feeds := by
    have hsplit : (Expr.or a b).text.toList = a.text.toList ++ " || ".toList ++ b.text.toList := by
      rw [text_or, String.toList_append, String.toList_append]
    have hor : feed (.gap .value) " || ".toList = some ([.mark .or], .gap .operator) := rfl
    have htokens : ts ++ .mark .or :: us = ts ++ [.mark .or] ++ us := by simp
    rw [hsplit, htokens]
    exact feed_append (feed_append ha.feeds hor) hb.feeds
  parses fuel rest hfuel hrest := by
    rw [need_either, List.length_append, List.length_cons] at hfuel
    obtain ⟨k, rfl⟩ := Nat.exists_eq_add_of_le' (Nat.le_of_add_left_le hfuel)
    have hfirst := ha.parses k (.mark .or :: us ++ rest) (by rw [need_compared]; omega) (.or _)
    have hlater := hb.parses k rest (by rw [need_either]; omega) hrest
    -- the first operand ends at the bars, the other ones where the sum ends
    rw [List.append_assoc]
    exact term_either_cons hfirst hlater
  means ls rs host hhost := by
    rw [Term.eval, ha.means ls rs host hhost, Option.bind_some, hb.means ls rs host hhost,
      Expr.holds]
    cases a.holds host <;> rfl

theorem isRead_paren {e : Expr} {ts : List Token} {t : Term} (h : e.IsRead .either ts t) :
    (Expr.paren e).IsRead .compared (.mark .parenOpen :: ts ++ [.mark .parenClose]) t where
  feeds := by
    have hsplit : (Expr.paren e).text.toList = ['('] ++ e.text.toList ++ [')'] := by
      rw [text_paren, String.toList_append, String.toList_append]
      rfl
    have hopen : feed (.gap .operator) ['('] = some ([.mark .parenOpen], .gap .operator) := rfl
    have hclose : feed (.gap .value) [')'] = some ([.mark .parenClose], .gap .value) := rfl
    rw [hsplit]
    exact feed_append (feed_append hopen h.feeds) hclose
  parses fuel rest hfuel hrest := by
    rw [need_compared, List.cons_append, List.length_cons, List.length_append,
      List.length_singleton] at hfuel
    obtain ⟨k, rfl⟩ := Nat.exists_eq_add_of_le' (Nat.le_trans (by omega : 5 ≤ _) hfuel)
    have hsum := h.parses k (.mark .parenClose :: rest) (by rw [need_either]; omega) (.close rest)
    have hchoice := term_choice_of_either hsum (.close rest)
    rw [List.cons_append, List.cons_append, List.append_assoc]
    exact term_compared_paren hchoice hrest
  means := h.means

/-- **Several operands are read as a sum.** -/
theorem isRead_anyOf (es : List Expr) :
    ∀ e : Expr, (∀ x ∈ e :: es, ∃ ts t, x.IsRead .compared ts t) →
      ∃ ts t, (Expr.anyOf (e :: es)).IsRead .either ts t := by
  induction es with
  | nil =>
      intro e h
      obtain ⟨ts, t, he⟩ := h e List.mem_cons_self
      exact ⟨ts, t, isRead_sum he⟩
  | cons f es ih =>
      intro e h
      obtain ⟨ts, t, he⟩ := h e List.mem_cons_self
      obtain ⟨us, u, hf⟩ := ih f fun x hx => h x (List.mem_cons_of_mem e hx)
      exact ⟨_, _, isRead_or he hf⟩

/-! ### Patterns -/

/-- What may stand in a pattern may stand between quotes. -/
theorem isQuotable_of_admits {c : Char} (h : Pattern.admits c = true) : IsQuotable c :=
  ⟨Pattern.ne_of_admits h (by decide), Pattern.ne_of_admits h (by decide),
    Pattern.isLineTerminator_of_admits h⟩

/-- **The condition of a valid pattern is read as an operand.** -/
theorem isRead_condition {p : Pattern} (h : Pattern.isValid p.text = true) :
    ∃ ts t, (condition p).IsRead .compared ts t := by
  have hadmits := Pattern.admits_of_isValid h
  have hquotable : IsQuotableText p.text :=
    fun c hc => isQuotable_of_admits (hadmits c hc)
  cases p with
  | dotted base =>
      have hbase : IsQuotableText base := by
        intro c hc
        refine hquotable c ?_
        rw [Pattern.text_dotted, String.toList_append]
        exact List.mem_append_right _ hc
      exact ⟨_, _, isRead_paren (isRead_or (isRead_equals base hbase)
        (isRead_sum (isRead_endsWith _ hquotable)))⟩
  | starred base =>
      -- the literal is the text of the pattern without its star
      have hdot : IsQuotableText ("." ++ base) := by
        intro c hc
        refine hquotable c ?_
        have hstar : ("*." ++ base).toList = '*' :: ("." ++ base).toList := by
          rw [String.toList_append, String.toList_append]
          rfl
        rw [Pattern.text_starred, hstar]
        exact List.mem_cons_of_mem '*' hc
      exact ⟨_, _, isRead_endsWith _ hdot⟩
  | glob g => exact ⟨_, _, isRead_test (RegexText.hasPlainChars_ofGlob hadmits)⟩

/-! ### Rule sets -/

/-- Whether the texts of all patterns are valid. -/
def AreValid (ps : List Pattern) : Prop := ∀ p ∈ ps, Pattern.isValid p.text = true

/-- What a rule set holds was parsed, so the texts of its patterns are valid. -/
theorem areValid_ofTexts (texts : List String) : AreValid (RuleSet.ofTexts texts).patterns := by
  intro p hp
  rw [RuleSet.patterns_ofTexts, List.mem_filterMap] at hp
  obtain ⟨text, -, htext⟩ := hp
  rw [RuleSet.pattern?] at htext
  cases hparse : Pattern.parse text with
  | error fault =>
      rw [hparse] at htext
      cases htext
  | ok q =>
      rw [hparse] at htext
      obtain rfl : q = p := Option.some.inj htext
      exact Pattern.isValid_of_parse hparse

/-- Of valid patterns no condition is left out. -/
theorem filterMap_condition? {ps : List Pattern} (h : AreValid ps) :
    ps.filterMap condition? = ps.map condition := by
  rw [List.filterMap_eq_map_iff_forall_eq_some]
  intro p hp
  rw [condition?, if_pos (h p hp)]

/-- **The condition of valid patterns holds for the hosts that one of them matches.** -/
theorem holds_matched {rules : RuleSet} (h : AreValid rules.patterns) (host : String) :
    (matched rules).holds host = rules.matchesHost host := by
  rw [matched, filterMap_condition? h, holds_anyOf, List.any_map, RuleSet.matchesHost,
    Bool.eq_iff_iff, List.any_eq_true, List.any_eq_true]
  constructor
  · rintro ⟨p, hp, hhost⟩
    exact ⟨p, hp, holds_condition (h p hp) host ▸ hhost⟩
  · rintro ⟨p, hp, hhost⟩
    exact ⟨p, hp, (holds_condition (h p hp) host).trans hhost⟩

/-- The condition of a rule set is read as the tokens `ts` and the term `t`, which has the value
that the rule set gives: on its own, and as the value of a variable. -/
structure IsMatched (rules : RuleSet) (ts : List Token) (t : Term) : Prop where
  tokens : tokens? (matched rules).text.toList = some ts
  feeds : feed (.gap .operator) ((matched rules).text.toList ++ [';'])
    = some (ts ++ [.mark .semicolon], .gap .operator)
  parses : ∀ fuel rest, 8 * ts.length + 2 ≤ fuel → EndsSum rest →
    term fuel .choice (ts ++ rest) = some (t, rest)
  means : ∀ ls rs host, List.lookup "host" ls = some (.text host) →
    t.eval ls rs = some (.bool (rules.matchesHost host))

/-- **The condition of a rule set of valid patterns is read as what the rule set matches.** -/
theorem exists_matched {rules : RuleSet} (h : AreValid rules.patterns) :
    ∃ ts t, IsMatched rules ts t := by
  have hholds := holds_matched h
  cases hps : rules.patterns with
  | nil =>
      have hnever : matched rules = .never := by rw [matched, hps]; rfl
      rw [hnever] at hholds
      refine ⟨[.keyword .no], .bool false, ?_, ?_, ?_, ?_⟩
      · rw [hnever]
        decide +kernel
      · rw [hnever]
        decide +kernel
      · intro fuel rest hfuel hrest
        obtain ⟨k, rfl⟩ := Nat.exists_eq_add_of_le' hfuel
        cases hrest <;> rfl
      · intro ls rs host _
        rw [← hholds host]
        rfl
  | cons p ps =>
      have hmatched : matched rules = Expr.anyOf (condition p :: ps.map condition) := by
        rw [matched, filterMap_condition? h, hps, List.map_cons]
      obtain ⟨ts, t, hread⟩ := isRead_anyOf (ps.map condition) (condition p) (by
        intro e he
        rw [← List.map_cons, List.mem_map] at he
        obtain ⟨q, hq, rfl⟩ := he
        exact isRead_condition (h q (hps ▸ hq)))
      rw [← hmatched] at hread
      refine ⟨ts, t, ?_, ?_, ?_, ?_⟩
      · rw [tokens?, hread.feeds, Option.bind_some, State.close?, Option.map_some, List.append_nil]
      · have hend : feed (.gap .value) [';'] = some ([.mark .semicolon], .gap .operator) := rfl
        exact feed_append hread.feeds hend
      · intro fuel rest hfuel hrest
        obtain ⟨k, rfl⟩ := Nat.exists_eq_add_of_le' hfuel
        have hsum := hread.parses (k + (8 * ts.length + 1)) rest (Nat.le_add_left _ _) hrest
        exact term_choice_of_either hsum hrest
      · intro ls rs host hhost
        rw [← hholds host]
        exact hread.means ls rs host hhost

end HostRouting.Script
