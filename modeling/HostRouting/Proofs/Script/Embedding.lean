/-
**How rules are embedded.**

The condition of a rule has one of three forms, and the text of the rule stands in it either between
quotes, as it is, or in a regular expression, where the full stop is escaped and a wildcard is
written as a class of characters.  Nothing that may stand in a rule ends either of them.  So a
condition says where it ends, whatever follows it, and the conditions of a rule set that are put one
after the other can be told apart: the text of them all determines the rules.

Main definitions:

* `Script.Escaped` — how the text of a glob is written in a regular expression;
* `Script.Embeds` — how a rule is written as a condition.

Main results:

* `Script.embeds_condition` — the conditions of scripts are written in this way;
* `Script.eq_of_text_condition_append` — a condition says where it ends;
* `Script.text_anyOf_inj` — **the text of several conditions determines the rules**.
-/

import HostRouting.Proofs.Script.Condition

set_option autoImplicit false

namespace HostRouting.Script

/-! ### Forms -/

/-- How the text of a glob is written in a regular expression: a full stop behind a backslash, a
wildcard as the class of all characters but the line terminators, and everything else, which is none
of the signs of a regular expression, as it is. -/
inductive Escaped : List Char → List Char → Prop
  | nil : Escaped [] []
  | plain {c : Char} {source body : List Char} (hadmits : Pattern.admits c = true)
      (hsign : c ∉ ['*', '?', '.']) (h : Escaped source body) : Escaped (c :: source) (c :: body)
  | dot {source body : List Char} (h : Escaped source body) :
      Escaped ('.' :: source) ('\\' :: '.' :: body)
  | one {source body : List Char} (h : Escaped source body) :
      Escaped ('?' :: source) ("[^\\n\\r\\u2028\\u2029]".toList ++ body)
  | run {source body : List Char} (h : Escaped source body) :
      Escaped ('*' :: source) ("[^\\n\\r\\u2028\\u2029]".toList ++ '*' :: body)

/-- How a rule is written as a condition, with nothing but what may stand in a rule. -/
inductive Embeds : Pattern → String → Prop
  | dotted {base : String} (h : ∀ c ∈ base.toList, Pattern.admits c = true) :
      Embeds (.dotted base)
        ("(host === \"" ++ base ++ "\" || host.endsWith(\"." ++ base ++ "\"))")
  | starred {base : String} (h : ∀ c ∈ base.toList, Pattern.admits c = true) :
      Embeds (.starred base) ("host.endsWith(\"." ++ base ++ "\")")
  | glob {g : Pattern.GlobText} {body : List Char} (h : Escaped g.source.toList body) :
      Embeds (.glob g) ("/^" ++ String.ofList body ++ "$/u.test(host)")

/-- What is admitted in a glob is written as its regular expression has it. -/
theorem escaped_ofGlob {source : List Char} (h : ∀ c ∈ source, Pattern.admits c = true) :
    Escaped source (Regex.ofGlob source).chars := by
  induction source with
  | nil => exact .nil
  | cons c source ih =>
      rw [List.forall_mem_cons] at h
      have hrest : Escaped source (Regex.ofGlob source).chars := ih h.2
      have hsplit : (Regex.ofGlob (c :: source)).chars
          = (Regex.Term.ofItem (Glob.Item.ofChar c)).chars ++ (Regex.ofGlob source).chars := rfl
      rw [hsplit]
      by_cases hstar : c = '*'
      · subst hstar
        exact .run hrest
      · by_cases hmark : c = '?'
        · subst hmark
          exact .one hrest
        · by_cases hdot : c = '.'
          · subst hdot
            exact .dot hrest
          · have hchars : (Regex.Term.ofItem (Glob.Item.ofChar c)).chars = [c] := by
              simp [Glob.Item.ofChar, Regex.Term.ofItem, Regex.Term.chars, hstar, hmark, hdot]
            rw [hchars]
            exact .plain h.1 (by simp [hstar, hmark, hdot]) hrest

theorem text_condition_dotted (base : String) :
    (condition (.dotted base)).text
      = "(host === \"" ++ base ++ "\" || host.endsWith(\"." ++ base ++ "\"))" := by
  rw [condition, text_paren, text_or, text_equals, text_endsWith, ← String.toList_inj]
  simp only [String.toList_append, List.append_assoc]
  rfl

theorem text_condition_starred (base : String) :
    (condition (.starred base)).text = "host.endsWith(\"." ++ base ++ "\")" := by
  rw [condition, text_endsWith, ← String.toList_inj]
  simp only [String.toList_append, List.append_assoc]
  rfl

/-- What is admitted in a text that ends in a base is admitted in the base. -/
theorem admits_of_mem_base {sign base : String}
    (h : ∀ c ∈ (sign ++ base).toList, Pattern.admits c = true) :
    ∀ c ∈ base.toList, Pattern.admits c = true := by
  intro c hc
  refine h c ?_
  rw [String.toList_append]
  exact List.mem_append_right _ hc

/-- **The condition of a valid rule is written in one of the three forms.** -/
theorem embeds_condition {p : Pattern} (h : Pattern.isValid p.text = true) :
    Embeds p (condition p).text := by
  have hadmits := Pattern.admits_of_isValid h
  cases p with
  | dotted base =>
      rw [text_condition_dotted]
      exact .dotted (admits_of_mem_base hadmits)
  | starred base =>
      rw [text_condition_starred]
      exact .starred (admits_of_mem_base hadmits)
  | glob g => exact .glob (escaped_ofGlob hadmits)

/-! ### What cannot be embedded -/

/-- The slash that would end a regular expression is not in it. -/
theorem not_mem_of_escaped {source body : List Char} (h : Escaped source body) {d : Char}
    (hclass : d ∉ "[^\\n\\r\\u2028\\u2029]".toList) (hadmits : Pattern.admits d = false) :
    d ∉ body := by
  have hdot : d ≠ '.' := (Pattern.ne_of_admits (by decide) hadmits).symm
  have hstar : d ≠ '*' := (Pattern.ne_of_admits (by decide) hadmits).symm
  have hback : d ≠ '\\' := by
    rintro rfl
    exact hclass (by decide)
  induction h with
  | nil => simp
  | plain hc _ _ ih => simp [ih, (Pattern.ne_of_admits hc hadmits).symm]
  | dot _ ih => simp [ih, hdot, hback]
  | one _ ih => simp only [List.mem_append, hclass, ih, or_self, not_false_eq_true]
  | run _ ih =>
      simp only [List.mem_append, hclass, List.mem_cons, hstar, ih, or_self, not_false_eq_true]

/-! ### Reading conditions apart -/

/-- Two texts up to the first occurrence of a character are told apart. -/
theorem eq_of_append_cons_eq {c : Char} {a b x y : List Char} (ha : c ∉ a) (hb : c ∉ b)
    (h : a ++ c :: x = b ++ c :: y) : a = b ∧ x = y := by
  induction a generalizing b with
  | nil =>
      cases b with
      | nil => exact ⟨rfl, List.tail_eq_of_cons_eq h⟩
      | cons d b =>
          obtain rfl : c = d := List.head_eq_of_cons_eq h
          exact absurd List.mem_cons_self hb
  | cons d a ih =>
      cases b with
      | nil =>
          obtain rfl : d = c := List.head_eq_of_cons_eq h
          exact absurd List.mem_cons_self ha
      | cons e b =>
          obtain rfl : d = e := List.head_eq_of_cons_eq h
          obtain ⟨rfl, rfl⟩ := ih (fun hc => ha (List.mem_cons_of_mem d hc))
            (fun hc => hb (List.mem_cons_of_mem d hc)) (List.tail_eq_of_cons_eq h)
          exact ⟨rfl, rfl⟩

/-- The part of a regular expression that a character of a glob is read as. -/
def partOfChar (c : Char) : RegexText.Part :=
  RegexText.ofTerm (Regex.Term.ofItem (Glob.Item.ofChar c))

/-- No two characters of globs have the same meaning. -/
theorem ofChar_inj {c d : Char} (h : Glob.Item.ofChar c = Glob.Item.ofChar d) : c = d := by
  grind [Glob.Item.ofChar]

theorem partOfChar_inj {c d : Char} (h : partOfChar c = partOfChar d) : c = d := by
  refine ofChar_inj ?_
  unfold partOfChar at h
  generalize Glob.Item.ofChar c = i at h ⊢
  generalize Glob.Item.ofChar d = j at h ⊢
  cases i <;> cases j <;> simp_all [Regex.Term.ofItem, RegexText.ofTerm]

/-- The regular expression of a glob determines the glob. -/
theorem ofGlob_inj {source source' : List Char} (h : ∀ c ∈ source, Pattern.admits c = true)
    (h' : ∀ c ∈ source', Pattern.admits c = true)
    (hchars : (Regex.ofGlob source).chars = (Regex.ofGlob source').chars) : source = source' := by
  -- it is read as one part for each character
  have hparts (cs : List Char) :
      (Regex.ofGlob cs).map RegexText.ofTerm = cs.map partOfChar := by
    rw [Regex.ofGlob, Glob.items, List.map_map, List.map_map]
    rfl
  have hread := RegexText.read?_anchored _ (RegexText.hasPlainChars_ofGlob h)
  have hread' := RegexText.read?_anchored _ (RegexText.hasPlainChars_ofGlob h')
  rw [hchars, hread', hparts, hparts] at hread
  have hmap : source'.map partOfChar = source.map partOfChar := by simpa using hread
  exact ((List.map_inj_right fun _ _ => partOfChar_inj).1 hmap).symm

/-- No quote is in a base. -/
theorem quote_not_mem {base : String} (h : ∀ c ∈ base.toList, Pattern.admits c = true) :
    '"' ∉ base.toList :=
  fun hc => Pattern.ne_of_admits (h _ hc) (by decide) rfl

section

variable {x y : List Char}

theorem eq_of_text_dotted_append {a b : String} (ha : '"' ∉ a.toList) (hb : '"' ∉ b.toList)
    (h : (condition (.dotted a)).text.toList ++ x = (condition (.dotted b)).text.toList ++ y) :
    a = b ∧ x = y := by
  rw [text_condition_dotted, text_condition_dotted] at h
  simp only [String.toList_append, List.append_assoc] at h
  obtain ⟨hbase, hrest⟩ := eq_of_append_cons_eq (c := '"') ha hb (List.append_cancel_left h)
  obtain rfl : a = b := String.toList_inj.1 hbase
  have hsecond : " || host.endsWith(\".".toList ++ (a.toList ++ ("\"))".toList ++ x))
      = " || host.endsWith(\".".toList ++ (a.toList ++ ("\"))".toList ++ y)) := hrest
  exact ⟨rfl, List.append_cancel_left
    (List.append_cancel_left (List.append_cancel_left hsecond))⟩

theorem eq_of_text_starred_append {a b : String} (ha : '"' ∉ a.toList) (hb : '"' ∉ b.toList)
    (h : (condition (.starred a)).text.toList ++ x = (condition (.starred b)).text.toList ++ y) :
    a = b ∧ x = y := by
  rw [text_condition_starred, text_condition_starred] at h
  simp only [String.toList_append, List.append_assoc] at h
  obtain ⟨hbase, hrest⟩ := eq_of_append_cons_eq (c := '"') ha hb (List.append_cancel_left h)
  obtain rfl : a = b := String.toList_inj.1 hbase
  have hclose : [')'] ++ x = [')'] ++ y := hrest
  exact ⟨rfl, List.append_cancel_left hclose⟩

theorem eq_of_text_glob_append {g g' : Pattern.GlobText}
    (hg : ∀ c ∈ g.source.toList, Pattern.admits c = true)
    (hg' : ∀ c ∈ g'.source.toList, Pattern.admits c = true)
    (h : (condition (.glob g)).text.toList ++ x = (condition (.glob g')).text.toList ++ y) :
    g = g' ∧ x = y := by
  have hdollar {f : Pattern.GlobText} (hf : ∀ c ∈ f.source.toList, Pattern.admits c = true) :
      '$' ∉ (String.ofList f.regex.chars).toList := by
    rw [String.toList_ofList]
    exact not_mem_of_escaped (escaped_ofGlob hf) (by decide) (by decide)
  rw [condition, condition, text_test, text_test, Regex.text, Regex.text] at h
  simp only [String.toList_append, List.append_assoc] at h
  obtain ⟨hbody, hrest⟩ := eq_of_append_cons_eq (c := '$') (hdollar hg) (hdollar hg')
    (List.append_cancel_left h)
  rw [String.toList_ofList, String.toList_ofList] at hbody
  have hsource : g.source = g'.source := String.toList_inj.1 (ofGlob_inj hg hg' hbody)
  have hclose : "/u.test(host)".toList ++ x = "/u.test(host)".toList ++ y := hrest
  refine ⟨?_, List.append_cancel_left hclose⟩
  cases g
  cases g'
  simpa using hsource

end

/-- The first character of a condition, which says of which form it is. -/
def opening : Pattern → Char
  | .dotted _ => '('
  | .starred _ => 'h'
  | .glob _ => '/'

theorem exists_text_condition (p : Pattern) :
    ∃ rest, (condition p).text.toList = opening p :: rest := by
  cases p with
  | dotted base =>
      rw [text_condition_dotted]
      simp only [String.toList_append, List.append_assoc]
      exact ⟨_, rfl⟩
  | starred base =>
      rw [text_condition_starred]
      simp only [String.toList_append, List.append_assoc]
      exact ⟨_, rfl⟩
  | glob g =>
      rw [condition, text_test]
      simp only [String.toList_append, List.append_assoc]
      exact ⟨_, rfl⟩

/-- **A condition says where it ends.**  Whatever follows two conditions of valid rules, the same
text is of the same rule and goes on in the same way. -/
theorem eq_of_text_condition_append {p q : Pattern} (hp : Pattern.isValid p.text = true)
    (hq : Pattern.isValid q.text = true) {x y : List Char}
    (h : (condition p).text.toList ++ x = (condition q).text.toList ++ y) : p = q ∧ x = y := by
  have hadmits := Pattern.admits_of_isValid hp
  have hadmits' := Pattern.admits_of_isValid hq
  have hopening : opening p = opening q := by
    obtain ⟨rest, hrest⟩ := exists_text_condition p
    obtain ⟨rest', hrest'⟩ := exists_text_condition q
    rw [hrest, hrest'] at h
    exact List.head_eq_of_cons_eq h
  cases p with
  | dotted a =>
      cases q with
      | dotted b =>
          obtain ⟨rfl, hrest⟩ := eq_of_text_dotted_append
            (quote_not_mem (admits_of_mem_base hadmits))
            (quote_not_mem (admits_of_mem_base hadmits')) h
          exact ⟨rfl, hrest⟩
      | starred b => exact absurd (show '(' = 'h' from hopening) (by decide)
      | glob g => exact absurd (show '(' = '/' from hopening) (by decide)
  | starred a =>
      cases q with
      | dotted b => exact absurd (show 'h' = '(' from hopening) (by decide)
      | starred b =>
          obtain ⟨rfl, hrest⟩ := eq_of_text_starred_append
            (quote_not_mem (admits_of_mem_base hadmits))
            (quote_not_mem (admits_of_mem_base hadmits')) h
          exact ⟨rfl, hrest⟩
      | glob g => exact absurd (show 'h' = '/' from hopening) (by decide)
  | glob g =>
      cases q with
      | dotted b => exact absurd (show '/' = '(' from hopening) (by decide)
      | starred b => exact absurd (show '/' = 'h' from hopening) (by decide)
      | glob g' =>
          obtain ⟨rfl, hrest⟩ := eq_of_text_glob_append hadmits hadmits' h
          exact ⟨rfl, hrest⟩

/-! ### Several conditions -/

/-- What the conditions of rules after a first one add to the text. -/
def continued : List Pattern → List Char
  | [] => []
  | p :: ps => " || ".toList ++ (Expr.anyOf ((p :: ps).map condition)).text.toList

theorem text_anyOf_cons (p : Pattern) (ps : List Pattern) :
    (Expr.anyOf ((p :: ps).map condition)).text.toList
      = (condition p).text.toList ++ continued ps := by
  cases ps with
  | nil =>
      rw [continued, List.append_nil]
      rfl
  | cons q qs =>
      rw [List.map_cons, List.map_cons, Expr.anyOf, text_or, String.toList_append,
        String.toList_append, List.append_assoc]
      rfl

/-- Conditions are not the text for no condition. -/
theorem text_anyOf_cons_ne_false (p : Pattern) (ps : List Pattern) :
    (Expr.anyOf ((p :: ps).map condition)).text ≠ "false" := by
  intro h
  have hlist := congrArg String.toList h
  obtain ⟨rest, hrest⟩ := exists_text_condition p
  rw [text_anyOf_cons, hrest] at hlist
  have hopening : opening p = 'f' := List.head_eq_of_cons_eq hlist
  cases p with
  | dotted base => exact absurd (show '(' = 'f' from hopening) (by decide)
  | starred base => exact absurd (show 'h' = 'f' from hopening) (by decide)
  | glob g => exact absurd (show '/' = 'f' from hopening) (by decide)

/-- **The text of several conditions determines the rules**, with their order and number. -/
theorem text_anyOf_inj (ps : List Pattern) : ∀ {qs : List Pattern}, AreValid ps → AreValid qs →
    (Expr.anyOf (ps.map condition)).text = (Expr.anyOf (qs.map condition)).text → ps = qs := by
  induction ps with
  | nil =>
      intro qs _ _ h
      cases qs with
      | nil => rfl
      | cons q qs => exact absurd h.symm (text_anyOf_cons_ne_false q qs)
  | cons p ps ih =>
      intro qs hps hqs h
      cases qs with
      | nil => exact absurd h (text_anyOf_cons_ne_false p ps)
      | cons q qs =>
          rw [AreValid, List.forall_mem_cons] at hps hqs
          have hlist := congrArg String.toList h
          rw [text_anyOf_cons, text_anyOf_cons] at hlist
          obtain ⟨rfl, hrest⟩ := eq_of_text_condition_append hps.1 hqs.1 hlist
          congr 1
          cases ps with
          | nil =>
              cases qs with
              | nil => rfl
              | cons r rs => cases hrest
          | cons r rs =>
              cases qs with
              | nil => cases hrest
              | cons u us =>
                  exact ih hps.2 hqs.2
                    (String.toList_inj.1 (List.append_cancel_left hrest))

/-- **The condition of a rule set determines its patterns**, with their order and number. -/
theorem text_matched_inj (texts texts' : List String) :
    (matched (RuleSet.ofTexts texts)).text = (matched (RuleSet.ofTexts texts')).text ↔
      (RuleSet.ofTexts texts).patterns = (RuleSet.ofTexts texts').patterns := by
  have hvalid := areValid_ofTexts texts
  have hvalid' := areValid_ofTexts texts'
  rw [matched, matched, filterMap_condition? hvalid, filterMap_condition? hvalid']
  constructor
  · exact text_anyOf_inj _ hvalid hvalid'
  · intro h
    rw [h]

end HostRouting.Script
