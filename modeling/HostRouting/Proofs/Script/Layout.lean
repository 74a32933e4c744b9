/-
**The layout of scripts.**

A configuration may hold any texts whatever, and all that they bring into a script stays in a few
places of it.  There are fifteen lines of printable characters.  Eleven of them never change; the
others are the remark, the condition, the line of the mode and the line with host and port of the
proxy, which has nothing but letters, digits, full stops and hyphens to it.

Main definitions:

* `Script.Places`, `Script.Places.lines` — what stands in the places of a script, and the lines
  with it;
* `Script.Places.IsFor` — what may stand there for a rule set.

Main results:

* `Script.lines_eq_places` — the lines of a script are laid out in this way;
* `Script.isPrintableText_lines` — they are printable;
* `Snapshot.script_laidOut` — **no text of a configuration breaks out of its place**, and the
  condition determines the rules.
-/

import HostRouting.Proofs.Script.Embedding
import HostRouting.Proofs.Script.Program
import HostRouting.Proofs.Text.Alphanum
import HostRouting.Routing.Snapshot

set_option autoImplicit false

namespace HostRouting

namespace Script

/-! ### Printable characters -/

/-- Whether a text consists of printable ASCII characters. -/
def IsPrintableText (s : String) : Prop := ∀ c ∈ s.toList, 0x20 ≤ c.toNat ∧ c.toNat ≤ 0x7E

instance (s : String) : Decidable (IsPrintableText s) := List.decidableBAll _ _

theorem isPrintableText_append {s t : String} (hs : IsPrintableText s) (ht : IsPrintableText t) :
    IsPrintableText (s ++ t) := by
  intro c hc
  rw [String.toList_append] at hc
  rcases List.mem_append.1 hc with hc | hc
  · exact hs c hc
  · exact ht c hc

theorem isPrintableText_intercalate {sep : String} {texts : List String}
    (hsep : IsPrintableText sep) (h : ∀ t ∈ texts, IsPrintableText t) :
    IsPrintableText (sep.intercalate texts) := by
  induction texts with
  | nil =>
      rw [String.intercalate_nil]
      decide
  | cons t texts ih =>
      rw [List.forall_mem_cons] at h
      cases texts with
      | nil =>
          rw [String.intercalate_singleton]
          exact h.1
      | cons u texts =>
          rw [String.intercalate_cons_cons]
          exact isPrintableText_append (isPrintableText_append h.1 hsep) (ih h.2)

/-- What may stand in a rule is printable. -/
theorem toNat_of_admits {c : Char} (h : Pattern.admits c = true) :
    0x20 ≤ c.toNat ∧ c.toNat ≤ 0x7E := by
  have hvisible := Pattern.visible_of_admits h
  omega

theorem isPrintableText_decimal (n : Nat) : IsPrintableText (String.ofList (Text.decimal n)) := by
  intro c hc
  rw [String.toList_ofList] at hc
  exact toNat_of_admits (admits_of_mem_decimal hc)

/-! ### Places -/

/-- What stands in the places of a script. -/
structure Places where
  remark : String
  conditions : List String
  host : String
  port : Nat

namespace Places

/-- The condition that one of several holds. -/
def condition (p : Places) : String :=
  if p.conditions = [] then "false" else " || ".intercalate p.conditions

/-- The lines of a script with something in its places. -/
def lines (p : Places) (mode : Mode) : List String := [
  p.remark,
  "var cache = Object.create(null);",
  "function FindProxyForURL(url, host) \x7b",
  "  if (host === \"localhost\" || host === \"127.0.0.1\" || host === \"::1\") \x7b",
  "    return \"DIRECT\";",
  "  \x7d",
  "  if (host in cache) \x7b",
  "    return cache[host];",
  "  \x7d",
  "  var matched = " ++ p.condition ++ ";",
  if mode = .whitelist then "  var isProxy = !matched;" else "  var isProxy = matched;",
  "  var result = isProxy ? \"PROXY " ++ p.host ++ ":" ++ String.ofList (Text.decimal p.port)
    ++ "\" : \"DIRECT\";",
  "  cache[host] = result;",
  "  return result;",
  "\x7d"]

/-- What may stand in the places of a script for a rule set. -/
structure IsFor (p : Places) (rules : RuleSet) : Prop where
  isRemark : ['/', '/'] <+: p.remark.toList
  /-- One condition for each rule, in their order. -/
  embeds : List.Forall₂ Embeds rules.patterns p.conditions
  host_ne_empty : p.host ≠ ""
  host_chars : ∀ c ∈ p.host.toList, c.isAlphanum = true ∨ c = '.' ∨ c = '-'
  one_le_port : 1 ≤ p.port
  port_le : p.port ≤ 65535

end Places

/-! ### The places of a script -/

/-- What a script has in its places. -/
def places (s : Script) : Places where
  remark := s.remark
  conditions := s.rules.patterns.map fun p => (Script.condition p).text
  host := s.proxy.host
  port := s.proxy.port

theorem text_anyOf (es : List Expr) :
    (Expr.anyOf es).text
      = if es.map Expr.text = [] then "false" else " || ".intercalate (es.map Expr.text) := by
  induction es with
  | nil => rfl
  | cons e es ih =>
      cases es with
      | nil => rw [Expr.anyOf_singleton]; simp
      | cons f es =>
          rw [Expr.anyOf, text_or, ih]
          simp

theorem condition_places {s : Script} (h : AreValid s.rules.patterns) :
    s.places.condition = (matched s.rules).text := by
  rw [matched, filterMap_condition? h, text_anyOf, List.map_map]
  rfl

/-- **The lines of a script are laid out in one way.** -/
theorem lines_eq_places {s : Script} (h : AreValid s.rules.patterns) :
    s.lines = s.places.lines s.mode := by
  have hloopback : "  if (" ++ loopback.text ++ ") \x7b"
      = "  if (host === \"localhost\" || host === \"127.0.0.1\" || host === \"::1\") \x7b" := by
    decide +kernel
  have hmode : "  var isProxy = " ++ isProxyText s.mode ++ ";"
      = if s.mode = .whitelist then "  var isProxy = !matched;" else "  var isProxy = matched;" := by
    cases s.mode <;> decide +kernel
  have hresult : "  var result = isProxy ? \"PROXY " ++ s.proxy.hostPort ++ "\" : \"DIRECT\";"
      = "  var result = isProxy ? \"PROXY " ++ s.proxy.host ++ ":"
        ++ String.ofList (Text.decimal s.proxy.port) ++ "\" : \"DIRECT\";" := by
    simp only [Proxy.hostPort, String.append_assoc]
  unfold lines Places.lines
  rw [hloopback, hmode, hresult, condition_places h]
  rfl

theorem embeds_map_condition {ps : List Pattern} (h : AreValid ps) :
    List.Forall₂ Embeds ps (ps.map fun p => (Script.condition p).text) := by
  induction ps with
  | nil => exact .nil
  | cons p ps ih =>
      rw [AreValid, List.forall_mem_cons] at h
      exact .cons (embeds_condition h.1) (ih h.2)

/-- **What a script has in its places is what may stand there.** -/
theorem isFor_places {s : Script} (h : AreValid s.rules.patterns) : s.places.IsFor s.rules := by
  have hhost := s.proxy.isHost_host
  rw [Proxy.isHost, Bool.and_eq_true, List.all_eq_true, Bool.not_eq_true', List.isEmpty_eq_false_iff]
    at hhost
  constructor
  · simp only [places, remark, String.toList_append, List.append_assoc]
    exact ⟨_, rfl⟩
  · exact embeds_map_condition h
  · intro hempty
    have hempty' : s.proxy.host = "" := hempty
    exact hhost.1 (by rw [hempty']; rfl)
  · intro c hc
    have hadmits := hhost.2 c hc
    simpa only [Proxy.admits, Bool.or_eq_true, beq_iff_eq, or_assoc] using hadmits
  · exact s.proxy.one_le_port
  · exact s.proxy.port_le

/-! ### Printable lines -/

theorem isPrintableText_hostPort (p : Proxy) : IsPrintableText p.hostPort := by
  have hhost : IsPrintableText p.host := by
    intro c hc
    have hall := p.isHost_host
    rw [Proxy.isHost, Bool.and_eq_true, List.all_eq_true] at hall
    have hadmits := hall.2 c hc
    simp only [Proxy.admits, Bool.or_eq_true, beq_iff_eq] at hadmits
    rcases hadmits with (halnum | rfl) | rfl
    · exact Text.toNat_of_isAlphanum halnum
    · decide
    · decide
  exact isPrintableText_append (isPrintableText_append hhost (by decide))
    (isPrintableText_decimal p.port)

theorem isPrintableText_remark (s : Script) : IsPrintableText s.remark := by
  have hmode : IsPrintableText s.mode.text := by
    cases s.mode <;> decide +kernel
  have hscheme : IsPrintableText s.proxy.scheme.text := by
    cases s.proxy.scheme <;> decide +kernel
  have hproxy : IsPrintableText s.proxy.text :=
    isPrintableText_append (isPrintableText_append hscheme (by decide))
      (isPrintableText_hostPort s.proxy)
  have hfront : IsPrintableText ("// mode=" ++ s.mode.text ++ ", rules="
      ++ String.ofList (Text.decimal s.rules.size)) :=
    isPrintableText_append (isPrintableText_append
      (isPrintableText_append (by decide +kernel) hmode) (by decide +kernel))
      (isPrintableText_decimal _)
  exact isPrintableText_append (isPrintableText_append hfront (by decide +kernel)) hproxy

theorem toNat_of_mem_escaped {source body : List Char} (h : Escaped source body) :
    ∀ c ∈ body, 0x20 ≤ c.toNat ∧ c.toNat ≤ 0x7E := by
  have hclass : IsPrintableText "[^\\n\\r\\u2028\\u2029]" := by decide +kernel
  induction h with
  | nil => simp
  | plain hadmits _ _ ih => exact List.forall_mem_cons.2 ⟨toNat_of_admits hadmits, ih⟩
  | dot _ ih =>
      exact List.forall_mem_cons.2 ⟨by decide, List.forall_mem_cons.2 ⟨by decide, ih⟩⟩
  | one _ ih => exact List.forall_mem_append.2 ⟨hclass, ih⟩
  | run _ ih =>
      exact List.forall_mem_append.2 ⟨hclass, List.forall_mem_cons.2 ⟨by decide, ih⟩⟩

/-- The condition of a rule is printable. -/
theorem isPrintableText_of_embeds {p : Pattern} {text : String} (h : Embeds p text) :
    IsPrintableText text := by
  cases h with
  | @dotted base h =>
      have hbase : IsPrintableText base := fun c hc => toNat_of_admits (h c hc)
      exact isPrintableText_append (isPrintableText_append (isPrintableText_append
        (isPrintableText_append (by decide +kernel) hbase) (by decide +kernel)) hbase)
        (by decide +kernel)
  | @starred base h =>
      have hbase : IsPrintableText base := fun c hc => toNat_of_admits (h c hc)
      exact isPrintableText_append (isPrintableText_append (by decide +kernel) hbase)
        (by decide +kernel)
  | @glob g body h =>
      have hbody : IsPrintableText (String.ofList body) := by
        intro c hc
        rw [String.toList_ofList] at hc
        exact toNat_of_mem_escaped h c hc
      exact isPrintableText_append (isPrintableText_append (by decide +kernel) hbody)
        (by decide +kernel)

theorem isPrintableText_matched {rules : RuleSet} (h : AreValid rules.patterns) :
    IsPrintableText (matched rules).text := by
  rw [matched, filterMap_condition? h, text_anyOf]
  split
  · decide
  · refine isPrintableText_intercalate (by decide) ?_
    intro text htext
    rw [List.map_map, List.mem_map] at htext
    obtain ⟨p, hp, rfl⟩ := htext
    exact isPrintableText_of_embeds (embeds_condition (h p hp))

/-- **The lines of a script are printable.** -/
theorem isPrintableText_lines {s : Script} (h : AreValid s.rules.patterns) :
    ∀ line ∈ s.lines, IsPrintableText line := by
  have hhead : ∀ line ∈ headLines, IsPrintableText line := by decide +kernel
  have hlookup : ∀ line ∈ lookupLines, IsPrintableText line := by decide +kernel
  have hclosing : ∀ line ∈ closingLines, IsPrintableText line := by decide +kernel
  have hloopback : IsPrintableText loopbackLine := by decide +kernel
  have hmatched : IsPrintableText (matchedLine s.rules) :=
    isPrintableText_append (isPrintableText_append (by decide +kernel) (isPrintableText_matched h))
      (by decide)
  have hmode : IsPrintableText (isProxyLine s.mode) := by
    cases s.mode <;> decide +kernel
  have hresult : IsPrintableText (resultLine s.proxy) :=
    isPrintableText_append (isPrintableText_append (by decide +kernel)
      (isPrintableText_hostPort s.proxy)) (by decide +kernel)
  rw [lines_eq]
  simp only [List.forall_mem_append, List.forall_mem_singleton]
  exact ⟨⟨⟨⟨⟨⟨⟨isPrintableText_remark s, hhead⟩, hloopback⟩, hlookup⟩, hmatched⟩, hmode⟩, hresult⟩,
    hclosing⟩

/-! ### Lines of the text -/

/-- Lines put one after the other are found again, with nothing after the last one. -/
theorem splitOn_joined {ls : List String} (h : ∀ l ∈ ls, '\n' ∉ l.toList) :
    (joined ls).splitOn '\n' = ls.map String.toList ++ [[]] := by
  induction ls with
  | nil =>
      rw [joined_nil]
      rfl
  | cons l ls ih =>
      rw [List.forall_mem_cons] at h
      rw [joined_cons, List.splitOn_append_cons_self_of_not_mem h.1, ih h.2]
      rfl

theorem splitOn_text {s : Script} (h : AreValid s.rules.patterns) :
    s.text.toList.splitOn '\n' = s.lines.map String.toList ++ [[]] := by
  refine splitOn_joined fun line hline hfeed => ?_
  exact absurd (isPrintableText_lines h line hline '\n' hfeed).1 (by decide)

end Script

/-! ### Scripts of configurations -/

/-- **No text of a configuration breaks out of its place.**  Whatever texts stand in a configuration
and whatever the fallback is: cut at the line feeds, the text of the script is fifteen lines and
nothing after the last line feed; the lines are printable; and they only differ from those of any
other configuration in the remark, in host and port of the proxy, in the line of the mode, and in
the condition, which has one text for each compiled rule, written in one of the three forms.  In a
regular expression there is no slash that could end it.  And the conditions of two lists of rules
are the same text only if the same rules are compiled from them, in the same order. -/
theorem Snapshot.script_laidOut (fallback : Proxy) (c : Config) :
    (∃ p : Script.Places, p.IsFor (RuleSet.ofTexts c.rules) ∧
      (Snapshot.ofConfig fallback c).script.text.toList.splitOn '\n'
        = (p.lines c.mode).map String.toList ++ [[]] ∧
      ∀ line ∈ p.lines c.mode, Script.IsPrintableText line) ∧
    (∀ source body : List Char, Script.Escaped source body → '/' ∉ body) ∧
    ∀ texts texts' : List String,
      (Script.matched (RuleSet.ofTexts texts)).text = (Script.matched (RuleSet.ofTexts texts')).text
        ↔ (RuleSet.ofTexts texts).patterns = (RuleSet.ofTexts texts').patterns := by
  have hvalid : Script.AreValid (Snapshot.ofConfig fallback c).script.rules.patterns :=
    Script.areValid_ofTexts c.rules
  refine ⟨⟨(Snapshot.ofConfig fallback c).script.places, Script.isFor_places hvalid, ?_, ?_⟩, ?_,
    Script.text_matched_inj⟩
  · rw [Script.splitOn_text hvalid, Script.lines_eq_places hvalid]
    rfl
  · have hprintable := Script.isPrintableText_lines hvalid
    rw [Script.lines_eq_places hvalid] at hprintable
    exact hprintable
  · intro source body h
    exact Script.not_mem_of_escaped h (by decide) (by decide)

/-- A configuration full of quotes, slashes and line ends, and two lists of the same rules in another
order. -/
theorem Snapshot.script_laidOut_hostile :
    let c : Config := ⟨true, "http://evil\");//:1\n", .blacklist,
      ["a\");alert(1)//", "*/x", ".cn\n\x7d", ".c*n", "*.a?", "a?.b*c"]⟩
    let text := (Snapshot.ofConfig Proxy.standard c).script.text
    (text.toList.splitOn '\n').length = 16 ∧
      (∀ line ∈ text.toList.splitOn '\n', ∀ c ∈ line, 0x20 ≤ c.toNat ∧ c.toNat ≤ 0x7E) ∧
      '/' ∉ ['a', '\\', '.', 'b'] ∧
      (Script.matched (RuleSet.ofTexts [".cn", "*.cn"])).text
        ≠ (Script.matched (RuleSet.ofTexts ["*.cn", ".cn"])).text := by
  intro c text
  obtain ⟨⟨p, -, hlines, hprintable⟩, hescaped, hdetermined⟩ := script_laidOut Proxy.standard c
  refine ⟨?_, ?_, ?_, ?_⟩
  · rw [hlines, List.length_append, List.length_map]
    rfl
  · rw [hlines]
    intro line hline
    rcases List.mem_append.1 hline with hline | hline
    · obtain ⟨l, hl, rfl⟩ := List.mem_map.1 hline
      exact hprintable l hl
    · rw [List.mem_singleton.1 hline]
      simp
  · exact hescaped ['a', '.', 'b'] _
      (.plain (by decide) (by decide) (.dot (.plain (by decide) (by decide) .nil)))
  · intro h
    exact absurd ((hdetermined _ _).1 h) (by decide +kernel)

end HostRouting
