/-
**The program of a script.**

Line by line the text of a script gives its tokens, and these form one program: a record for the
answers given so far and a function that tests for the machine itself, looks the host up and else
decides by the condition of the rules.  Only three things in the text depend on the configuration
and none can leave its place: the remark stays on its line, host and port between their quotes, and
the condition is a term.

Main definitions:

* `Script.headLines`, …, `Script.closingLines` — the lines of a script in groups;
* `Script.allTokens` — the tokens of a script;
* `Script.findProxy` — the function of a script.

Main results:

* `Script.feed_script` — the text of a script has these tokens;
* `Script.program_allTokens` — the tokens form the program with this function;
* `Script.read_script` — both steps for the whole text.
-/

import HostRouting.Proofs.Script.Condition
import HostRouting.Script.Basic

set_option autoImplicit false

namespace HostRouting.Script

/-! ### What depends on the configuration -/

/-- Whether a text stays on one line. -/
def IsInLine (s : String) : Prop := ∀ c ∈ s.toList, Glob.isLineTerminator c = false

instance (s : String) : Decidable (IsInLine s) := List.decidableBAll _ _

theorem isInLine_append {s t : String} (hs : IsInLine s) (ht : IsInLine t) :
    IsInLine (s ++ t) := by
  intro c hc
  rw [String.toList_append] at hc
  rcases List.mem_append.1 hc with hc | hc
  · exact hs c hc
  · exact ht c hc

theorem admits_of_mem_decimal {n : Nat} {c : Char} (hc : c ∈ Text.decimal n) :
    Pattern.admits c = true :=
  Pattern.admits_of_isDigit (Nat.isDigit_of_mem_toDigits (by decide) (by decide) hc)

/-- Host and port of a proxy may stand between quotes. -/
theorem isQuotable_hostPort (p : Proxy) : IsQuotableText p.hostPort := by
  intro c hc
  have hhost := p.isHost_host
  rw [Proxy.isHost, Bool.and_eq_true, List.all_eq_true] at hhost
  have hport : (String.ofList (Text.decimal p.port)).toList = Text.decimal p.port :=
    String.toList_ofList
  rw [Proxy.hostPort, String.toList_append, String.toList_append, hport, List.mem_append,
    List.mem_append] at hc
  rcases hc with (hc | hc) | hc
  · have hadmits : Pattern.admits c = true := by
      have h := hhost.2 c hc
      simp only [Proxy.admits, Bool.or_eq_true, beq_iff_eq] at h
      rcases h with (h | rfl) | rfl
      · simp [Pattern.admits, h]
      · decide
      · decide
    exact isQuotable_of_admits hadmits
  · rw [List.mem_singleton.1 (show c ∈ [':'] from hc)]
    exact ⟨by decide, by decide, by decide⟩
  · exact isQuotable_of_admits (admits_of_mem_decimal hc)

theorem isInLine_hostPort (p : Proxy) : IsInLine p.hostPort :=
  fun c hc => (isQuotable_hostPort p c hc).2.2

/-- The remark of a script stays on its line. -/
theorem isInLine_remark (s : Script) :
    IsInLine (s.mode.text ++ ", rules=" ++ String.ofList (Text.decimal s.rules.size) ++ ", proxy="
      ++ s.proxy.text) := by
  have hmode : IsInLine s.mode.text := by
    cases s.mode <;> decide +kernel
  have hsize : IsInLine (String.ofList (Text.decimal s.rules.size)) := by
    intro c hc
    rw [String.toList_ofList] at hc
    exact (isQuotable_of_admits (admits_of_mem_decimal hc)).2.2
  have hproxy : IsInLine s.proxy.text := by
    have hscheme : IsInLine s.proxy.scheme.text := by
      cases s.proxy.scheme <;> decide +kernel
    have hslashes : IsInLine "://" := by decide +kernel
    exact isInLine_append (isInLine_append hscheme hslashes) (isInLine_hostPort _)
  have hrules : IsInLine ", rules=" := by decide +kernel
  have hword : IsInLine ", proxy=" := by decide +kernel
  exact isInLine_append (isInLine_append (isInLine_append (isInLine_append hmode hrules) hsize)
    hword) hproxy

/-! ### Lines -/

/-- The lines in front of the test for the machine itself. -/
def headLines : List String :=
  ["var cache = Object.create(null);", "function FindProxyForURL(url, host) \x7b"]

/-- The line of this test. -/
def loopbackLine : String := "  if (" ++ loopback.text ++ ") \x7b"

/-- The lines from the answer to it up to the condition. -/
def lookupLines : List String := [
  "    return \"DIRECT\";",
  "  \x7d",
  "  if (host in cache) \x7b",
  "    return cache[host];",
  "  \x7d"]

/-- The line of the condition. -/
def matchedLine (rules : RuleSet) : String := "  var matched = " ++ (matched rules).text ++ ";"

/-- The line of the mode. -/
def isProxyLine (mode : Mode) : String := "  var isProxy = " ++ isProxyText mode ++ ";"

/-- The line of the result. -/
def resultLine (p : Proxy) : String :=
  "  var result = isProxy ? \"PROXY " ++ p.hostPort ++ "\" : \"DIRECT\";"

/-- The lines after the result is known. -/
def closingLines : List String := ["  cache[host] = result;", "  return result;", "\x7d"]

theorem lines_eq (s : Script) :
    s.lines = [s.remark] ++ headLines ++ [loopbackLine] ++ lookupLines ++ [matchedLine s.rules]
      ++ [isProxyLine s.mode] ++ [resultLine s.proxy] ++ closingLines := rfl

/-! ### Tokens -/

/-- The tokens in front of the test for the machine itself. -/
def headTokens : List Token := [
  .keyword .declare, .name "cache", .mark .assign, .name "Object", .mark .dot, .name "create",
  .mark .parenOpen, .keyword .null, .mark .parenClose, .mark .semicolon,
  .keyword .define, .name "FindProxyForURL", .mark .parenOpen, .name "url", .mark .comma,
  .name "host", .mark .parenClose, .mark .braceOpen]

/-- The tokens of the test for the machine itself. -/
def loopbackTokens : List Token := [
  .name "host", .mark .same, .text "localhost", .mark .or,
  .name "host", .mark .same, .text "127.0.0.1", .mark .or, .name "host", .mark .same, .text "::1"]

/-- The tokens from the answer to it up to the condition. -/
def lookupTokens : List Token := [
  .keyword .give, .text "DIRECT", .mark .semicolon, .mark .braceClose,
  .keyword .when, .mark .parenOpen, .name "host", .keyword .within, .name "cache",
  .mark .parenClose, .mark .braceOpen, .keyword .give, .name "cache", .mark .bracketOpen,
  .name "host", .mark .bracketClose, .mark .semicolon, .mark .braceClose]

/-- The tokens that say whether a matched host goes through the proxy. -/
def modeTokens : Mode → List Token
  | .whitelist => [.mark .not, .name "matched"]
  | .blacklist => [.name "matched"]

/-- The tokens of the last lines. -/
def closingTokens : List Token := [
  .name "cache", .mark .bracketOpen, .name "host", .mark .bracketClose, .mark .assign,
  .name "result", .mark .semicolon, .keyword .give, .name "result", .mark .semicolon,
  .mark .braceClose]

/-- The tokens after the condition. -/
def resultTokens (s : Script) : List Token :=
  .keyword .declare :: .name "isProxy" :: .mark .assign :: (modeTokens s.mode ++
    .mark .semicolon :: .keyword .declare :: .name "result" :: .mark .assign :: .name "isProxy" ::
      .mark .question :: .text ("PROXY " ++ s.proxy.hostPort) :: .mark .colon :: .text "DIRECT" ::
        .mark .semicolon :: closingTokens)

/-- The tokens of a script, from those of its condition. -/
def allTokens (s : Script) (ts : List Token) : List Token :=
  headTokens ++ .keyword .when :: .mark .parenOpen :: (loopbackTokens ++ .mark .parenClose ::
    .mark .braceOpen :: (lookupTokens ++ .keyword .declare :: .name "matched" :: .mark .assign ::
      (ts ++ .mark .semicolon :: resultTokens s)))

/-! ### Tokens of lines -/

/-- The characters of lines. -/
def joined (ls : List String) : List Char := (String.join (ls.map (· ++ "\n"))).toList

@[simp] theorem joined_nil : joined [] = [] := by
  rw [joined, List.map_nil, String.join_nil]
  rfl

theorem joined_cons (l : String) (ls : List String) :
    joined (l :: ls) = l.toList ++ '\n' :: joined ls := by
  rw [joined, List.map_cons, String.join_cons, String.toList_append, String.toList_append,
    List.append_assoc]
  rfl

theorem joined_literal (cs : List Char) (ls : List String) :
    joined (String.ofList cs :: ls) = cs ++ '\n' :: joined ls := by
  rw [joined_cons, String.toList_ofList]

theorem joined_append (ls ms : List String) : joined (ls ++ ms) = joined ls ++ joined ms := by
  rw [joined, List.map_append, String.join_append, String.toList_append]
  rfl

theorem joined_singleton (l : String) : joined [l] = l.toList ++ ['\n'] := by
  rw [joined_cons, joined_nil]

/-- The end of a line completes no token. -/
theorem feed_line {st : State} {l : String} {ts : List Token}
    (h : feed st l.toList = some (ts, .gap .operator)) :
    feed st (joined [l]) = some (ts, .gap .operator) := by
  have hend : feed (.gap .operator) ['\n'] = some ([], .gap .operator) := rfl
  rw [joined_singleton, feed_append h hend, List.append_nil]

theorem feed_headLines :
    feed (.gap .operator) (joined headLines) = some (headTokens, .gap .operator) := by
  rw [headLines, joined_literal, joined_literal, joined_nil]
  decide +kernel

theorem feed_lookupLines :
    feed (.gap .operator) (joined lookupLines) = some (lookupTokens, .gap .value) := by
  rw [lookupLines, joined_literal, joined_literal, joined_literal, joined_literal, joined_literal,
    joined_nil]
  decide +kernel

theorem feed_closingLines :
    feed (.gap .operator) (joined closingLines) = some (closingTokens, .gap .value) := by
  rw [closingLines, joined_literal, joined_literal, joined_literal, joined_nil]
  decide +kernel

theorem feed_remarkLine (s : Script) :
    feed (.gap .operator) (joined [s.remark]) = some ([], .gap .operator) := by
  have hopen : feed (.gap .operator) "// mode=".toList = some ([], .remark .operator) :=
    feed_literal (by decide +kernel)
  have hend : feed (.remark .operator) ['\n'] = some ([], .gap .operator) := rfl
  have hsplit : s.remark = "// mode=" ++ (s.mode.text ++ ", rules="
      ++ String.ofList (Text.decimal s.rules.size) ++ ", proxy=" ++ s.proxy.text) := by
    simp only [remark, String.append_assoc]
  rw [joined_singleton, hsplit, String.toList_append]
  exact feed_append (feed_append hopen (feed_remark .operator _ (isInLine_remark s))) hend

/-- The condition under which a host is the machine itself, as a term. -/
def loopbackTerm : Term :=
  .or (.same (.name "host") (.text "localhost"))
    (.or (.same (.name "host") (.text "127.0.0.1")) (.same (.name "host") (.text "::1")))

theorem isRead_loopback : loopback.IsRead .either loopbackTokens loopbackTerm :=
  isRead_or (isRead_equals "localhost" (by decide +kernel))
    (isRead_or (isRead_equals "127.0.0.1" (by decide +kernel))
      (isRead_sum (isRead_equals "::1" (by decide +kernel))))

theorem holds_loopback (host : String) : loopback.holds host = isLoopback host := by
  rw [loopback, holds_anyOf, List.any_map, isLoopback, List.contains_eq_any_beq]
  rfl

theorem feed_loopbackLine :
    feed (.gap .operator) (joined [loopbackLine])
      = some (.keyword .when :: .mark .parenOpen :: loopbackTokens
          ++ [.mark .parenClose, .mark .braceOpen], .gap .operator) := by
  have hopen : feed (.gap .operator) "  if (".toList
      = some ([.keyword .when, .mark .parenOpen], .gap .operator) :=
    feed_literal (by decide +kernel)
  have hclose : feed (.gap .value) ") \x7b".toList
      = some ([.mark .parenClose, .mark .braceOpen], .gap .operator) :=
    feed_literal (by decide +kernel)
  refine feed_line ?_
  rw [loopbackLine, String.toList_append, String.toList_append]
  exact feed_append (feed_append hopen isRead_loopback.feeds) hclose

theorem feed_matchedLine {rules : RuleSet} {ts : List Token} {t : Term} (h : IsMatched rules ts t) :
    feed (.gap .value) (joined [matchedLine rules])
      = some (.keyword .declare :: .name "matched" :: .mark .assign :: (ts ++ [.mark .semicolon]),
          .gap .operator) := by
  have hopen : feed (.gap .value) "  var matched = ".toList
      = some ([.keyword .declare, .name "matched", .mark .assign], .gap .operator) :=
    feed_literal (by decide +kernel)
  have hall := feed_append hopen h.feeds
  refine feed_line ?_
  unfold matchedLine
  rw [String.toList_append, String.toList_append, List.append_assoc]
  exact hall

theorem feed_isProxyLine (mode : Mode) :
    feed (.gap .operator) (joined [isProxyLine mode])
      = some (.keyword .declare :: .name "isProxy" :: .mark .assign
          :: (modeTokens mode ++ [.mark .semicolon]), .gap .operator) := by
  have hopen : feed (.gap .operator) "  var isProxy = ".toList
      = some ([.keyword .declare, .name "isProxy", .mark .assign], .gap .operator) :=
    feed_literal (by decide +kernel)
  have hmode : feed (.gap .operator) ((isProxyText mode).toList ++ [';'])
      = some (modeTokens mode ++ [.mark .semicolon], .gap .operator) := by
    cases mode <;> decide +kernel
  have hall := feed_append hopen hmode
  refine feed_line ?_
  unfold isProxyLine
  rw [String.toList_append, String.toList_append, List.append_assoc]
  exact hall

theorem feed_resultLine (p : Proxy) :
    feed (.gap .operator) (joined [resultLine p])
      = some ([.keyword .declare, .name "result", .mark .assign, .name "isProxy", .mark .question,
          .text ("PROXY " ++ p.hostPort), .mark .colon, .text "DIRECT", .mark .semicolon],
          .gap .operator) := by
  have hopen : feed (.gap .operator) "  var result = isProxy ? \"".toList
      = some ([.keyword .declare, .name "result", .mark .assign, .name "isProxy",
          .mark .question], .quoted []) := feed_literal (by decide +kernel)
  have hquotable : IsQuotableText ("PROXY " ++ p.hostPort) := by
    intro c hc
    have hword : IsQuotableText "PROXY " := by decide +kernel
    rw [String.toList_append] at hc
    rcases List.mem_append.1 hc with hc | hc
    · exact hword c hc
    · exact isQuotable_hostPort p c hc
  have hend : feed (.gap .value) " : \"DIRECT\";\n".toList
      = some ([.mark .colon, .text "DIRECT", .mark .semicolon], .gap .operator) :=
    feed_literal (by decide +kernel)
  have hfront : "  var result = isProxy ? \"PROXY "
      = "  var result = isProxy ? \"" ++ "PROXY " := by
    decide +kernel
  have hback : "\" : \"DIRECT\";".toList ++ ['\n'] = '\"' :: " : \"DIRECT\";\n".toList := by
    decide +kernel
  -- the word in front of the host belongs to the same literal
  have hline : resultLine p
      = "  var result = isProxy ? \"" ++ ("PROXY " ++ p.hostPort) ++ "\" : \"DIRECT\";" := by
    unfold resultLine
    rw [hfront]
    simp only [String.append_assoc]
  rw [joined_singleton, hline, String.toList_append, String.toList_append, List.append_assoc, hback]
  exact feed_append (feed_append hopen (feed_quoted _ hquotable)) (feed_quoted_close _ hend)

/-- **The text of a script has its tokens.** -/
theorem feed_script {s : Script} {ts : List Token} {t : Term} (h : IsMatched s.rules ts t) :
    feed (.gap .operator) s.text.toList = some (allTokens s ts, .gap .value) := by
  have htext : s.text.toList = joined [s.remark] ++ joined headLines ++ joined [loopbackLine]
      ++ joined lookupLines ++ joined [matchedLine s.rules] ++ joined [isProxyLine s.mode]
      ++ joined [resultLine s.proxy] ++ joined closingLines := by
    have hjoined : s.text.toList = joined s.lines := rfl
    rw [hjoined, lines_eq]
    simp only [joined_append]
  -- every group of lines starts between two tokens, in the state that the one before leaves
  have hfront := feed_append (feed_append (feed_append (feed_remarkLine s) feed_headLines)
    feed_loopbackLine) feed_lookupLines
  have hback := feed_append (feed_append (feed_append hfront (feed_matchedLine h))
    (feed_isProxyLine s.mode)) (feed_resultLine s.proxy)
  rw [htext, feed_append hback feed_closingLines, allTokens, resultTokens]
  simp only [List.append_assoc, List.cons_append, List.nil_append]

/-! ### The program -/

/-- The term that says whether a matched host goes through the proxy. -/
def modeTerm : Mode → Term
  | .whitelist => .not (.name "matched")
  | .blacklist => .name "matched"

/-- What a script does once it knows whether the host is matched. -/
def resultCode (s : Script) : Code :=
  .declare "isProxy" (modeTerm s.mode)
    (.declare "result"
      (.choice (.name "isProxy") (.text ("PROXY " ++ s.proxy.hostPort)) (.text "DIRECT"))
      (.put "cache" (.name "host") (.name "result") (.give (.name "result") .done)))

/-- The function of a script, from the term of its condition. -/
def findProxy (s : Script) (t : Term) : Function where
  params := ["url", "host"]
  body :=
    .when loopbackTerm (.give (.text "DIRECT") .done)
      (.when (.has "cache" (.name "host")) (.give (.entry "cache" (.name "host")) .done)
        (.declare "matched" t (resultCode s)))

/-- The program of a script, from the term of its condition. -/
def programOf (s : Script) (t : Term) : Program := ⟨["cache"], [("FindProxyForURL", findProxy s t)]⟩

theorem code_resultTokens (s : Script) (k : Nat) :
    code (k + 20) (resultTokens s) = some (resultCode s, []) := by
  rw [resultTokens, resultCode]
  cases s.mode <;> rfl

/-- **The tokens of a script form its program.** -/
theorem program_allTokens {s : Script} {ts : List Token} {t : Term} (h : IsMatched s.rules ts t)
    {k : Nat} (hk : 8 * ts.length + 100 ≤ k) :
    program (k + 40) (allTokens s ts) = some (programOf s t) := by
  -- from the condition outwards: its declaration, the look-up before it, the test before that
  have hmatched := code_declare (x := "matched")
    (h.parses (k + 35) (.mark .semicolon :: resultTokens s) (by omega) (.semicolon _))
    (code_resultTokens s (k + 15))
  have hloopback := term_choice_of_either
    (isRead_loopback.parses (k + 36) (.mark .parenClose :: .mark .braceOpen :: (lookupTokens
      ++ .keyword .declare :: .name "matched" :: .mark .assign
        :: (ts ++ .mark .semicolon :: resultTokens s)))
      (by rw [need_either]; simp only [loopbackTokens, List.length_cons, List.length_nil]; omega)
      (.close _)) (.close _)
  have hlookup : code (k + 37) (lookupTokens.drop 4 ++ .keyword .declare :: .name "matched" ::
      .mark .assign :: (ts ++ .mark .semicolon :: resultTokens s))
      = some (.when (.has "cache" (.name "host")) (.give (.entry "cache" (.name "host")) .done)
          (.declare "matched" t (resultCode s)), []) := code_when rfl rfl hmatched
  have hbody := code_when hloopback rfl hlookup
  exact program_record (program_function rfl hbody rfl)

/-- **The text of a script is read as its program.** -/
theorem read_script {s : Script} {ts : List Token} {t : Term} (h : IsMatched s.rules ts t) :
    (tokens? s.text.toList).bind program? = some (programOf s t) := by
  have htokens : tokens? s.text.toList = some (allTokens s ts) := by
    rw [tokens?, feed_script h, Option.bind_some, State.close?, Option.map_some, List.append_nil]
  have hlength : 8 * ts.length + 100 ≤ 8 * (allTokens s ts).length := by
    simp only [allTokens, headTokens, loopbackTokens, lookupTokens, List.length_append,
      List.length_cons, List.length_nil]
    omega
  have hclear : (programOf s t).isClear = true := rfl
  rw [htokens, Option.bind_some, program?, depth, program_allTokens h hlength, Option.filter_some,
    hclear]
  rfl

end HostRouting.Script
