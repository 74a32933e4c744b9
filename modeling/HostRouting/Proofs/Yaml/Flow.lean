/-
**Tokens of flow collections.**

In a flow collection brackets, braces and commas are tokens whatever stands around them.  A word is
read as it is, plain or in quotes, and other texts in double quotes are folded.  Quotes may begin a
key; they do if a colon follows on the same line and not too far away, and then the token of the key
is put in before them.

Main definitions:

* `Yaml.Scanner.Closes` — what may follow a plain word.

Main results:

* `Yaml.Scanner.At.leads_open`, `Yaml.Scanner.At.leads_close`, `Yaml.Scanner.At.leads_comma` — the
  marks of flow collections;
* `Yaml.Scanner.At.leads_word`, `Yaml.Scanner.At.reads_quoted` — plain words, and texts in quotes;
* `Yaml.Scanner.At.leads_key` — **a word in quotes with a colon behind it is a key**.
-/

import HostRouting.Proofs.Text.Alphanum
import HostRouting.Proofs.Yaml.Refolding
import HostRouting.Proofs.Yaml.Scanning

set_option autoImplicit false

namespace HostRouting.Yaml.Scanner

/-! ### Marks of flow collections -/

section

variable {s : Scanner} {ts : List Token} {d : Nat} {c : Char} {cs : List Char}

theorem rest_take (hrest : s.rest = c :: cs) (t : Token) : (s.take t 1).rest = cs := by
  have hcursor : s.cursor.rest = c :: cs := hrest
  change s.cursor.rest.drop 1 = cs
  rw [hcursor]
  rfl

theorem At.pushed {text rest after : List Char} (h : s.At ts d text) (t : Token) (p : Pos)
    (hrest : after.dropWhile isLayout = rest.dropWhile isLayout) :
    ((s.push t).moved ⟨p, after⟩).At (ts ++ [t]) d rest :=
  { h with
    tokens := by
      change (t :: s.tokens).reverse = ts ++ [t]
      rw [List.reverse_cons, h.tokens]
    text := hrest }

theorem At.take (h : s.At ts d (c :: cs)) (hrest : s.rest = c :: cs) (t : Token) :
    (s.take t 1).At (ts ++ [t]) d cs :=
  h.pushed t (s.cursor.pos.right 1) (congrArg _ (rest_take hrest t))

theorem token?_openBracket : s.token? '[' cs = s.openFlow? .flowSequenceStart := by
  simp [token?, beginsWithMark_of_ne]

theorem token?_openBrace : s.token? '\x7b' cs = s.openFlow? .flowMappingStart := by
  simp [token?, beginsWithMark_of_ne]

theorem token?_closeBracket : s.token? ']' cs = s.closeFlow? .flowSequenceEnd := by
  simp [token?, beginsWithMark_of_ne]

theorem token?_closeBrace : s.token? '\x7d' cs = s.closeFlow? .flowMappingEnd := by
  simp [token?, beginsWithMark_of_ne]

theorem token?_comma : s.token? ',' cs = flowEntry? s := by
  simp [token?, beginsWithMark_of_ne]

theorem token?_quote : s.token? '"' cs = s.quotedScalar? .doubleQuoted := by
  simp [token?, beginsWithMark_of_ne]

theorem token?_colon (h : s.inFlow = true) : s.token? ':' cs = s.value? := by
  simp [token?, beginsWithMark_of_ne, h]

theorem token?_true : s.token? 't' cs = s.plainScalar? := by
  simp [token?, beginsWithMark_of_ne, beginsPlain, isMark, isBlank, isBreak]

theorem token?_false : s.token? 'f' cs = s.plainScalar? := by
  simp [token?, beginsWithMark_of_ne, beginsPlain, isMark, isBlank, isBreak]

/-- An opening bracket or brace, in a flow collection or at the start of a text. -/
theorem At.leads_open {t : Token} (h : s.At ts d (c :: cs)) (hc : beginsToken c = true)
    (hd : 0 < d ∨ s.rest = c :: cs) (ht : ∀ s : Scanner, s.token? c cs = s.openFlow? t) :
    ∃ s₂, s.Leads s₂ ∧ s₂.At (ts ++ [t]) (d + 1) cs ∧ s₂.keyAllowed = true := by
  refine h.leads_token hc hd fun s₁ hat hrest _ _ => ?_
  obtain ⟨hkey, hfree⟩ := hat.withKey?_eq
  let inside : Scanner :=
    { s₁ with key := none, outerKeys := s₁.keyHere :: s₁.outerKeys, keyAllowed := true }
  have hopen : s₁.openFlow? t = some (inside.take t 1) := by
    rw [openFlow?, hkey]
    rfl
  have hinside : inside.At ts (d + 1) (c :: cs) :=
    { hfree with
      depth := congrArg (· + 1) hfree.depth
      key := rfl
      outerKeys := List.forall_mem_cons.2 ⟨hfree.key, hfree.outerKeys⟩ }
  exact ⟨inside.take t 1, (ht s₁).trans hopen,
    Nat.le_of_eq (congrArg _ (rest_take (s := inside) hrest t)), hinside.take hrest t, rfl⟩

/-- A closing bracket or brace. -/
theorem At.leads_close {t : Token} (h : s.At ts (d + 1) (c :: cs)) (hc : beginsToken c = true)
    (ht : ∀ s : Scanner, s.token? c cs = s.closeFlow? t) :
    ∃ s₂, s.Leads s₂ ∧ s₂.At (ts ++ [t]) d cs ∧ s₂.rest = cs := by
  refine h.leads_token hc (.inl (Nat.succ_pos d)) fun s₁ hat hrest _ _ => ?_
  obtain ⟨key, more, hkeys⟩ := List.exists_cons_of_length_eq_add_one hat.depth
  have houter := hat.outerKeys
  have hdepth := hat.depth
  rw [hkeys, List.forall_mem_cons] at houter
  rw [hkeys] at hdepth
  let outside : Scanner := { s₁ with key := key, outerKeys := more, keyAllowed := false }
  have hclose : s₁.closeFlow? t = some (outside.take t 1) := by
    rw [closeFlow?, withoutKey?_of_isFree hat.key, Option.bind_eq_bind, Option.bind_some, leaveFlow]
    simp only [hkeys]
    rfl
  have houtside : outside.At ts d (c :: cs) :=
    { hat with
      depth := Nat.succ.inj hdepth
      key := houter.1
      outerKeys := houter.2 }
  have hafter : (outside.take t 1).rest = cs := rest_take (s := outside) hrest t
  exact ⟨outside.take t 1, (ht s₁).trans hclose, Nat.le_of_eq (congrArg _ hafter),
    houtside.take hrest t, hafter⟩

/-- The comma behind an item. -/
theorem At.leads_comma (h : s.At ts d (',' :: cs)) (hd : 0 < d) :
    ∃ s₂, s.Leads s₂ ∧ s₂.At (ts ++ [.flowEntry]) d cs ∧ s₂.keyAllowed = true := by
  refine h.leads_token (by decide) (.inl hd) fun s₁ hat hrest _ _ => ?_
  let behind : Scanner := { s₁ with key := none, keyAllowed := true }
  have hentry : flowEntry? s₁ = some (behind.take .flowEntry 1) := by
    rw [ flowEntry?, withoutKey?_of_isFree hat.key]
    rfl
  have hbehind : behind.At ts d (',' :: cs) := { hat with key := rfl }
  exact ⟨behind.take .flowEntry 1, token?_comma.trans hentry,
    Nat.le_of_eq (congrArg _ (rest_take (s := behind) hrest _)), hbehind.take hrest _, rfl⟩

end

/-! ### Words -/

section

variable {c : Char} (h : c.isAlphanum = true)

include h

theorem isBlank_of_isAlphanum : isBlank c = false := by
  simpa [isBlank] using Text.not_mem_of_isAlphanum (l := [' ', '\t']) h rfl

theorem isBreak_of_isAlphanum : isBreak c = false := by
  simpa [isBreak, and_assoc] using
    Text.not_mem_of_isAlphanum (l := ['\n', '\r', '\u0085', '\u2028', '\u2029']) h rfl

theorem isSeparator_of_isAlphanum : isSeparator c = false := by
  simpa [isSeparator, and_assoc] using
    Text.not_mem_of_isAlphanum (l := ['\u0085', '\u2028', '\u2029']) h rfl

theorem isFlowMark_of_isAlphanum : isFlowMark c = false := by
  simpa [isFlowMark, and_assoc] using
    Text.not_mem_of_isAlphanum (l := [',', '[', ']', '\x7b', '\x7d']) h rfl

theorem beginsToken_of_isAlphanum : beginsToken c = true := by
  simpa [beginsToken, isBlank_of_isAlphanum h, isBreak_of_isAlphanum h] using
    Text.not_mem_of_isAlphanum (l := ['#', '\uFEFF']) h rfl

theorem beginsWithDocumentMark_of_isAlphanum (cs : List Char) :
    beginsWithDocumentMark (c :: cs) = false := by
  rw [beginsWithDocumentMark, beginsWithMark_of_ne (Text.ne_of_isAlphanum h (by decide)),
    beginsWithMark_of_ne (Text.ne_of_isAlphanum h (by decide))]
  rfl

theorem escaped_of_isAlphanum : Json.escaped c = [c] := by
  have hlow : ¬c.toNat < 0x20 := by
    have hbounds := Text.toNat_of_isAlphanum h
    omega
  have hnot := Text.not_mem_of_isAlphanum
    (l := ['"', '\\', '\x08', '\x0C', '\n', '\r', '\t']) h rfl
  simp only [List.mem_cons, List.not_mem_nil, not_or] at hnot
  simp [Json.escaped, hlow, hnot]

end

/-- A word is scanned as it is, on one line. -/
theorem scanQuotedFrom?_word (rest : List Char) (cs : List Char)
    (h : ∀ c ∈ cs, c.isAlphanum = true) : ∀ p : Pos,
    scanQuotedFrom? false 0 .none p (written cs ++ rest)
      = some (cs, ⟨p.right (cs.length + 1), rest⟩) := by
  induction cs with
  | nil => exact fun p => scanQuotedFrom?_quote .none p rest
  | cons c cs ih =>
      intro p
      obtain ⟨hc, hcs⟩ := List.forall_mem_cons.1 h
      have hmark : beginsWithDocumentMark (Json.escaped c ++ (written cs ++ rest)) = false := by
        rw [escaped_of_isAlphanum hc]
        exact beginsWithDocumentMark_of_isAlphanum hc _
      have hright : (p.right 1).right (cs.length + 1) = p.right ((c :: cs).length + 1) := by
        simp only [Pos.right, List.length_cons, Pos.mk.injEq, true_and]
        omega
      rw [written_cons, List.append_assoc,
        scanQuotedFrom?_other (isSeparator_of_isAlphanum hc) (Text.ne_of_isAlphanum hc (by decide)),
        hmark, Bool.and_false,
        escaped_of_isAlphanum hc, List.length_singleton, ih hcs, hright]
      rfl

/-- What may follow a plain word in a flow collection: a mark, with layout in front of it. -/
def Closes (rest : List Char) : Prop :=
  ∃ c cs, rest.dropWhile isLayout = c :: cs ∧ (c = ',' ∨ c = ']' ∨ c = '\x7d')

theorem Closes.dropWhile_dropWhile {rest : List Char} (h : Closes rest) :
    (rest.dropWhile isLayout).dropWhile isLayout = rest.dropWhile isLayout := by
  obtain ⟨c, cs, hdrop, hc⟩ := h
  have hmark : isLayout c = false := by
    rcases hc with rfl | rfl | rfl <;> decide
  rw [hdrop, List.dropWhile_cons_of_neg (by simp [hmark])]

theorem exists_scanPlainFrom?_of_closes {rest : List Char} (h : Closes rest) :
    ∀ (g : Gap) (p : Pos), ∃ passed after, scanPlainFrom? 0 true g p rest
      = some ⟨[], passed, ⟨after, rest.dropWhile isLayout⟩⟩ := by
  induction rest with
  | nil =>
      obtain ⟨c, cs, hdrop, -⟩ := h
      cases hdrop
  | cons x rest ih =>
      intro g p
      by_cases hspace : x = ' '
      · subst hspace
        obtain ⟨passed, after, hscan⟩ := ih h (g.blank ' ') (p.right 1)
        exact ⟨passed, after, hscan⟩
      by_cases hline : x = '\n'
      · subst hline
        obtain ⟨passed, after, hscan⟩ := ih h (g.lineEnd '\n') (p.down 1)
        exact ⟨passed, after, hscan⟩
      · have hx : isLayout x = false := by simp [isLayout, hspace, hline]
        have hstay : (x :: rest).dropWhile isLayout = x :: rest :=
          List.dropWhile_cons_of_neg (by simp [hx])
        obtain ⟨c, cs, hdrop, hc⟩ := h
        rw [hstay] at hdrop ⊢
        obtain ⟨rfl, rfl⟩ := List.cons_eq_cons.1 hdrop
        -- the mark ends the word whether or not layout stands in front of it
        refine ⟨g.isBetweenLines, p, ?_⟩
        rcases hc with rfl | rfl | rfl <;>
          simp [scanPlainFrom?, isBreak, isBlank, isUnclearColon, endsPlain, isFlowMark]

theorem exists_scanPlainFrom?_word {rest : List Char} (hrest : Closes rest) (cs : List Char)
    (h : ∀ c ∈ cs, c.isAlphanum = true) : ∀ p : Pos,
    ∃ passed after, scanPlainFrom? 0 true .none p (cs ++ rest)
      = some ⟨cs, passed, ⟨after, rest.dropWhile isLayout⟩⟩ := by
  induction cs with
  | nil => exact exists_scanPlainFrom?_of_closes hrest .none
  | cons c cs ih =>
      intro p
      obtain ⟨hc, hcs⟩ := List.forall_mem_cons.1 h
      obtain ⟨passed, after, hscan⟩ := ih hcs (p.right 1)
      have hcolon : c ≠ ':' := Text.ne_of_isAlphanum hc (by decide)
      have hclear : isUnclearColon (c :: (cs ++ rest)) = false := by
        unfold isUnclearColon
        split
        · next heq => exact absurd (List.head_eq_of_cons_eq heq) hcolon
        · rfl
      refine ⟨passed, after, ?_⟩
      rw [List.cons_append, scanPlainFrom?, hscan]
      · simp [isBreak_of_isAlphanum hc, isBlank_of_isAlphanum hc, hclear, endsPlain, hcolon,
          isFlowMark_of_isAlphanum hc, Gap.text]
      · exact fun _ h _ => Text.ne_of_isAlphanum hc (by decide) h

/-! ### Scalars -/

/-- The scanner that has remembered the key which a scalar may be, and knows whether another key may
begin behind it. -/
def behindScalar (allowed : Bool) (s : Scanner) : Scanner :=
  { s with key := s.keyHere, keyAllowed := allowed }

theorem openBlock_of_inFlow {s : Scanner} (h : s.inFlow = true) (column number : Nat) (t : Token) :
    s.openBlock column number t = s := by
  rw [openBlock, h]
  rfl

section

variable {s : Scanner} {ts : List Token} {d : Nat} {text : List Char}

theorem At.behindScalar (h : s.At ts d text) (allowed : Bool) :
    (s.behindScalar allowed).At ts d text := { h.withKey?_eq.2 with }

theorem At.token?_quote_eq (h : s.At ts d ('"' :: text)) (hrest : s.rest = '"' :: text) :
    s.token? '"' text = (scanQuotedFrom? false 0 .none (s.cursor.pos.right 1) text).map fun r =>
      ((s.behindScalar false).push (.scalar .doubleQuoted r.1)).moved r.2 := by
  have hcursor : s.cursor.rest = '"' :: text := hrest
  have hskip : s.cursor.skip 1 = ⟨s.cursor.pos.right 1, text⟩ := by
    rw [Cursor.skip, hcursor]
    rfl
  rw [token?_quote, quotedScalar?, h.withKey?_eq.1, Option.bind_eq_bind, Option.bind_some]
  dsimp only
  rw [hskip]
  change (scanQuotedFrom? false 0 .none (s.cursor.pos.right 1) text).bind _ = _
  cases scanQuotedFrom? false 0 .none (s.cursor.pos.right 1) text <;> rfl

end

/-- The scanner that has put the token of a key in front of its last token. -/
def withKeyBefore (s : Scanner) (t : Token) (ts : List Token) : Scanner :=
  { s with tokens := t :: .key :: ts.reverse, key := none, keyAllowed := false }

/-- In a flow collection the last token is the key of the value that a colon begins. -/
theorem value?_of_key {s : Scanner} {t : Token} {ts : List Token} {k : SimpleKey}
    (hflow : s.inFlow = true) (htokens : s.tokens = t :: ts.reverse) (hkey : s.key = some k)
    (hnumber : k.number = ts.length) :
    s.value? = some ((s.withKeyBefore t ts).take .value 1) := by
  have hinsert : s.insert k.number .key = { s with tokens := t :: .key :: ts.reverse } := by
    have hlater : (t :: ts.reverse).length - ts.length = 1 := by simp
    rw [insert, hnumber, htokens, hlater]
    rfl
  unfold value?
  split
  · next k' hk' =>
      obtain rfl : k' = k := Option.some.inj (hk'.symm.trans hkey)
      rw [hinsert]
      dsimp only
      rw [openBlock_of_inFlow (s := { s with tokens := t :: .key :: ts.reverse }) hflow]
      rfl
  · next hnone =>
      rw [hkey] at hnone
      cases hnone

section

variable {s : Scanner} {ts : List Token} {d : Nat} {cs rest : List Char} (hd : 0 < d)

include hd

/-- A text in double quotes is read as the refolded text, and not at all if there is none. -/
theorem At.reads_quoted (h : s.At ts d ('"' :: (written cs ++ rest))) :
    s.Reads (refolded? .none false cs).isSome fun s₂ =>
      s₂.At (ts ++ [.scalar .doubleQuoted ((refolded? .none false cs).getD [])]) d rest := by
  have hscan (s₁ : Scanner) : ∃ after,
      scanQuotedFrom? false 0 .none (s₁.cursor.pos.right 1) (written cs ++ rest)
        = (refolded? .none false cs).map fun text => (text, ⟨after, rest⟩) := by
    obtain ⟨after, hscan⟩ := scanQuotedFrom?_written rest cs .none (s₁.cursor.pos.right 1)
    rw [Pos.column_right_beq _ Nat.one_pos] at hscan
    exact ⟨after, hscan⟩
  cases hfold : refolded? .none false cs with
  | none =>
      refine h.fails_token (by decide) (.inl hd) fun s₁ hat hrest => ?_
      obtain ⟨after, hread⟩ := hscan s₁
      rw [hat.token?_quote_eq hrest, hread, hfold]
      rfl
  | some text =>
      refine h.leads_token (by decide) (.inl hd) fun s₁ hat hrest _ _ => ?_
      obtain ⟨after, hread⟩ := hscan s₁
      refine ⟨_, (hat.token?_quote_eq hrest).trans (by rw [hread, hfold]; rfl), ?_,
        (hat.behindScalar false).pushed _ after rfl⟩
      change rest.length ≤ (written cs ++ rest).length
      rw [List.length_append]
      omega

/-- A plain word is read as it is. -/
theorem At.leads_word {c : Char} (hword : ∀ x ∈ c :: cs, x.isAlphanum = true) (hrest : Closes rest)
    (h : s.At ts d (c :: (cs ++ rest)))
    (hplain : ∀ s : Scanner, s.token? c (cs ++ rest) = s.plainScalar?) :
    ∃ s₂, s.Leads s₂ ∧ s₂.At (ts ++ [.scalar .plain (c :: cs)]) d rest := by
  have hc := beginsToken_of_isAlphanum (hword c List.mem_cons_self)
  refine h.leads_token hc (.inl hd) fun s₁ hat htext _ _ => ?_
  obtain ⟨passed, after, hscan⟩ := exists_scanPlainFrom?_word hrest (c :: cs) hword s₁.cursor.pos
  have hread : scanPlain? (s₁.indent + 1).toNat s₁.inFlow s₁.cursor
      = some ⟨c :: cs, passed, ⟨after, rest.dropWhile isLayout⟩⟩ := by
    have hcursor : s₁.cursor.rest = c :: cs ++ rest := htext
    rw [hat.indent, hat.inFlow hd, scanPlain?, hcursor]
    exact hscan
  refine ⟨((s₁.behindScalar passed).push (.scalar .plain (c :: cs))).moved
    ⟨after, rest.dropWhile isLayout⟩, ?_, ?_,
    (hat.behindScalar passed).pushed _ after hrest.dropWhile_dropWhile⟩
  · rw [hplain s₁, plainScalar?, hat.withKey?_eq.1, Option.bind_eq_bind, Option.bind_some]
    change (scanPlain? (s₁.indent + 1).toNat s₁.inFlow s₁.cursor).bind _ = _
    rw [hread]
    rfl
  · have hle : (rest.dropWhile isLayout).length ≤ rest.length :=
      (List.dropWhile_sublist isLayout).length_le
    change (rest.dropWhile isLayout).length ≤ (cs ++ rest).length
    rw [List.length_append]
    omega

/-- A colon on the line of a key that is not too long. -/
theorem At.leads_colon {k : SimpleKey} {t : Token} (h : s.At (ts ++ [t]) d (':' :: rest))
    (hrest : s.rest = ':' :: rest) (hkey : s.key = some k) (hnumber : k.number = ts.length)
    (hfresh : freshKey? s.cursor.pos (some k) = some (some k)) :
    ∃ s₂, s.Leads s₂ ∧ s₂.At (ts ++ [.key, t, .value]) d rest := by
  refine h.leads_token (by decide) (.inl hd) fun s₁ hat hrest₁ _ hkey₁ => ?_
  have hknown : s₁.key = some k := by
    have hsame := hkey₁ hrest
    rw [hkey, hfresh] at hsame
    exact (Option.some.inj hsame).symm
  have htokens : s₁.tokens = t :: ts.reverse := by
    rw [← List.reverse_reverse s₁.tokens, hat.tokens]
    simp
  have hvalue := value?_of_key (hat.inFlow hd) htokens hknown hnumber
  have hbehind : (s₁.withKeyBefore t ts).At (ts ++ [.key, t]) d (':' :: rest) :=
    { hat with
      tokens := by simp [withKeyBefore]
      key := rfl }
  have hafter := hbehind.take hrest₁ .value
  rw [List.append_assoc] at hafter
  exact ⟨_, (token?_colon (hat.inFlow hd)).trans hvalue,
    Nat.le_of_eq (congrArg _ (rest_take (s := s₁.withKeyBefore t ts) hrest₁ _)), hafter⟩

/-- A word in quotes with a colon behind it is a key. -/
theorem At.leads_key (hword : ∀ c ∈ cs, c.isAlphanum = true) (hlength : cs.length ≤ 1022)
    (h : s.At ts d ('"' :: (written cs ++ ':' :: rest))) (hallowed : s.keyAllowed = true) :
    ∃ s₂, s.Leads s₂ ∧ s₂.At (ts ++ [.key, .scalar .doubleQuoted cs, .value]) d rest := by
  obtain ⟨s₁, hlead, hat, hrest, k, hkey, hnumber, hfresh⟩ : ∃ s₁, s.Leads s₁ ∧
      s₁.At (ts ++ [.scalar .doubleQuoted cs]) d (':' :: rest) ∧ s₁.rest = ':' :: rest ∧
      ∃ k, s₁.key = some k ∧ k.number = ts.length ∧
        freshKey? s₁.cursor.pos (some k) = some (some k) := by
    refine h.leads_token (by decide) (.inl hd) fun s₁ hat hrest hallowed₁ _ => ?_
    have hhere : s₁.keyHere = some ⟨false, ts.length, s₁.cursor.pos⟩ := by
      rw [keyHere, hallowed₁, hallowed, if_pos rfl, ← hat.tokens, List.length_reverse]
    let after : Pos := (s₁.cursor.pos.right 1).right (cs.length + 1)
    have hread : scanQuotedFrom? false 0 .none (s₁.cursor.pos.right 1) (written cs ++ ':' :: rest)
        = some (cs, ⟨after, ':' :: rest⟩) := scanQuotedFrom?_word _ _ hword _
    have hnear : ¬(s₁.cursor.pos.line < after.line ∨
        s₁.cursor.pos.index + 1024 < after.index) := by
      simp only [after, Pos.right]
      omega
    refine ⟨_, (hat.token?_quote_eq hrest).trans (by rw [hread]; rfl), ?_,
      (hat.behindScalar false).pushed _ after rfl, rfl, ⟨false, ts.length, s₁.cursor.pos⟩, hhere,
      rfl, if_neg hnear⟩
    change (':' :: rest).length ≤ (written cs ++ ':' :: rest).length
    rw [List.length_append]
    omega
  obtain ⟨s₂, hlead₂, hat₂⟩ := hat.leads_colon hd hrest hkey hnumber hfresh
  exact ⟨s₂, hlead.trans hlead₂, hat₂⟩

end

end HostRouting.Yaml.Scanner
