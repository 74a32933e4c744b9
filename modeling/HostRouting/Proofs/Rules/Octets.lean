/-
**Rule lists from octets.**

Octets are read line by line: each line is decoded for itself, and the lines are put together again,
each with a line feed behind it.  In UTF-8 a line feed and a carriage return are octets that occur
in no other character.  So the lines of the octets are the octets of the lines, a line cannot end
inside a character, and the octets are a text exactly if every line is one.  The text that is put
together ends its lines in another way, but how a line ends makes no difference to what is read.

Main definitions:

* `Utf8.IsText` — whether octets are those of a text;
* `RuleList.relined` — a text with all lines ended in the same way.

Main results:

* `Text.lines_encode` — the lines of encoded octets are the encoded lines;
* `Utf8.isText_of_lines` — octets whose lines are texts are a text;
* `RuleList.ofBytes_encodeText`, `RuleList.ofBytes_of_not_isText` — what octets are read as;
* `RuleList.entries_relined` — lines are read alike, whatever they end in;
* `RuleList.ofBytes_agrees` — **octets are read like the text they stand for, and refused if they
  stand for none**.
-/

import HostRouting.Proofs.Rules.Reading
import HostRouting.Proofs.Text.SuffixCode
import HostRouting.Proofs.Text.Utf8

set_option autoImplicit false

namespace HostRouting

/-! ### Lines of octets -/

namespace Text

section

variable {α : Type} [BEq α] [LawfulBEq α]

/-- What holds no separator stands in front of the first piece of what follows it. -/
theorem pieces_append_of_not_mem {sep : α} {own : List α} (h : sep ∉ own) (xs : List α) :
    ∃ p ps, pieces sep xs = p :: ps ∧ pieces sep (own ++ xs) = (own ++ p) :: ps := by
  induction own with
  | nil =>
      cases hpieces : pieces sep xs with
      | nil => exact absurd hpieces (pieces_ne_nil sep xs)
      | cons p ps => exact ⟨p, ps, rfl, hpieces⟩
  | cons x own ih =>
      obtain ⟨hx, hown⟩ := not_or.1 (mt List.mem_cons.2 h)
      obtain ⟨p, ps, hpieces, happend⟩ := ih hown
      have hne : (x == sep) = false := beq_false_of_ne (Ne.symm hx)
      refine ⟨p, ps, hpieces, ?_⟩
      rw [List.cons_append, pieces, happend, hne]
      rfl

omit [LawfulBEq α] in
theorem withoutReturn_concat (cr x : α) (front : List α) :
    withoutReturn cr (front ++ [x]) = if x == cr then front else front ++ [x] := by
  rw [withoutReturn, List.getLast?_concat, List.dropLast_concat]

/-- A carriage return is left out or nothing is. -/
theorem eq_withoutReturn_or (cr : α) (line : List α) :
    line = withoutReturn cr line ∨ line = withoutReturn cr line ++ [cr] := by
  obtain rfl | ⟨front, x, rfl⟩ := List.eq_nil_or_concat line
  · exact .inl rfl
  · rw [List.concat_eq_append, withoutReturn_concat]
    split
    · next hx => exact .inr (by rw [eq_of_beq hx])
    · exact .inl rfl

/-- What is true of all lines is true of all pieces, if the line ends make no difference to it. -/
theorem forall_mem_of_closeLines {P : List α → Prop} {cr : α} (hnil : P [])
    (hreturn : ∀ line, P line → P (line ++ [cr])) {ps : List (List α)}
    (h : ∀ line ∈ closeLines cr ps, P line) : ∀ piece ∈ ps, P piece := by
  induction ps with
  | nil => exact h
  | cons p ps ih =>
      cases ps with
      | nil =>
          rw [closeLines] at h
          intro piece hpiece
          obtain rfl := List.mem_singleton.1 hpiece
          split at h
          · next hempty =>
              rw [List.isEmpty_iff.1 hempty]
              exact hnil
          · exact h piece (List.mem_singleton_self piece)
      | cons q ps =>
          rw [closeLines] at h
          obtain ⟨hfirst, hrest⟩ := List.forall_mem_cons.1 h
          refine List.forall_mem_cons.2 ⟨?_, ih hrest⟩
          obtain hsame | hreturned := eq_withoutReturn_or cr p
          · rwa [hsame]
          · rw [hreturned]
            exact hreturn _ hfirst

/-- No line holds what separates lines. -/
theorem not_mem_of_mem_closeLines {sep cr : α} {ps : List (List α)} (h : ∀ p ∈ ps, sep ∉ p)
    {line : List α} (hline : line ∈ closeLines cr ps) : sep ∉ line := by
  induction ps with
  | nil => cases hline
  | cons p ps ih =>
      obtain ⟨hp, hps⟩ := List.forall_mem_cons.1 h
      cases ps with
      | nil =>
          rw [closeLines] at hline
          split at hline
          · cases hline
          · rwa [List.mem_singleton.1 hline]
      | cons q ps =>
          rw [closeLines] at hline
          obtain rfl | hrest := List.mem_cons.1 hline
          · intro hmem
            refine hp ?_
            obtain hsame | hreturned := eq_withoutReturn_or cr p
            · rwa [hsame]
            · rw [hreturned]
              exact List.mem_append_left _ hmem
          · exact ih hps hrest

end

theorem not_mem_of_mem_lines {text line : List Char} (h : line ∈ lines '\n' '\r' text) :
    '\n' ∉ line :=
  not_mem_of_mem_closeLines (fun _ => not_mem_of_mem_pieces) h

/-- The pieces of encoded octets are the encoded pieces. -/
theorem pieces_encode (cs : List Char) :
    pieces 0x0A (Utf8.encode cs) = (pieces '\n' cs).map Utf8.encode := by
  induction cs with
  | nil => rfl
  | cons c cs ih =>
      obtain ⟨p, ps, hpieces, hcons⟩ := pieces_cons '\n' c cs
      by_cases hc : c = '\n'
      · subst hc
        have hencode : Utf8.encode ('\n' :: cs) = 0x0A :: Utf8.encode cs := rfl
        rw [hencode, pieces, ih, hcons, hpieces]
        rfl
      · have hnot : (0x0A : UInt8) ∉ String.utf8EncodeChar c :=
          mt (Utf8.mem_utf8EncodeChar_iff (d := '\n') (by decide)).1 hc
        obtain ⟨q, qs, hq, happend⟩ := pieces_append_of_not_mem hnot (Utf8.encode cs)
        rw [ih, hpieces, List.map_cons] at hq
        obtain ⟨rfl, rfl⟩ := List.cons.inj hq
        rw [hcons, if_neg (by simpa using hc)]
        exact happend

theorem withoutReturn_encode (line : List Char) :
    withoutReturn 0x0D (Utf8.encode line) = Utf8.encode (withoutReturn '\r' line) := by
  obtain rfl | ⟨front, c, rfl⟩ := List.eq_nil_or_concat line
  · rfl
  · rw [List.concat_eq_append, withoutReturn_concat]
    have hencode : Utf8.encode (front ++ [c]) = Utf8.encode front ++ String.utf8EncodeChar c := by
      simp [Utf8.encode]
    by_cases hc : c = '\r'
    · subst hc
      have hreturn : String.utf8EncodeChar '\r' = [0x0D] := rfl
      rw [hencode, hreturn, withoutReturn_concat]
      rfl
    · -- the last octet of any other character is no carriage return
      have hnot : (0x0D : UInt8) ∉ String.utf8EncodeChar c :=
        mt (Utf8.mem_utf8EncodeChar_iff (d := '\r') (by decide)).1 hc
      obtain hword | ⟨init, b, hword⟩ := List.eq_nil_or_concat (String.utf8EncodeChar c)
      · exact absurd hword (Utf8.selfMarking.ne_nil c)
      · rw [List.concat_eq_append] at hword
        have hb : ¬(b == 0x0D) = true := by
          intro hb
          obtain rfl := eq_of_beq hb
          rw [hword] at hnot
          exact hnot (List.mem_append_right _ (List.mem_singleton_self _))
        rw [if_neg (by simpa using hc), hencode, hword, ← List.append_assoc, withoutReturn_concat,
          if_neg hb]

theorem closeLines_encode (ps : List (List Char)) :
    closeLines 0x0D (ps.map Utf8.encode) = (closeLines '\r' ps).map Utf8.encode := by
  induction ps with
  | nil => rfl
  | cons p ps ih =>
      cases ps with
      | nil =>
          have hempty : (Utf8.encode p).isEmpty = p.isEmpty := by
            cases p with
            | nil => rfl
            | cons c p =>
                have hne : Utf8.encode (c :: p) ≠ [] := by
                  intro hnil
                  exact Utf8.selfMarking.ne_nil c (List.flatMap_eq_nil_iff.1 hnil c (by simp))
                simpa using hne
          rw [List.map_cons, List.map_nil, closeLines, closeLines, hempty]
          split <;> rfl
      | cons q ps =>
          rw [List.map_cons, List.map_cons, closeLines, closeLines, List.map_cons,
            withoutReturn_encode, ← ih, List.map_cons]

/-- **The lines of encoded octets are the encoded lines.** -/
theorem lines_encode (cs : List Char) :
    lines 0x0A 0x0D (Utf8.encode cs) = (lines '\n' '\r' cs).map Utf8.encode := by
  rw [lines, lines, pieces_encode, closeLines_encode]

end Text

/-! ### Octets that are a text -/

namespace Utf8

/-- Whether octets are those of a text. -/
def IsText (bytes : List UInt8) : Prop := ∃ cs, bytes = encode cs

theorem IsText.append {a b : List UInt8} (ha : IsText a) (hb : IsText b) : IsText (a ++ b) := by
  obtain ⟨cs, rfl⟩ := ha
  obtain ⟨ds, rfl⟩ := hb
  exact ⟨cs ++ ds, by simp [encode]⟩

theorem isText_intercalate {ps : List (List UInt8)} (h : ∀ p ∈ ps, IsText p) :
    IsText ([0x0A].intercalate ps) := by
  have hfeed : IsText [0x0A] := ⟨['\n'], rfl⟩
  induction ps with
  | nil => exact ⟨[], rfl⟩
  | cons p ps ih =>
      obtain ⟨hp, hps⟩ := List.forall_mem_cons.1 h
      by_cases hnil : ps = []
      · subst hnil
        rwa [List.intercalate_singleton]
      · rw [List.intercalate_cons_of_ne_nil hnil]
        exact (hp.append hfeed).append (ih hps)

/-- **Octets whose lines are texts are a text.** -/
theorem isText_of_lines {bytes : List UInt8}
    (h : ∀ line ∈ Text.lines 0x0A 0x0D bytes, IsText line) : IsText bytes := by
  have hreturn : IsText [0x0D] := ⟨['\r'], rfl⟩
  have hpieces : ∀ p ∈ bytes.splitOn 0x0A, IsText p := by
    rw [← Text.pieces_eq_splitOn]
    exact Text.forall_mem_of_closeLines ⟨[], rfl⟩ (fun _ hline => hline.append hreturn) h
  have hjoin : [0x0A].intercalate (bytes.splitOn 0x0A) = bytes := List.intercalate_splitOn _
  rw [← hjoin]
  exact isText_intercalate hpieces

end Utf8

/-! ### Rule lists of octets -/

namespace RuleList

/-- The lines of a text, each with a line feed behind it. -/
def relined (text : List Char) : List Char :=
  (Text.lines '\n' '\r' text).flatMap (· ++ ['\n'])

section

variable {bytes : List UInt8}

theorem mapM_decode?_eq_some_iff {lines : List (List UInt8)} {css : List (List Char)} :
    lines.mapM Utf8.decode? = some css ↔ lines = css.map Utf8.encode :=
  mapM_eq_some_iff_eq_map fun _ _ => Utf8.decode?_eq_some_iff

theorem textOfBytes?_encode (cs : List Char) :
    textOfBytes? (Utf8.encode cs) = some (relined cs) := by
  rw [textOfBytes?, mapM_decode?_eq_some_iff.2 (Text.lines_encode cs)]
  rfl

theorem isText_of_textOfBytes? {text : List Char} (h : textOfBytes? bytes = some text) :
    Utf8.IsText bytes := by
  obtain ⟨css, hcss, -⟩ := Option.map_eq_some_iff.1 h
  refine Utf8.isText_of_lines fun line hline => ?_
  rw [mapM_decode?_eq_some_iff.1 hcss] at hline
  obtain ⟨cs, -, rfl⟩ := List.mem_map.1 hline
  exact ⟨cs, rfl⟩

/-- Octets that are no text are refused. -/
theorem ofBytes_of_not_isText (h : ¬Utf8.IsText bytes) : ofBytes bytes = .error .notText := by
  have hnone : textOfBytes? bytes = none := by
    rw [Option.eq_none_iff_forall_not_mem]
    intro text htext
    exact h (isText_of_textOfBytes? htext)
  rw [ofBytes, ofBytes?, hnone]
  rfl

/-- The octets of a text are read as its lines, put together again. -/
theorem ofBytes_encodeText (text : String) :
    ofBytes (Utf8.encodeText text) = .ok (parse (String.ofList (relined text.toList))) := by
  rw [ofBytes, ofBytes?, Utf8.encodeText, textOfBytes?_encode]
  rfl

end

/-- A line by itself is an entry, unless it is blank. -/
theorem entries_of_not_mem {line : List Char} (h : '\n' ∉ line) :
    entries line = [Text.trimmed line].filter (!·.isEmpty) := by
  obtain ⟨p, ps, hpieces, happend⟩ := Text.pieces_append_of_not_mem h []
  obtain ⟨rfl, rfl⟩ := List.cons.inj hpieces
  rw [List.append_nil] at happend
  rw [entries_eq, ← Text.pieces_eq_splitOn, happend, List.map_singleton]

/-- **Lines are read alike, whatever they end in.** -/
theorem entries_relined (text : List Char) : entries (relined text) = entries text := by
  have hlines {ls : List (List Char)} (h : ∀ line ∈ ls, '\n' ∉ line) :
      entries (ls.flatMap (· ++ ['\n'])) = (ls.map Text.trimmed).filter (!·.isEmpty) := by
    induction ls with
    | nil => rfl
    | cons line ls ih =>
        obtain ⟨hline, hls⟩ := List.forall_mem_cons.1 h
        rw [List.flatMap_cons, List.append_assoc, List.singleton_append, entries_append,
          entries_of_not_mem hline, ih hls, ← List.filter_append, List.map_cons,
          List.singleton_append]
  exact hlines fun line => Text.not_mem_of_mem_lines

theorem relined_eq_nil_or (text : List Char) :
    relined text = [] ∨ ∃ before, relined text = before ++ ['\n'] := by
  rw [relined]
  obtain hnone | ⟨front, last, hlines⟩ := List.eq_nil_or_concat (Text.lines '\n' '\r' text)
  · rw [hnone]
    exact .inl rfl
  · refine .inr ⟨front.flatMap (· ++ ['\n']) ++ last, ?_⟩
    rw [hlines, List.concat_eq_append, List.flatMap_append, List.flatMap_singleton,
      List.append_assoc]

/-- **Octets are read like the text they stand for.**  They are refused, as octets that are no text,
if and only if they are not valid UTF-8 as a whole.  The octets of a text give the rules and the
counts of that text, however its lines end, and the text that is kept of them is empty or ends in a
line feed. -/
theorem ofBytes_agrees :
    (∀ bytes : List UInt8,
      ofBytes bytes = .error .notText ↔ ¬bytes.toByteArray.IsValidUTF8) ∧
      ∀ text : String, ∃ l, ofBytes (Utf8.encodeText text) = .ok l ∧
        l.rules = (parse text).rules ∧ l.lineCount = (parse text).lineCount ∧
        l.ignored = (parse text).ignored ∧ (l.raw = "" ∨ ∃ before, l.raw = before ++ "\n") := by
  constructor
  · intro bytes
    have hvalid : bytes.toByteArray.IsValidUTF8 ↔ Utf8.IsText bytes := Utf8.isValidUTF8_iff
    rw [hvalid]
    refine ⟨?_, ofBytes_of_not_isText⟩
    rintro hrefused ⟨cs, rfl⟩
    have hread := ofBytes_encodeText (String.ofList cs)
    rw [Utf8.encodeText, String.toList_ofList, hrefused] at hread
    cases hread
  · intro text
    have hentries : entries (String.ofList (relined text.toList)).toList = entries text.toList := by
      rw [String.toList_ofList, entries_relined]
    have hrules : (parse (String.ofList (relined text.toList))).rules = (parse text).rules := by
      rw [parse, hentries]
      rfl
    have hcount :
        (parse (String.ofList (relined text.toList))).lineCount = (parse text).lineCount := by
      rw [parse, hentries]
      rfl
    have hignored : (parse (String.ofList (relined text.toList))).ignored = (parse text).ignored := by
      rw [ignored, ignored, hrules, hcount]
    refine ⟨_, ofBytes_encodeText text, hrules, hcount, hignored, ?_⟩
    rw [raw_parse]
    obtain hnil | ⟨before, hbefore⟩ := relined_eq_nil_or text.toList
    · rw [hnil]
      exact .inl rfl
    · refine .inr ⟨String.ofList before, ?_⟩
      rw [hbefore, String.ofList_append]

/-- A lone carriage return and one that is doubled are no ends of lines, but blank.  An octet that
begins a character at the end of a line is not completed by the next line. -/
example :
    (ofBytes (Utf8.encodeText "a.cn\r\r\n \rb.cn\r\n*.c")).toOption.map RuleList.rules
        = some ["a.cn", "b.cn", "*.c"] ∧
      ofBytes [0x61, 0xC3, 0x0A, 0xA9] = .error .notText := by
  decide

end RuleList

end HostRouting
