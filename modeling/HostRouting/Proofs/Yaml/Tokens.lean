/-
**The YAML tokens of a JSON text.**

A JSON document is one flow collection in YAML, and its lines are no more than layout.  Its
brackets, commas and colons are the tokens they look like, truth values are plain scalars, texts are
quoted scalars that are folded, and every key that is a word is found to be one by the colon behind
it.  So the scanner goes through the text piece by piece along the document, and it fails exactly
where a text cannot be folded.

Main definitions:

* `Json.isTextual` — the documents made of truth values and texts under words;
* `Json.tokens` — the tokens of a document in YAML;
* `Json.Scans` — the scanner reads these tokens off the text of a document.

Main results:

* `Json.reads_items`, `Json.reads_members` — items and members are read if the values in them are;
* `Json.scan?_render` — **the text of an object has the tokens of the object**, or none.
-/

import HostRouting.Proofs.Yaml.Flow
import HostRouting.Proofs.Yaml.Kept

set_option autoImplicit false

namespace HostRouting.Json

open Yaml

/-! ### Documents of texts -/

/-- Whether a text is a word that is short enough for a key. -/
def isWord (s : String) : Bool := s.toList.all Char.isAlphanum && s.toList.length ≤ 1022

mutual

/-- Whether a document is made of truth values and of texts that satisfy `p`, under keys that are
words. -/
def isTextual (p : String → Bool) : Json → Bool
  | .null | .number _ => false
  | .bool _ => true
  | .string s => s.any p
  | .array js => areTextual p js
  | .object ms => membersAreTextual p ms

/-- Whether the items of an array are. -/
def areTextual (p : String → Bool) : List Json → Bool
  | [] => true
  | j :: js => isTextual p j && areTextual p js

/-- Whether the members of an object are. -/
def membersAreTextual (p : String → Bool) : List (Option String × Json) → Bool
  | [] => true
  | (key, j) :: ms => key.any isWord && (isTextual p j && membersAreTextual p ms)

end

/-! ### Tokens -/

/-- The word of a truth value. -/
def boolWord (b : Bool) : String := if b then "true" else "false"

/-- The tokens of a key. -/
def keyTokens (key : Option String) : List Token :=
  [.key, .scalar .doubleQuoted (key.elim [] String.toList), .value]

mutual

/-- The tokens of a document in YAML, where `f` is what YAML makes of a text. -/
def tokens (f : String → List Char) : Json → List Token
  | .null => [.scalar .plain "null".toList]
  | .bool b => [.scalar .plain (boolWord b).toList]
  | .number n => [.scalar .plain (numeralText n)]
  | .string s => [.scalar .doubleQuoted (s.elim [] f)]
  | .array [] => [.flowSequenceStart, .flowSequenceEnd]
  | .array (j :: js) =>
      [.flowSequenceStart] ++ tokens f j ++ itemTokens f js ++ [.flowSequenceEnd]
  | .object [] => [.flowMappingStart, .flowMappingEnd]
  | .object ((key, j) :: ms) =>
      [.flowMappingStart] ++ keyTokens key ++ tokens f j ++ memberTokens f ms ++ [.flowMappingEnd]

/-- The tokens of the items after the first. -/
def itemTokens (f : String → List Char) : List Json → List Token
  | [] => []
  | j :: js => [.flowEntry] ++ tokens f j ++ itemTokens f js

/-- The tokens of the members after the first. -/
def memberTokens (f : String → List Char) : List (Option String × Json) → List Token
  | [] => []
  | (key, j) :: ms => [.flowEntry] ++ keyTokens key ++ tokens f j ++ memberTokens f ms

end

/-! ### Layout -/

theorem isLayout_of_mem_lineStart {level : Nat} {c : Char} (h : c ∈ lineStart level) :
    isLayout c = true := by
  rw [lineStart, List.mem_cons, List.mem_replicate] at h
  rcases h with rfl | ⟨-, rfl⟩ <;> decide

theorem closes_mark {c : Char} (h : c = ',' ∨ c = ']' ∨ c = '\x7d') (level : Nat)
    (rest : List Char) : Scanner.Closes (lineStart level ++ c :: rest) := by
  refine ⟨c, rest, ?_, h⟩
  rw [List.dropWhile_append_of_pos fun c hc => isLayout_of_mem_lineStart hc]
  rcases h with rfl | rfl | rfl <;> rfl

theorem closes_comma_append (rest : List Char) : Scanner.Closes (',' :: rest) :=
  ⟨',', rest, rfl, .inl rfl⟩

theorem closes_renderItems {rest : List Char} (h : Scanner.Closes rest) (level : Nat)
    (js : List Json) : Scanner.Closes (renderItems level js ++ rest) := by
  cases js with
  | nil => exact h
  | cons j js => exact closes_comma_append _

theorem closes_renderMembers {rest : List Char} (h : Scanner.Closes rest) (level : Nat)
    (ms : List (Option String × Json)) : Scanner.Closes (renderMembers level ms ++ rest) := by
  cases ms with
  | nil => exact h
  | cons m ms => exact closes_comma_append _

/-! ### Values -/

/-- Whether YAML makes anything of a text. -/
def folds (s : String) : Bool := (refolded? .none false s.toList).isSome

/-- What YAML makes of a text. -/
def refolded (s : String) : List Char := (refolded? .none false s.toList).getD []

/-- The scanner reads the tokens of a document off its text, in a flow collection and in front of
what may follow there; if YAML makes nothing of a text in the document, the scanner fails. -/
def Scans (j : Json) : Prop :=
  ∀ {level : Nat} {s : Scanner} {ts : List Token} {d : Nat} {rest : List Char}, 0 < d →
    Scanner.Closes rest → s.At ts d (render level j ++ rest) →
      s.Reads (j.isTextual folds) fun s' => s'.At (ts ++ j.tokens refolded) d rest

theorem scans_bool (b : Bool) : Scans (.bool b) := by
  intro level s ts d rest hd hrest hat
  rw [isTextual, tokens]
  cases b with
  | true =>
      obtain ⟨s', hlead, hat'⟩ := @Scanner.At.leads_word s ts d ['r', 'u', 'e'] rest hd 't'
        (List.all_eq_true.1 rfl) hrest hat fun s => Scanner.token?_true
      exact hlead.reads hat'
  | false =>
      obtain ⟨s', hlead, hat'⟩ := @Scanner.At.leads_word s ts d ['a', 'l', 's', 'e'] rest hd 'f'
        (List.all_eq_true.1 rfl) hrest hat fun s => Scanner.token?_false
      exact hlead.reads hat'

theorem scans_string (t : String) : Scans (.string (some t)) := by
  intro level s ts d rest hd hrest hat
  have htext : render level (.string (some t)) ++ rest = '"' :: (written t.toList ++ rest) := by
    simp [render, quoted, written]
  rw [htext] at hat
  exact hat.reads_quoted hd

/-! ### Arrays -/

section

variable {level d : Nat} {s : Scanner} {ts : List Token} {rest : List Char} (hd : 0 < d)
  (hrest : Scanner.Closes rest)

include hd hrest

/-- The items after the first are read if each of them is. -/
theorem reads_items (js : List Json) (hscans : ∀ j ∈ js, Scans j) : ∀ {s : Scanner}
    {ts : List Token}, s.At ts d (renderItems level js ++ rest) →
      s.Reads (areTextual folds js) fun s' => s'.At (ts ++ itemTokens refolded js) d rest := by
  induction js with
  | nil =>
      intro s ts hat
      exact (Scanner.Leads.refl s).reads (by simpa [itemTokens, renderItems] using hat)
  | cons j js ih =>
      intro s ts hat
      obtain ⟨hj, hjs⟩ := List.forall_mem_cons.1 hscans
      have htext : renderItems level (j :: js) ++ rest
          = ',' :: (lineStart level ++ (render level j ++ (renderItems level js ++ rest))) := by
        simp only [renderItems, List.append_assoc, List.cons_append, List.nil_append]
      rw [htext] at hat
      obtain ⟨s₁, hlead, hat₁, -⟩ := hat.leads_comma hd
      have hitem := hat₁.of_layout fun c hc => isLayout_of_mem_lineStart hc
      have hread := (hj hd (closes_renderItems hrest level js) hitem).trans
        fun s₂ hat₂ => ih hjs hat₂
      refine (Scanner.Reads.of_leads hlead hread).imp fun s₃ hat₃ => ?_
      simpa only [itemTokens, List.append_assoc] using hat₃

/-- A member of an object, where a key may begin. -/
theorem reads_member {key : String} {j : Json} (hkey : isWord key = true) (hscans : Scans j)
    (hat : s.At ts d (quoted (some key) ++ (':' :: ' ' :: (render level j ++ rest))))
    (hallowed : s.keyAllowed = true) :
    s.Reads (j.isTextual folds) fun s' =>
      s'.At (ts ++ keyTokens (some key) ++ j.tokens refolded) d rest := by
  have htext : quoted (some key) ++ (':' :: ' ' :: (render level j ++ rest))
      = '"' :: (written key.toList ++ ':' :: ' ' :: (render level j ++ rest)) := by
    simp [quoted, written]
  rw [isWord, Bool.and_eq_true, List.all_eq_true, decide_eq_true_eq] at hkey
  rw [htext] at hat
  obtain ⟨s₁, hlead, hat₁⟩ := hat.leads_key hd hkey.1 hkey.2 hallowed
  have hvalue := @Scanner.At.of_layout _ _ _ _ [' '] (List.all_eq_true.1 rfl) hat₁
  exact Scanner.Reads.of_leads hlead (hscans hd hrest hvalue)

/-- The members after the first are read if the values in them are. -/
theorem reads_members (ms : List (Option String × Json)) (hscans : ∀ m ∈ ms, Scans m.2)
    (hwords : ∀ m ∈ ms, m.1.any isWord = true) : ∀ {s : Scanner} {ts : List Token},
      s.At ts d (renderMembers level ms ++ rest) →
        s.Reads (membersAreTextual folds ms) fun s' =>
          s'.At (ts ++ memberTokens refolded ms) d rest := by
  induction ms with
  | nil =>
      intro s ts hat
      exact (Scanner.Leads.refl s).reads (by simpa [memberTokens, renderMembers] using hat)
  | cons m ms ih =>
      obtain ⟨key, j⟩ := m
      intro s ts hat
      obtain ⟨hj, hjs⟩ := List.forall_mem_cons.1 hscans
      obtain ⟨hword, hmore⟩ := List.forall_mem_cons.1 hwords
      obtain ⟨k, rfl, hk⟩ := (Option.any_eq_true _ _).1 hword
      have htext : renderMembers level ((some k, j) :: ms) ++ rest
          = ',' :: (lineStart level ++ (quoted (some k) ++ (':' :: ' ' :: (render level j
            ++ (renderMembers level ms ++ rest))))) := by
        simp only [renderMembers, List.append_assoc, List.cons_append, List.nil_append]
      rw [htext] at hat
      obtain ⟨s₁, hlead, hat₁, hallowed⟩ := hat.leads_comma hd
      have hmember := hat₁.of_layout fun c hc => isLayout_of_mem_lineStart hc
      have hread := (reads_member hd (closes_renderMembers hrest level ms) hk hj hmember
        hallowed).trans fun s₂ hat₂ => ih hjs hmore hat₂
      rw [membersAreTextual, hword, Bool.true_and]
      refine (Scanner.Reads.of_leads hlead hread).imp fun s₃ hat₃ => ?_
      simpa only [memberTokens, List.append_assoc] using hat₃

end

theorem scans_array (js : List Json) (hscans : ∀ j ∈ js, Scans j) : Scans (.array js) := by
  intro level s ts d rest hd hrest hat
  cases js with
  | nil =>
      obtain ⟨s₁, hlead₁, hat₁, -⟩ := hat.leads_open (by decide) (.inl hd)
        fun s => Scanner.token?_openBracket
      obtain ⟨s₂, hlead₂, hat₂, -⟩ :=
        hat₁.leads_close (by decide) fun s => Scanner.token?_closeBracket
      exact (hlead₁.trans hlead₂).reads (by simpa [tokens] using hat₂)
  | cons j js =>
      obtain ⟨hj, hjs⟩ := List.forall_mem_cons.1 hscans
      have htext : render level (.array (j :: js)) ++ rest
          = '[' :: (lineStart (level + 1) ++ (render (level + 1) j ++ (renderItems (level + 1) js
            ++ (lineStart level ++ ']' :: rest)))) := by
        simp only [render, List.append_assoc, List.cons_append, List.nil_append]
      rw [htext] at hat
      obtain ⟨s₁, hlead₁, hat₁, -⟩ := hat.leads_open (by decide) (.inl hd)
        fun s => Scanner.token?_openBracket
      have hfirst := hat₁.of_layout fun c hc => isLayout_of_mem_lineStart hc
      have hend := closes_mark (c := ']') (by simp) level rest
      have hread := (hj (Nat.succ_pos d) (closes_renderItems hend (level + 1) js) hfirst).trans
        fun s₂ hat₂ => reads_items (Nat.succ_pos d) hend js hjs hat₂
      refine (Scanner.Reads.of_leads hlead₁ hread).leads fun s₃ hat₃ => ?_
      have hlast := hat₃.of_layout fun c hc => isLayout_of_mem_lineStart hc
      obtain ⟨s₄, hlead₄, hat₄, -⟩ :=
        hlast.leads_close (by decide) fun s => Scanner.token?_closeBracket
      exact ⟨s₄, hlead₄, by simpa [tokens] using hat₄⟩

/-! ### Objects -/

/-- The tokens of an object are read off its text, in a flow collection or at the start of a
text. -/
theorem reads_object {level d : Nat} {s : Scanner} {ts : List Token} {rest : List Char}
    (ms : List (Option String × Json)) (hscans : ∀ m ∈ ms, Scans m.2)
    (hwords : ∀ m ∈ ms, m.1.any isWord = true) (hat : s.At ts d (render level (.object ms) ++ rest))
    (hd : 0 < d ∨ s.rest = render level (.object ms) ++ rest) :
    s.Reads (membersAreTextual folds ms) fun s' =>
      s'.At (ts ++ tokens refolded (.object ms)) d rest ∧ s'.rest = rest := by
  cases ms with
  | nil =>
      obtain ⟨s₁, hlead₁, hat₁, -⟩ := hat.leads_open (by decide) hd
        fun s => Scanner.token?_openBrace
      obtain ⟨s₂, hlead₂, hat₂, hend⟩ :=
        hat₁.leads_close (by decide) fun s => Scanner.token?_closeBrace
      exact (hlead₁.trans hlead₂).reads ⟨by simpa [tokens] using hat₂, hend⟩
  | cons m ms =>
      obtain ⟨key, j⟩ := m
      obtain ⟨hj, hjs⟩ := List.forall_mem_cons.1 hscans
      obtain ⟨hword, hmore⟩ := List.forall_mem_cons.1 hwords
      obtain ⟨k, rfl, hk⟩ := (Option.any_eq_true _ _).1 hword
      have htext : render level (.object ((some k, j) :: ms)) ++ rest
          = '\x7b' :: (lineStart (level + 1) ++ (quoted (some k) ++ (':' :: ' ' ::
            (render (level + 1) j ++ (renderMembers (level + 1) ms
              ++ (lineStart level ++ '\x7d' :: rest)))))) := by
        simp only [render, List.append_assoc, List.cons_append, List.nil_append]
      rw [htext] at hat hd
      obtain ⟨s₁, hlead₁, hat₁, hallowed⟩ := hat.leads_open (by decide) hd
        fun s => Scanner.token?_openBrace
      have hfirst := hat₁.of_layout fun c hc => isLayout_of_mem_lineStart hc
      have hend := closes_mark (c := '\x7d') (by simp) level rest
      have hread := (reads_member (Nat.succ_pos d) (closes_renderMembers hend (level + 1) ms) hk hj
        hfirst hallowed).trans fun s₂ hat₂ => reads_members (Nat.succ_pos d) hend ms hjs hmore hat₂
      rw [membersAreTextual, hword, Bool.true_and]
      refine (Scanner.Reads.of_leads hlead₁ hread).leads fun s₃ hat₃ => ?_
      have hlast := hat₃.of_layout fun c hc => isLayout_of_mem_lineStart hc
      obtain ⟨s₄, hlead₄, hat₄, hafter⟩ :=
        hlast.leads_close (by decide) fun s => Scanner.token?_closeBrace
      exact ⟨s₄, hlead₄, by simpa [tokens] using hat₄, hafter⟩

theorem scans_object (ms : List (Option String × Json)) (hscans : ∀ m ∈ ms, Scans m.2)
    (hwords : ∀ m ∈ ms, m.1.any isWord = true) : Scans (.object ms) := by
  intro level s ts d rest hd _ hat
  exact (reads_object ms hscans hwords hat (.inl hd)).imp fun s' hat' => hat'.1

/-! ### Documents -/

theorem words_of_membersAreTextual {p : String → Bool} {ms : List (Option String × Json)}
    (h : membersAreTextual p ms = true) :
    ∀ m ∈ ms, m.1.any isWord = true ∧ m.2.isTextual p = true := by
  induction ms with
  | nil => simp
  | cons m ms ih =>
      obtain ⟨key, j⟩ := m
      rw [membersAreTextual, Bool.and_eq_true, Bool.and_eq_true] at h
      exact List.forall_mem_cons.2 ⟨⟨h.1, h.2.1⟩, ih h.2.2⟩

theorem isTextual_of_areTextual {p : String → Bool} {js : List Json}
    (h : areTextual p js = true) : ∀ j ∈ js, j.isTextual p = true := by
  induction js with
  | nil => simp
  | cons j js ih =>
      rw [areTextual, Bool.and_eq_true] at h
      exact List.forall_mem_cons.2 ⟨h.1, ih h.2⟩

/-- Documents of texts are read: the parts of an array or object are read before it is. -/
theorem scans : ∀ j : Json, j.isTextual (fun _ => true) = true → Scans j
  | .bool b, _ => scans_bool b
  | .string (some t), _ => scans_string t
  | .array js, h => scans_array js fun j hj => scans j (isTextual_of_areTextual h j hj)
  | .object ms, h => scans_object ms
      (fun (key, j) hm => by
        have hlt : sizeOf j < sizeOf ms := by
          have hmember := List.sizeOf_lt_of_mem hm
          rw [Prod.mk.sizeOf_spec] at hmember
          omega
        exact scans j (words_of_membersAreTextual h _ hm).2)
      fun m hm => (words_of_membersAreTextual h m hm).1

/-! ### Characters -/

/-- Whether YAML allows what JSON writes for a text. -/
def isAllowedText (s : String) : Bool := (written s.toList).all isAllowed

theorem allowed_lineStart (level : Nat) : (lineStart level).all isAllowed = true := by
  rw [List.all_eq_true]
  intro c hc
  have hlayout := isLayout_of_mem_lineStart hc
  simp only [isLayout, Bool.or_eq_true, beq_iff_eq] at hlayout
  rcases hlayout with rfl | rfl <;> decide

theorem allowed_quoted (s : String) : (quoted (some s)).all isAllowed = isAllowedText s := by
  rw [isAllowedText, written, quoted, List.append_assoc, List.all_append]
  rfl

theorem allowed_word {key : Option String} (h : key.any isWord = true) :
    (quoted key).all isAllowed = true := by
  obtain ⟨k, rfl, hk⟩ := (Option.any_eq_true _ _).1 h
  rw [isWord, Bool.and_eq_true, List.all_eq_true] at hk
  rw [allowed_quoted, isAllowedText, allowed_written]
  intro c hc
  have hbounds := Text.toNat_of_isAlphanum (hk.1 c hc)
  have hlow : c.toNat < 0x7F := by omega
  simp [isKeptCharacter, hlow]

mutual

/-- YAML allows the text of a document if it allows the texts in it. -/
theorem allowed_render : ∀ (j : Json) (level : Nat), j.isTextual (fun _ => true) = true →
    (render level j).all isAllowed = j.isTextual isAllowedText
  | .bool b, level, _ => by cases b <;> rfl
  | .string (some s), level, _ => allowed_quoted s
  | .array [], level, _ => rfl
  | .array (j :: js), level, h => by
      rw [isTextual, areTextual, Bool.and_eq_true] at h
      simp only [render, List.all_append, allowed_lineStart, allowed_render j _ h.1,
        allowed_renderItems js _ h.2, isTextual, areTextual]
      simp [isAllowed]
  | .object [], level, _ => rfl
  | .object ((key, j) :: ms), level, h => by
      rw [isTextual, membersAreTextual, Bool.and_eq_true, Bool.and_eq_true] at h
      simp only [render, List.all_append, allowed_lineStart, allowed_word h.1,
        allowed_render j _ h.2.1, allowed_renderMembers ms _ h.2.2, isTextual, membersAreTextual,
        h.1]
      simp [isAllowed]

theorem allowed_renderItems : ∀ (js : List Json) (level : Nat),
    areTextual (fun _ => true) js = true →
      (renderItems level js).all isAllowed = areTextual isAllowedText js
  | [], _, _ => rfl
  | j :: js, level, h => by
      rw [areTextual, Bool.and_eq_true] at h
      simp only [renderItems, List.all_append, allowed_lineStart, allowed_render j _ h.1,
        allowed_renderItems js _ h.2, areTextual]
      simp [isAllowed]

theorem allowed_renderMembers : ∀ (ms : List (Option String × Json)) (level : Nat),
    membersAreTextual (fun _ => true) ms = true →
      (renderMembers level ms).all isAllowed = membersAreTextual isAllowedText ms
  | [], _, _ => rfl
  | (key, j) :: ms, level, h => by
      rw [membersAreTextual, Bool.and_eq_true, Bool.and_eq_true] at h
      simp only [renderMembers, List.all_append, allowed_lineStart, allowed_word h.1,
        allowed_render j _ h.2.1, allowed_renderMembers ms _ h.2.2, membersAreTextual, h.1]
      simp [isAllowed]

end

/-- **The text of an object has the tokens of the object in YAML**, provided that YAML allows every
text in it and makes something of it. -/
theorem scan?_render {ms : List (Option String × Json)}
    (h : membersAreTextual (fun _ => true) ms = true) :
    scan? (render 0 (.object ms)) =
      if membersAreTextual isAllowedText ms && membersAreTextual folds ms then
        some (tokens refolded (.object ms))
      else none := by
  have hwords := words_of_membersAreTextual h
  have hread := @reads_object 0 0 (Scanner.start (render 0 (.object ms) ++ [])) [] [] ms
    (fun m hm => scans m.2 (hwords m hm).2) (fun m hm => (hwords m hm).1) (Scanner.at_start _)
    (.inr rfl)
  rw [List.append_nil] at hread
  rw [scan?, allowed_render (.object ms) 0 h, Scanner.run?_of_reads hread, isTextual]
  cases membersAreTextual isAllowedText ms <;> rfl

end HostRouting.Json
