/-
**Where a scanner stands.**

Most of what a scanner keeps is of no use inside a flow collection: no block is open, and nothing
has to be a key.  What matters is the tokens behind it, the depth of the collections around it and
the text in front of it, and layout between two tokens makes no difference.  Every token takes a
character at least, so the steps for the characters of a text are enough to read it.

Main definitions:

* `Yaml.Scanner.At` — the tokens behind a scanner, the depth around it and the text in front of it;
* `Yaml.Scanner.Leads`, `Yaml.Scanner.Fails` — how reading goes on;
* `Yaml.Scanner.Reads` — reading leads to a scanner with a property, or fails if a condition does
  not hold.

Main results:

* `Yaml.Scanner.At.leads_token`, `Yaml.Scanner.At.fails_token` — one token decides how reading goes
  on;
* `Yaml.Scanner.Reads.trans` — what is read in two parts;
* `Yaml.Scanner.run?_of_reads` — **what is read up to the end gives its tokens**.
-/

import HostRouting.Yaml.Scanner

set_option autoImplicit false

namespace HostRouting.Yaml

/-! ### Layout -/

/-- Whether `c` is used to lay a document out over lines. -/
def isLayout (c : Char) : Bool := c == ' ' || c == '\n'

/-- Whether a token may begin with `c` whatever stands in front of it. -/
def beginsToken (c : Char) : Bool := !(isBlank c || isBreak c || c == '#' || c == '\uFEFF')

theorem isLayout_of_beginsToken {c : Char} (h : beginsToken c = true) : isLayout c = false := by
  cases hc : isLayout c with
  | false => rfl
  | true =>
      simp only [isLayout, Bool.or_eq_true, beq_iff_eq] at hc
      rcases hc with rfl | rfl <;> exact absurd h (by decide)

/-- In front of a token stand spaces, and perhaps a line end with more layout behind it. -/
theorem layout_cases {c : Char} {cs text : List Char} (h : text.dropWhile isLayout = c :: cs) :
    ∃ n after, text = List.replicate n ' ' ++ after ∧
      (after = c :: cs ∨ ∃ more, after = '\n' :: more ∧ more.dropWhile isLayout = c :: cs) := by
  induction text with
  | nil => cases h
  | cons x text ih =>
      by_cases hspace : x = ' '
      · subst hspace
        obtain ⟨n, after, rfl, hafter⟩ := ih h
        exact ⟨n + 1, after, rfl, hafter⟩
      by_cases hline : x = '\n'
      · subst hline
        exact ⟨0, _, rfl, .inr ⟨text, rfl, h⟩⟩
      · have hx : isLayout x = false := by simp [isLayout, hspace, hline]
        rw [List.dropWhile_cons_of_neg (by simp [hx])] at h
        exact ⟨0, _, rfl, .inl h⟩

namespace Scanner

/-! ### Up to the next token -/

/-- Spaces are passed up to what is neither a blank nor a remark; a line end is passed as well. -/
theorem toNextToken_succ {s : Scanner} {n : Nat} {x : Char} {xs : List Char}
    (hrest : s.rest = List.replicate n ' ' ++ x :: xs)
    (hx : isBlank x = false ∧ x ≠ '#' ∧ x ≠ '\uFEFF') (fuel : Nat) :
    toNextToken (fuel + 1) s =
      if isBreak x then
        toNextToken fuel ((s.moved (⟨s.cursor.pos.right n, x :: xs⟩ : Cursor).skipBreak).allowingKey
          (s.keyAllowed || !s.inFlow))
      else s.moved ⟨s.cursor.pos.right n, x :: xs⟩ := by
  obtain ⟨hblank, hremark, hbom⟩ := hx
  simp only [isBlank, Bool.or_eq_false_iff, beq_eq_false_iff_ne] at hblank
  have hhead : (s.cursor.rest.head? == some '\uFEFF') = false := by
    have hcursor : s.cursor.rest = List.replicate n ' ' ++ x :: xs := hrest
    rw [hcursor]
    cases n with
    | zero => simpa using hbom
    | succ n => rfl
  have hskip : s.cursor.skipWhile
        (fun y => y == ' ' || (y == '\t' && (s.inFlow || !s.keyAllowed)))
      = ⟨s.cursor.pos.right n, x :: xs⟩ := by
    have hcursor : s.cursor.rest = List.replicate n ' ' ++ x :: xs := hrest
    rw [Cursor.skipWhile, hcursor, List.takeWhile_append_of_pos (by simp),
      List.dropWhile_append_of_pos (by simp)]
    simp [hblank]
  have hstay : (⟨s.cursor.pos.right n, x :: xs⟩ : Cursor).skipRemark
      = ⟨s.cursor.pos.right n, x :: xs⟩ := by
    unfold Cursor.skipRemark
    split
    · next heq => exact absurd (List.head_eq_of_cons_eq heq) hremark
    · rfl
  rw [toNextToken]
  simp only [hhead, Bool.and_false, Bool.false_eq_true, ↓reduceIte, hskip, hstay, List.isEmpty_cons,
    Bool.false_or, atLineEnd, Bool.not_eq_true']
  cases isBreak x <;> rfl

theorem toNextToken_of_begins {s : Scanner} {c : Char} {cs : List Char}
    (hrest : s.rest = c :: cs) (hc : beginsToken c = true) (fuel : Nat) :
    toNextToken (fuel + 1) s = s := by
  simp only [beginsToken, Bool.not_eq_true', Bool.or_eq_false_iff, beq_eq_false_iff_ne] at hc
  obtain ⟨⟨⟨hblank, hbreak⟩, hremark⟩, hbom⟩ := hc
  have hcursor : s.cursor.rest = c :: cs := hrest
  rw [toNextToken_succ (n := 0) hrest ⟨hblank, hremark, hbom⟩, hbreak, ← hcursor]
  rfl

/-- In a flow collection the scanner passes the layout in front of a token. -/
theorem exists_toNextToken {c : Char} {cs : List Char} (hc : beginsToken c = true) (fuel : Nat) :
    ∀ {s : Scanner}, s.inFlow = true → s.rest.dropWhile isLayout = c :: cs →
      s.rest.length < fuel → ∃ p, toNextToken fuel s = s.moved ⟨p, c :: cs⟩ := by
  have hbegins := hc
  simp only [beginsToken, Bool.not_eq_true', Bool.or_eq_false_iff, beq_eq_false_iff_ne] at hbegins
  obtain ⟨⟨⟨hblank, hbreak⟩, hremark⟩, hbom⟩ := hbegins
  induction fuel with
  | zero =>
      intro s _ _ hlt
      exact absurd hlt (Nat.not_lt_zero _)
  | succ fuel ih =>
      intro s hflow hrest hlt
      obtain ⟨n, after, htext, hafter⟩ := layout_cases hrest
      rcases hafter with rfl | ⟨more, rfl, hmore⟩
      · exact ⟨_, by rw [toNextToken_succ htext ⟨hblank, hremark, hbom⟩, hbreak]; rfl⟩
      · -- the line ends here, and the scanner goes on in the next one
        have hline := toNextToken_succ htext (by decide) fuel
        rw [show isBreak '\n' = true from rfl, if_pos rfl, hflow, Bool.not_true, Bool.or_false]
          at hline
        rw [htext] at hlt
        simp only [List.length_append, List.length_cons] at hlt
        obtain ⟨p, hp⟩ := @ih ((s.moved ⟨(s.cursor.pos.right n).down 1, more⟩).allowingKey
          s.keyAllowed) hflow hmore (by change more.length < fuel; omega)
        exact ⟨p, hline.trans hp⟩

/-! ### Where a scanner stands -/

/-- Whether nothing has to be a key. -/
def isFree (k : Option SimpleKey) : Bool := !k.any (·.required)

/-- A scanner stands in front of a text with tokens behind it and flow collections of some depth
around it.  Layout may come before the text; no block is open, and nothing has to be a key. -/
structure At (s : Scanner) (tokens : List Token) (depth : Nat) (text : List Char) : Prop where
  tokens : s.tokens.reverse = tokens
  depth : s.outerKeys.length = depth
  text : s.rest.dropWhile isLayout = text.dropWhile isLayout
  indent : s.indent = -1
  outerIndents : s.outerIndents = []
  key : isFree s.key = true
  outerKeys : ∀ k ∈ s.outerKeys, isFree k = true

theorem at_start (text : List Char) : (start text).At [] 0 text :=
  ⟨rfl, rfl, rfl, rfl, rfl, rfl, by simp [start]⟩

section

variable {s : Scanner} {ts : List Token} {d : Nat} {text : List Char}

theorem At.of_layout {gap : List Char} (hgap : ∀ c ∈ gap, isLayout c = true)
    (h : s.At ts d (gap ++ text)) : s.At ts d text :=
  { h with text := by rw [h.text, List.dropWhile_append_of_pos hgap] }

theorem At.inFlow (h : s.At ts d text) (hd : 0 < d) : s.inFlow = true := by
  have hpos : 0 < s.outerKeys.length := h.depth ▸ hd
  cases hkeys : s.outerKeys with
  | nil =>
      rw [hkeys] at hpos
      exact absurd hpos (Nat.lt_irrefl 0)
  | cons k ks =>
      rw [Scanner.inFlow, hkeys]
      rfl

end

/-! ### Keys -/

theorem exists_freshKey? (p : Pos) {k : Option SimpleKey} (h : isFree k = true) :
    ∃ k', freshKey? p k = some k' ∧ isFree k' = true := by
  cases k with
  | none => exact ⟨none, rfl, rfl⟩
  | some k =>
      have hfree : k.required = false := by simpa [isFree] using h
      unfold freshKey?
      simp only [hfree]
      split
      · exact ⟨none, rfl, rfl⟩
      · exact ⟨some k, rfl, h⟩

theorem exists_mapM_freshKey? (p : Pos) {ks : List (Option SimpleKey)}
    (h : ∀ k ∈ ks, isFree k = true) :
    ∃ ks', ks.mapM (freshKey? p) = some ks' ∧ ks'.length = ks.length ∧
      ∀ k ∈ ks', isFree k = true := by
  induction ks with
  | nil => exact ⟨[], rfl, rfl, h⟩
  | cons k ks ih =>
      obtain ⟨hk, hks⟩ := List.forall_mem_cons.1 h
      obtain ⟨k', hfresh, hfree⟩ := exists_freshKey? p hk
      obtain ⟨ks', hmap, hlength, hall⟩ := ih hks
      refine ⟨k' :: ks', ?_, by simp [hlength], List.forall_mem_cons.2 ⟨hfree, hall⟩⟩
      rw [List.mapM_cons, hfresh, hmap]
      rfl

/-- Nothing has to be a key, so keys can be dropped. -/
theorem At.exists_withFreshKeys? {s : Scanner} {ts : List Token} {d : Nat} {text : List Char}
    (h : s.At ts d text) : ∃ key keys, freshKey? s.cursor.pos s.key = some key ∧
      s.withFreshKeys? = some { s with key := key, outerKeys := keys } ∧
      At { s with key := key, outerKeys := keys } ts d text := by
  obtain ⟨key, hkey, hfree⟩ := exists_freshKey? s.cursor.pos h.key
  obtain ⟨keys, hkeys, hlength, hall⟩ := exists_mapM_freshKey? s.cursor.pos h.outerKeys
  refine ⟨key, keys, hkey, ?_,
    { h with depth := hlength.trans h.depth, key := hfree, outerKeys := hall }⟩
  rw [withFreshKeys?, hkey, hkeys]
  rfl

theorem withoutKey?_of_isFree {s : Scanner} (h : isFree s.key = true) :
    s.withoutKey? = some { s with key := none } := by
  unfold withoutKey?
  split
  · next k hk =>
      have hfree : k.required = false := by simpa [isFree, hk] using h
      simp [hfree]
  · next hk => rw [← hk]

/-- The key that begins here, if one may. -/
def keyHere (s : Scanner) : Option SimpleKey :=
  if s.keyAllowed then some ⟨false, s.tokens.length, s.cursor.pos⟩ else s.key

/-- No block is open, so what begins here need not be a key. -/
theorem At.withKey?_eq {s : Scanner} {ts : List Token} {d : Nat} {text : List Char}
    (h : s.At ts d text) : s.withKey? = some { s with key := s.keyHere } ∧
      At { s with key := s.keyHere } ts d text := by
  have hindent : (s.indent == (s.column : Int)) = false := by
    rw [h.indent, beq_eq_false_iff_ne]
    omega
  rw [withKey?, keyHere, withoutKey?_of_isFree h.key, hindent, Bool.and_false]
  split
  · exact ⟨rfl, { h with key := rfl }⟩
  · exact ⟨rfl, h⟩

/-! ### Reading on -/

/-- Reading on from `s` comes to `s'`, with a step left for every character that is left. -/
def Leads (s s' : Scanner) : Prop :=
  ∃ steps, steps + s'.rest.length ≤ s.rest.length ∧
    ∀ fuel, s.run? (fuel + steps) = s'.run? fuel

/-- Reading on from `s` fails. -/
def Fails (s : Scanner) : Prop :=
  ∃ steps, steps ≤ s.rest.length ∧ ∀ fuel, s.run? (fuel + steps) = none

/-- Reading on from `s` comes to a scanner with a property if `ok` holds, and fails otherwise. -/
def Reads (s : Scanner) (ok : Bool) (P : Scanner → Prop) : Prop :=
  if ok then ∃ s', s.Leads s' ∧ P s' else s.Fails

theorem Leads.refl (s : Scanner) : s.Leads s := ⟨0, Nat.le_of_eq (Nat.zero_add _), fun _ => rfl⟩

theorem Leads.trans {s₁ s₂ s₃ : Scanner} (h : s₁.Leads s₂) (h' : s₂.Leads s₃) : s₁.Leads s₃ := by
  obtain ⟨k, hk, hrun⟩ := h
  obtain ⟨k', hk', hrun'⟩ := h'
  refine ⟨k' + k, by omega, fun fuel => ?_⟩
  rw [← Nat.add_assoc, hrun, hrun']

theorem Leads.fails {s₁ s₂ : Scanner} (h : s₁.Leads s₂) (h' : s₂.Fails) : s₁.Fails := by
  obtain ⟨k, hk, hrun⟩ := h
  obtain ⟨k', hk', hrun'⟩ := h'
  refine ⟨k' + k, by omega, fun fuel => ?_⟩
  rw [← Nat.add_assoc, hrun, hrun']

theorem Leads.reads {s s' : Scanner} {P : Scanner → Prop} (h : s.Leads s') (hP : P s') :
    s.Reads true P := ⟨s', h, hP⟩

/-- What is read in two parts fails where the first part does or the second. -/
theorem Reads.trans {s : Scanner} {ok ok' : Bool} {P Q : Scanner → Prop} (h : s.Reads ok P)
    (h' : ∀ s', P s' → s'.Reads ok' Q) : s.Reads (ok && ok') Q := by
  cases ok with
  | false => exact h
  | true =>
      obtain ⟨s₁, hlead, hP⟩ := h
      have hnext := h' s₁ hP
      cases ok' with
      | false => exact hlead.fails hnext
      | true =>
          obtain ⟨s₂, hlead', hQ⟩ := hnext
          exact ⟨s₂, hlead.trans hlead', hQ⟩

theorem Reads.of_leads {s s' : Scanner} {ok : Bool} {P : Scanner → Prop} (h : s.Leads s')
    (h' : s'.Reads ok P) : s.Reads ok P := (Leads.reads h h').trans fun _ h => h

theorem Reads.leads {s : Scanner} {ok : Bool} {P Q : Scanner → Prop} (h : s.Reads ok P)
    (h' : ∀ s', P s' → ∃ s₂, s'.Leads s₂ ∧ Q s₂) : s.Reads ok Q := by
  cases ok with
  | false => exact h
  | true =>
      obtain ⟨s₁, hlead, hP⟩ := h
      obtain ⟨s₂, hlead', hQ⟩ := h' s₁ hP
      exact ⟨s₂, hlead.trans hlead', hQ⟩

theorem Reads.imp {s : Scanner} {ok : Bool} {P Q : Scanner → Prop} (h : s.Reads ok P)
    (hPQ : ∀ s', P s' → Q s') : s.Reads ok Q :=
  h.leads fun s' hP => ⟨s', Leads.refl s', hPQ s' hP⟩

/-! ### One token -/

theorem closeBlocks_of_outerIndents {s : Scanner} (h : s.outerIndents = []) (column : Int) :
    s.closeBlocks column = s := by
  rw [closeBlocks, h]
  split <;> rfl

section

variable {s : Scanner} {ts : List Token} {d : Nat} {c : Char} {cs : List Char}

/-- What the scanner is like when it has come to the next token. -/
theorem At.exists_ready?_of_next {s₁ : Scanner} (h : s₁.At ts d (c :: cs))
    (hnext : toNextToken (s.rest.length + 1) s = s₁) : ∃ key keys,
      freshKey? s₁.cursor.pos s₁.key = some key ∧
        s.ready? = some { s₁ with key := key, outerKeys := keys } ∧
        At { s₁ with key := key, outerKeys := keys } ts d (c :: cs) := by
  obtain ⟨key, keys, hkey, hfresh, hat⟩ := h.exists_withFreshKeys?
  refine ⟨key, keys, hkey, ?_, hat⟩
  rw [ready?, hnext, hfresh]
  exact congrArg some (closeBlocks_of_outerIndents hat.outerIndents _)

variable (h : s.At ts d (c :: cs)) (hc : beginsToken c = true)

include h hc

theorem At.length_le : cs.length + 1 ≤ s.rest.length := by
  have hdrop : (c :: cs).dropWhile isLayout = c :: cs :=
    List.dropWhile_cons_of_neg (by simp [isLayout_of_beginsToken hc])
  have hlength : (s.rest.dropWhile isLayout).length ≤ s.rest.length :=
    (List.dropWhile_sublist isLayout).length_le
  rw [h.text, hdrop] at hlength
  exact hlength

variable (hd : 0 < d ∨ s.rest = c :: cs)

include hd

/-- The scanner comes to the next token.  If it stood in front of it, it knows the same key as
before, unless that cannot be one any more. -/
theorem At.exists_ready? : ∃ s', s.ready? = some s' ∧ s'.At ts d (c :: cs) ∧ s'.rest = c :: cs ∧
    s'.keyAllowed = s.keyAllowed ∧
    (s.rest = c :: cs → freshKey? s.cursor.pos s.key = some s'.key) := by
  by_cases hrest : s.rest = c :: cs
  · obtain ⟨key, keys, hkey, hready, hat⟩ :=
      h.exists_ready?_of_next (toNextToken_of_begins hrest hc _)
    exact ⟨_, hready, hat, hrest, rfl, fun _ => hkey⟩
  · have hflow := h.inFlow (hd.resolve_right hrest)
    have hdrop : (c :: cs).dropWhile isLayout = c :: cs :=
      List.dropWhile_cons_of_neg (by simp [isLayout_of_beginsToken hc])
    obtain ⟨p, hnext⟩ := exists_toNextToken hc _ hflow (h.text.trans hdrop) (Nat.lt_succ_self _)
    obtain ⟨key, keys, -, hready, hat⟩ :=
      @At.exists_ready?_of_next s ts d c cs (s.moved ⟨p, c :: cs⟩) { h with text := rfl } hnext
    exact ⟨_, hready, hat, rfl, rfl, fun h => absurd h hrest⟩

/-- A token that is read leads on. -/
theorem At.leads_token {P : Scanner → Prop}
    (htoken : ∀ s₁ : Scanner, s₁.At ts d (c :: cs) → s₁.rest = c :: cs →
      s₁.keyAllowed = s.keyAllowed →
      (s.rest = c :: cs → freshKey? s.cursor.pos s.key = some s₁.key) →
      ∃ s₂, s₁.token? c cs = some s₂ ∧ s₂.rest.length ≤ cs.length ∧ P s₂) :
    ∃ s₂, s.Leads s₂ ∧ P s₂ := by
  obtain ⟨s₁, hready, hat, hrest, hallowed, hkey⟩ := h.exists_ready? hc hd
  obtain ⟨s₂, hread, hlength, hP⟩ := htoken s₁ hat hrest hallowed hkey
  have hle := h.length_le hc
  refine ⟨s₂, ⟨1, by omega, fun fuel => ?_⟩, hP⟩
  rw [run?, hready]
  simp only [Option.bind_eq_bind, Option.bind_some, hrest, hread]

/-- A token that cannot be read is the end. -/
theorem At.fails_token
    (htoken : ∀ s₁ : Scanner, s₁.At ts d (c :: cs) → s₁.rest = c :: cs → s₁.token? c cs = none) :
    s.Fails := by
  obtain ⟨s₁, hready, hat, hrest, -, -⟩ := h.exists_ready? hc hd
  have hle := h.length_le hc
  refine ⟨1, by omega, fun fuel => ?_⟩
  rw [run?, hready]
  simp only [Option.bind_eq_bind, Option.bind_some, hrest, htoken s₁ hat hrest, Option.bind_none]

end

/-! ### The end of a text -/

theorem toNextToken_of_end {s : Scanner} (h : s.rest = []) (fuel : Nat) :
    toNextToken (fuel + 1) s = s := by
  have hcursor : s.cursor.rest = [] := h
  have hskip (p : Char → Bool) : s.cursor.skipWhile p = s.cursor := by
    rw [Cursor.skipWhile, hcursor]
    conv => rhs; rw [show s.cursor = ⟨s.cursor.pos, s.cursor.rest⟩ from rfl, hcursor]
    rfl
  have hremark : s.cursor.skipRemark = s.cursor := by
    unfold Cursor.skipRemark
    split
    · next heq =>
        rw [hcursor] at heq
        cases heq
    · rfl
  rw [toNextToken]
  simp [hcursor, moved, hskip, hremark]

/-- At the end of a text outside of flow collections the tokens are complete. -/
theorem At.run?_end {s : Scanner} {ts : List Token} (h : s.At ts 0 []) (hrest : s.rest = [])
    (fuel : Nat) : s.run? (fuel + 1) = some ts := by
  obtain ⟨key, keys, -, hfresh, hat⟩ := h.exists_withFreshKeys?
  have hready : s.ready? = some { s with key := key, outerKeys := keys } := by
    rw [ready?, toNextToken_of_end hrest, hfresh]
    exact congrArg some (closeBlocks_of_outerIndents hat.outerIndents _)
  have hfinished : finished? { s with key := key, outerKeys := keys } = some ts := by
    rw [finished?, closeBlocks_of_outerIndents hat.outerIndents, withoutKey?_of_isFree hat.key,
      ← hat.tokens]
    rfl
  have hafter : Scanner.rest { s with key := key, outerKeys := keys } = [] := hrest
  rw [run?, hready]
  simp only [Option.bind_eq_bind, Option.bind_some, hafter, hfinished]

/-- What is read up to the end gives its tokens. -/
theorem run?_of_reads {text : List Char} {ok : Bool} {ts : List Token}
    (h : (start text).Reads ok fun s => s.At ts 0 [] ∧ s.rest = []) :
    (start text).run? (text.length + 1) = if ok then some ts else none := by
  cases ok with
  | false =>
      obtain ⟨k, hk, hrun⟩ := h
      have hsteps := hrun (text.length + 1 - k)
      have hlength : k ≤ text.length := hk
      rwa [Nat.sub_add_cancel (Nat.le_succ_of_le hlength)] at hsteps
  | true =>
      obtain ⟨s, ⟨k, hk, hrun⟩, hat, hrest⟩ := h
      have hlength : k + s.rest.length ≤ text.length := hk
      have hsteps := hrun (text.length - k + 1)
      rw [hat.run?_end hrest] at hsteps
      rwa [show text.length - k + 1 + k = text.length + 1 by omega] at hsteps

end Scanner

end HostRouting.Yaml
