/-
**How the URL of a web scheme is cut.**

A text with a scheme of the web is cut at the colon after the scheme, whatever slashes follow, and
at the end of the authority.  Read from the result: scheme, host and port of a URL come from the
authority that was cut out.  In the other direction, a host and the digits of a port, with nothing in
them that separates parts of an authority, are cut out again as they stand.

Main results:

* `Url.Parts.ofText_eq_ok` — what the parts of a text are cut from;
* `Url.parse_eq_ok` — **what a URL of a web scheme is read from**;
* `Url.portOf_eq_ok`, `Url.portOf_decimal` — which ports are kept, and that they are read back;
* `Url.scheme_of_beginning` — the scheme of a text that begins with one in lower case;
* `Url.Parts.ofText_of_slashes` — the authority after a scheme, its colon and exactly two slashes;
* `Url.parse_plain` — **scheme, host and port in their plain form are read as they stand**.
-/

import HostRouting.Proofs.Text.Alphanum
import HostRouting.Proofs.Url.Ipv4
import HostRouting.Url.Basic
import Mathlib.Data.List.TakeWhile

set_option autoImplicit false

namespace HostRouting.Url

/-! ### Schemes -/

theorem ascii_of_isSchemeCharacter {c : Char} (h : isSchemeCharacter c = true) :
    c.toNat < 0x80 := by
  simp only [isSchemeCharacter, Bool.or_eq_true, beq_iff_eq] at h
  rcases h with ((h | rfl) | rfl) | rfl
  · have hle := (Text.toNat_of_isAlphanum h).2
    omega
  all_goals decide

/-- The characters of a scheme are visible and separate no parts of a URL. -/
theorem plain_of_isSchemeCharacter {c : Char} (h : isSchemeCharacter c = true) :
    0x20 < c.toNat ∧ endsAuthority .web c = false ∧ c ≠ '@' ∧ c ≠ ':' ∧ c ≠ '[' :=
  Domain.forall_ascii
    (P := fun c => isSchemeCharacter c = true →
      0x20 < c.toNat ∧ endsAuthority .web c = false ∧ c ≠ '@' ∧ c ≠ ':' ∧ c ≠ '[')
    (by decide) (ascii_of_isSchemeCharacter h) h

theorem isSchemeCharacter_of_mem_decimal {n : Nat} {c : Char} (hc : c ∈ Text.decimal n) :
    isSchemeCharacter c = true := by
  have hdigit := isDigit_of_mem_decimal hc
  exact Domain.forall_ascii
    (P := fun c => Text.isDigit 10 c = true → isSchemeCharacter c = true)
    (by decide) (ascii_of_isDigit hdigit) hdigit

/-- What a scheme and the rest of a text are cut from: the scheme is in front of the first colon,
and is put in lower case. -/
theorem scheme?_eq_some {cs rest : List Char} {scheme : String}
    (h : scheme? cs = some (scheme, rest)) :
    ∃ word, (∀ c ∈ word, isSchemeCharacter c = true) ∧ cs = word ++ ':' :: rest ∧
      scheme = String.ofList (Domain.lowerCase word) := by
  rw [scheme?.eq_def] at h
  split at h
  · cases h
  · next c cs =>
      split at h
      · next halpha =>
          split at h
          · next rest' hrest =>
              obtain ⟨rfl, rfl⟩ := Prod.mk.inj (Option.some.inj h)
              refine ⟨c :: cs.takeWhile isSchemeCharacter, ?_, ?_, rfl⟩
              · refine List.forall_mem_cons.2 ⟨?_, fun d hd => List.mem_takeWhile_imp hd⟩
                simp [isSchemeCharacter, Char.isAlphanum, halpha]
              · rw [List.cons_append, ← hrest, List.takeWhile_append_dropWhile]
          · cases h
      · cases h

/-- A scheme holds no colon, so it ends at the first colon of the text. -/
theorem dropWhile_of_scheme? {cs rest : List Char} {scheme : String}
    (h : scheme? cs = some (scheme, rest)) : cs.dropWhile (· != ':') = ':' :: rest := by
  obtain ⟨word, hword, rfl, -⟩ := scheme?_eq_some h
  have hcolon : ∀ c ∈ word, (c != ':') = true := by
    intro c hc
    rw [bne_iff_ne]
    rintro rfl
    exact absurd (hword ':' hc) (by decide)
  rw [List.dropWhile_append_of_pos hcolon]
  rfl

/-! ### Parts -/

theorem Parts.withAuthority_eq_ok {scheme : String} {cs : List Char} {parts : Parts}
    (h : withAuthority scheme cs = .ok parts) :
    ∃ rest, parts = ⟨scheme, some (Authority.ofText
      (cs.takeWhile (!endsAuthority (Kind.ofScheme scheme) ·))), rest⟩ := by
  rw [withAuthority] at h
  split at h
  · cases h
  · exact ⟨_, (Except.ok.inj h).symm⟩

theorem Parts.scheme_ofFile (cs : List Char) : (ofFile cs).scheme = "file" := by
  rw [ofFile.eq_def]
  split
  · split
    · dsimp only
      split <;> rfl
    · rfl
  · rfl

/-- What the parts of a text are cut from: the text begins with their scheme, and for a scheme of the
web the authority follows after any slashes. -/
theorem Parts.ofText_eq_ok {text : List Char} {parts : Parts} (h : ofText text = .ok parts) :
    ∃ cs, scheme? (cleaned text) = some (parts.scheme, cs) ∧
      (parts.kind = .web → withAuthority parts.scheme (cs.dropWhile isSlash) = .ok parts) := by
  rw [ofText] at h
  split at h
  · cases h
  · next scheme cs hscheme =>
      refine ⟨cs, ?_⟩
      split at h
      · obtain ⟨rest, hparts⟩ := withAuthority_eq_ok h
        have hname : parts.scheme = scheme := by rw [hparts]
        rw [hname]
        exact ⟨hscheme, fun _ => h⟩
      · next hkind =>
          -- only one scheme is of this kind
          have hname : scheme = "file" := by
            rw [Kind.ofScheme] at hkind
            split at hkind
            · cases hkind
            · split at hkind
              · assumption
              · cases hkind
          have hfile : parts.scheme = scheme := by
            rw [← Except.ok.inj h, scheme_ofFile, hname]
          rw [Parts.kind, hfile, hkind]
          exact ⟨hscheme, nofun⟩
      · next hkind =>
          have hname : parts.scheme = scheme := by
            split at h
            · obtain ⟨rest, hparts⟩ := withAuthority_eq_ok h
              rw [hparts]
            · rw [← Except.ok.inj h]
          rw [Parts.kind, hname, hkind]
          exact ⟨hscheme, nofun⟩

/-! ### Ports -/

/-- Which ports are kept: numbers below 65536 other than the one that the scheme implies. -/
theorem portOf_eq_ok {scheme : String} {text : List Char} {port : Nat}
    (h : portOf scheme text = .ok (some port)) :
    port ≤ 65535 ∧ defaultPort? scheme ≠ some port := by
  rw [portOf] at h
  split at h
  · cases h
  · split at h
    · cases h
    · next hle =>
        have hport := Except.ok.inj h
        split at hport
        · cases hport
        · next hkept =>
            rw [Option.some.injEq] at hport
            subst hport
            exact ⟨Nat.not_lt.1 hle, fun hdefault => hkept (.inr hdefault)⟩

/-- The digits of a port are read as that port, and it is kept unless the scheme implies it. -/
theorem portOf_decimal_eq {scheme : String} {port : Nat} (hle : port ≤ 65535) :
    portOf scheme (Text.decimal port)
      = .ok (if defaultPort? scheme = some port then none else some port) := by
  have hslash : ∀ c ∈ Text.decimal port, (!isSlash c) = true := by
    intro c hc
    have hdigit := isDigit_of_mem_decimal hc
    rw [Bool.not_eq_true', isSlash, Bool.or_eq_false_iff, beq_eq_false_iff_ne, beq_eq_false_iff_ne]
    constructor
    all_goals
      rintro rfl
      exact absurd hdigit (by decide)
  have hdigits : (Text.decimal port).takeWhile (!isSlash ·) = Text.decimal port :=
    List.takeWhile_eq_self_iff.2 hslash
  have hempty : (Text.decimal port).isEmpty = false :=
    List.isEmpty_eq_false_iff.2 (decimal_ne_nil port)
  have hnumber : Text.number? 10 (Text.decimal port) = some port :=
    Text.number?_toDigits (by decide) (by decide) port
  rw [portOf, hdigits, hnumber, hempty]
  simp only [Nat.not_lt.2 hle, Bool.false_eq_true, false_or, ↓reduceIte]

/-- The digits of a port that is kept are read as that port. -/
theorem portOf_decimal {scheme : String} {port : Nat} (hle : port ≤ 65535)
    (hdefault : defaultPort? scheme ≠ some port) :
    portOf scheme (Text.decimal port) = .ok (some port) := by
  rw [portOf_decimal_eq hle, if_neg hdefault]

/-! ### URLs -/

/-- A step and what follows it succeed if both do. -/
theorem bind_eq_ok {ε α β : Type} {x : Except ε α} {f : α → Except ε β} {b : β} :
    x >>= f = .ok b ↔ ∃ a, x = .ok a ∧ f a = .ok b := by
  cases x with
  | error e => simp [bind, Except.bind]
  | ok a => simp [bind, Except.bind]

theorem webAuthority_eq_ok {scheme : String} {a : Authority} {url : Url}
    (h : webAuthority scheme a = .ok url) :
    ∃ host port, Host.ofName a.host = .ok host ∧ portOf scheme (a.port.getD []) = .ok port ∧
      url = ⟨scheme, some host, port⟩ := by
  rw [webAuthority] at h
  split at h
  · cases h
  · simp only [bind_eq_ok] at h
    obtain ⟨host, hhost, port, hport, hurl⟩ := h
    exact ⟨host, port, hhost, hport, (Except.ok.inj hurl).symm⟩

theorem scheme_of_otherAuthority {scheme : String} {a : Authority} {url : Url}
    (h : otherAuthority scheme a = .ok url) : url.scheme = scheme := by
  rw [otherAuthority, bind_eq_ok] at h
  obtain ⟨host, -, h⟩ := h
  split at h
  · split at h
    · cases h
    · rw [← Except.ok.inj h]
  · rw [bind_eq_ok] at h
    obtain ⟨port, -, h⟩ := h
    rw [← Except.ok.inj h]

theorem scheme_of_ofParts {parts : Parts} {url : Url} (h : ofParts parts = .ok url) :
    url.scheme = parts.scheme := by
  rw [ofParts] at h
  split at h
  · rw [← Except.ok.inj h]
  · split at h
    · obtain ⟨host, port, -, -, rfl⟩ := webAuthority_eq_ok h
      rfl
    · cases hfile : fileHost _ parts.rest with
      | error fault =>
          rw [hfile] at h
          cases h
      | ok host =>
          rw [hfile] at h
          rw [← Except.ok.inj h]
    · exact scheme_of_otherAuthority h

/-- The scheme of a URL is the one that the text begins with. -/
theorem scheme?_of_parse {text : String} {url : Url} (h : parse text = .ok url) :
    ∃ rest, scheme? (cleaned text.toList) = some (url.scheme, rest) := by
  obtain ⟨parts, hparts, hurl⟩ := bind_eq_ok.1 h
  obtain ⟨rest, hscheme, -⟩ := Parts.ofText_eq_ok hparts
  rw [scheme_of_ofParts hurl]
  exact ⟨rest, hscheme⟩

/-- **What a URL of a web scheme is read from**: an authority that the text is cut to. -/
theorem parse_eq_ok {text : String} {url : Url} (h : parse text = .ok url)
    (hweb : Kind.ofScheme url.scheme = .web) :
    ∃ a rest host, Parts.ofText text.toList = .ok ⟨url.scheme, some a, rest⟩ ∧
      Host.ofName a.host = .ok host ∧ portOf url.scheme (a.port.getD []) = .ok url.port ∧
      url.host = some host := by
  obtain ⟨parts, hparts, hurl⟩ := bind_eq_ok.1 h
  have hscheme : url.scheme = parts.scheme := scheme_of_ofParts hurl
  have hkind : parts.kind = .web := by rw [Parts.kind, ← hscheme, hweb]
  obtain ⟨cs, -, hcut⟩ := Parts.ofText_eq_ok hparts
  obtain ⟨rest, hcut⟩ := Parts.withAuthority_eq_ok (hcut hkind)
  rw [hcut] at hurl hkind hparts
  rw [ofParts, hkind] at hurl
  obtain ⟨host, port, hhost, hport, heq⟩ := webAuthority_eq_ok hurl
  rw [hscheme, heq]
  exact ⟨_, rest, host, hparts, hhost, hport, rfl⟩

/-! ### What does not count -/

theorem dropWhile_append_cons {α : Type} {p : α → Bool} {x : α} (hx : p x = false)
    (front back : List α) :
    (front ++ x :: back).dropWhile p = front.dropWhile p ++ x :: back := by
  induction front with
  | nil => rw [List.nil_append, List.dropWhile_cons_of_neg (by rw [hx]; exact Bool.false_ne_true)]; rfl
  | cons y front ih =>
      rw [List.cons_append, List.dropWhile_cons, List.dropWhile_cons]
      split
      · exact ih
      · rfl

/-- A text is cleaned in front of two slashes and behind them. -/
theorem cleaned_append_slashes (front back : List Char) :
    ∃ kept, kept <+: back ∧ cleaned (front ++ ':' :: '/' :: '/' :: back)
      = (front.dropWhile isControlOrSpace).filter (!isSkipped ·)
        ++ ':' :: '/' :: '/' :: kept.filter (!isSkipped ·) := by
  refine ⟨(back.reverse.dropWhile isControlOrSpace).reverse, ?_, ?_⟩
  · rw [← List.reverse_suffix, List.reverse_reverse]
    exact List.dropWhile_suffix _
  · have hback : (front.dropWhile isControlOrSpace ++ ':' :: '/' :: '/' :: back).reverse
        = back.reverse ++ '/' :: (front.dropWhile isControlOrSpace ++ [':', '/']).reverse := by
      simp
    rw [cleaned, dropWhile_append_cons (by decide), hback, dropWhile_append_cons (by decide)]
    simp [isSkipped]

/-- What is visible counts, wherever it stands. -/
theorem counts_of_graphic {c : Char} (h : 0x20 < c.toNat) :
    isControlOrSpace c = false ∧ (!isSkipped c) = true := by
  refine ⟨decide_eq_false_iff_not.2 (Nat.not_le.2 h), ?_⟩
  rw [Bool.not_eq_true', isSkipped, Bool.or_eq_false_iff, Bool.or_eq_false_iff]
  refine ⟨⟨?_, ?_⟩, ?_⟩
  all_goals
    rw [beq_eq_false_iff_ne]
    rintro rfl
    exact absurd h (by decide)

/-- **A text that begins with a scheme in lower case, a colon and two slashes has that scheme.** -/
theorem scheme_of_beginning {text scheme : String} {url : Url} (h : parse text = .ok url)
    (hscheme : ∀ rest, scheme? (scheme.toList ++ ':' :: rest) = some (scheme, rest))
    (hword : ∀ c ∈ scheme.toList, isSchemeCharacter c = true)
    (hbegins : scheme.toList ++ [':', '/', '/'] <+: text.toList) : url.scheme = scheme := by
  obtain ⟨back, hback⟩ := hbegins
  obtain ⟨rest, hrest⟩ := scheme?_of_parse h
  obtain ⟨kept, -, hcleaned⟩ := cleaned_append_slashes scheme.toList back
  -- nothing in a scheme is left out
  have hcounts : ∀ c ∈ scheme.toList, isControlOrSpace c = false ∧ (!isSkipped c) = true :=
    fun c hc => counts_of_graphic (plain_of_isSchemeCharacter (hword c hc)).1
  rw [Text.dropWhile_of_forall_mem fun c hc => (hcounts c hc).1,
    List.filter_eq_self.2 fun c hc => (hcounts c hc).2] at hcleaned
  rw [← hback, List.append_assoc, List.cons_append, List.cons_append, List.singleton_append,
    hcleaned, hscheme] at hrest
  exact (congrArg Prod.fst (Option.some.inj hrest)).symm

/-- Characters that end nothing may be left out before a text is cut. -/
theorem mem_takeWhile_of_filter {α : Type} {p q : α → Bool} (hpq : ∀ x, p x = false → q x = true)
    {c : α} {kept back : List α} (hkept : kept <+: back)
    (hc : c ∈ (kept.filter p).takeWhile q) : c ∈ back.takeWhile q := by
  obtain ⟨rest, rfl⟩ := hkept
  induction kept with
  | nil => simp at hc
  | cons x kept ih =>
      rw [List.cons_append, List.takeWhile_cons]
      by_cases hp : p x = true
      · rw [List.filter_cons_of_pos hp, List.takeWhile_cons] at hc
        split at hc
        · next hq =>
            rw [if_pos hq, List.mem_cons]
            exact (List.mem_cons.1 hc).imp_right ih
        · cases hc
      · rw [List.filter_cons_of_neg hp] at hc
        rw [if_pos (hpq x (Bool.eq_false_iff.2 hp))]
        exact List.mem_cons_of_mem _ (ih hc)

/-! ### The authority -/

theorem mem_of_mem_atColon {inBrackets : Bool} {cs : List Char} {c : Char}
    (hc : c ∈ (atColon inBrackets cs).1) : c ∈ cs := by
  induction cs generalizing inBrackets with
  | nil => cases hc
  | cons d cs ih =>
      rw [atColon] at hc
      split at hc
      · cases hc
      · rcases List.mem_cons.1 hc with rfl | hc
        · exact List.mem_cons_self
        · exact List.mem_cons_of_mem _ (ih hc)

/-- The host stands in the authority. -/
theorem Authority.mem_of_mem_host {cs : List Char} {c : Char} (hc : c ∈ (ofText cs).host) :
    c ∈ cs := by
  have htail : c ∈ (cs.reverse.takeWhile (· != '@')).reverse := mem_of_mem_atColon hc
  rw [List.mem_reverse] at htail
  exact List.mem_reverse.1 ((List.takeWhile_sublist _).subset htail)

/-- Where the scheme is followed by its colon, two slashes and no more, the authority is what follows
these. -/
theorem Parts.ofText_of_slashes {front back : List Char} {parts : Parts}
    (h : ofText (front ++ ':' :: '/' :: '/' :: back) = .ok parts) (hweb : parts.kind = .web)
    (hcolon : ':' ∉ front) (hhead : ∀ c, back.find? (!isSkipped ·) = some c → isSlash c = false) :
    ∃ kept rest, kept <+: back ∧ parts = ⟨parts.scheme, some (Authority.ofText
      ((kept.filter (!isSkipped ·)).takeWhile (!endsAuthority .web ·))), rest⟩ := by
  obtain ⟨cs, hscheme, hcut⟩ := ofText_eq_ok h
  obtain ⟨kept, hkept, hcleaned⟩ := cleaned_append_slashes front back
  -- the scheme ends at the first colon, so the two slashes are all that stands before the authority
  have hfront : ∀ c ∈ (front.dropWhile isControlOrSpace).filter (!isSkipped ·),
      (c != ':') = true := by
    intro c hc
    rw [bne_iff_ne]
    rintro rfl
    exact hcolon ((List.dropWhile_suffix _).subset (List.mem_filter.1 hc).1)
  have hcs := dropWhile_of_scheme? hscheme
  rw [hcleaned, List.dropWhile_append_of_pos hfront] at hcs
  obtain rfl : '/' :: '/' :: kept.filter (!isSkipped ·) = cs := (List.cons.inj hcs).2
  have hslash : ('/' :: '/' :: kept.filter (!isSkipped ·)).dropWhile isSlash
      = kept.filter (!isSkipped ·) := by
    change (kept.filter (!isSkipped ·)).dropWhile isSlash = _
    cases hfilter : kept.filter (!isSkipped ·) with
    | nil => rfl
    | cons c cs =>
        have hfind : kept.find? (!isSkipped ·) = some c := by
          rw [← List.head?_filter, hfilter]
          rfl
        have hc := hhead c (hkept.find?_eq_some hfind)
        rw [List.dropWhile_cons_of_neg (by rw [hc]; exact Bool.false_ne_true)]
  have hplace := hcut hweb
  rw [hslash] at hplace
  obtain ⟨rest, hparts⟩ := withAuthority_eq_ok hplace
  rw [← Parts.kind, hweb] at hparts
  exact ⟨kept, rest, hkept, hparts⟩

/-! ### Plain forms -/

theorem cleaned_of_graphic {cs : List Char} (h : ∀ c ∈ cs, 0x20 < c.toNat) : cleaned cs = cs := by
  have hcontrol : ∀ c ∈ cs, isControlOrSpace c = false := fun c hc => (counts_of_graphic (h c hc)).1
  have hreverse : ∀ c ∈ cs.reverse, isControlOrSpace c = false :=
    fun c hc => hcontrol c (List.mem_reverse.1 hc)
  have hskipped : ∀ c ∈ cs, (!isSkipped c) = true := fun c hc => (counts_of_graphic (h c hc)).2
  rw [cleaned, Text.dropWhile_of_forall_mem hcontrol, Text.dropWhile_of_forall_mem hreverse,
    List.reverse_reverse, List.filter_eq_self.2 hskipped]

theorem atLastAt_of_not_mem {cs : List Char} (h : '@' ∉ cs) : atLastAt cs = ([], cs) := by
  have hall : ∀ c ∈ cs.reverse, (c != '@') = true := by
    intro c hc
    rw [bne_iff_ne]
    rintro rfl
    exact h (List.mem_reverse.1 hc)
  rw [atLastAt, List.takeWhile_eq_self_iff.2 hall, List.length_reverse, List.reverse_reverse, Nat.sub_self, Nat.zero_sub,
    List.take_zero]

theorem atColon_append {host port : List Char} (hcolon : ':' ∉ host) (hbracket : '[' ∉ host) :
    atColon false (host ++ ':' :: port) = (host, some port) := by
  induction host with
  | nil => rfl
  | cons c host ih =>
      rw [List.mem_cons, not_or] at hcolon hbracket
      have hinside : (if c = '[' then true else if c = ']' then false else false) = false := by
        rw [if_neg (Ne.symm hbracket.1), ite_self]
      rw [List.cons_append, atColon, if_neg fun h => hcolon.1 h.1.symm, hinside]
      simp only [ih hcolon.2 hbracket.2]

theorem Authority.ofText_append {host port : List Char} (hat : '@' ∉ host ++ ':' :: port)
    (hcolon : ':' ∉ host) (hbracket : '[' ∉ host) :
    ofText (host ++ ':' :: port) = ⟨[], host, some port⟩ := by
  rw [ofText, atLastAt_of_not_mem hat]
  simp only [atColon_append hcolon hbracket]

/-- What follows a scheme of the web and two slashes is the authority, if nothing in it ends one. -/
theorem Parts.ofText_append {scheme : String} {place : List Char}
    (hscheme : ∀ rest, scheme? (scheme.toList ++ ':' :: rest) = some (scheme, rest))
    (hweb : Kind.ofScheme scheme = .web)
    (hgraphic : ∀ c ∈ scheme.toList ++ ':' :: '/' :: '/' :: place, 0x20 < c.toNat)
    (hends : ∀ c ∈ place, endsAuthority .web c = false) :
    ofText (scheme.toList ++ ':' :: '/' :: '/' :: place)
      = .ok ⟨scheme, some (Authority.ofText place), []⟩ := by
  have hslash : ∀ c ∈ place, isSlash c = false := by
    intro c hc
    have hend := hends c hc
    rw [isSlash, Bool.or_eq_false_iff, beq_eq_false_iff_ne, beq_eq_false_iff_ne]
    constructor
    all_goals
      rintro rfl
      cases hend
  have hall : ∀ c ∈ place, (!endsAuthority .web c) = true := fun c hc => by rw [hends c hc]; rfl
  have hcut : ('/' :: '/' :: place).dropWhile isSlash = place.dropWhile isSlash := rfl
  rw [ofText, cleaned_of_graphic hgraphic, hscheme]
  simp only [hweb]
  rw [hcut, Text.dropWhile_of_forall_mem hslash, withAuthority, hweb, List.takeWhile_eq_self_iff.2 hall,
    List.dropWhile_eq_nil_iff.2 hall, if_neg fun h => h.2 rfl]

section

variable {text : List Char} (htext : ∀ c ∈ text, isSchemeCharacter c = true)

include htext

/-- A plain host with the digits of a port behind it is visible, ends no authority and names no
user. -/
theorem plain_of_mem_place {port : Nat} {c : Char} (hc : c ∈ text ++ ':' :: Text.decimal port) :
    0x20 < c.toNat ∧ endsAuthority .web c = false ∧ c ≠ '@' := by
  have hplain : ∀ d, isSchemeCharacter d = true →
      0x20 < d.toNat ∧ endsAuthority .web d = false ∧ d ≠ '@' := by
    intro d hd
    obtain ⟨hgraphic, hends, hat, -⟩ := plain_of_isSchemeCharacter hd
    exact ⟨hgraphic, hends, hat⟩
  rw [List.mem_append, List.mem_cons] at hc
  rcases hc with hc | rfl | hc
  · exact hplain c (htext c hc)
  · decide
  · exact hplain c (isSchemeCharacter_of_mem_decimal hc)

/-- A plain host and the digits of a port are cut apart again. -/
theorem Authority.ofText_plain (port : Nat) :
    ofText (text ++ ':' :: Text.decimal port) = ⟨[], text, some (Text.decimal port)⟩ := by
  refine ofText_append (fun hat => (plain_of_mem_place htext hat).2.2 rfl) ?_ ?_
  · exact fun hc => (plain_of_isSchemeCharacter (htext _ hc)).2.2.2.1 rfl
  · exact fun hc => (plain_of_isSchemeCharacter (htext _ hc)).2.2.2.2 rfl

/-- Scheme, host and port in their plain form are cut apart again. -/
theorem Parts.ofText_plain {scheme : String} {port : Nat}
    (hscheme : ∀ rest, scheme? (scheme.toList ++ ':' :: rest) = some (scheme, rest))
    (hweb : Kind.ofScheme scheme = .web)
    (hword : ∀ c ∈ scheme.toList, isSchemeCharacter c = true) :
    ofText (scheme.toList ++ ':' :: '/' :: '/' :: (text ++ ':' :: Text.decimal port))
      = .ok ⟨scheme, some ⟨[], text, some (Text.decimal port)⟩, []⟩ := by
  have hgraphic : ∀ c ∈ scheme.toList ++ ':' :: '/' :: '/' :: (text ++ ':' :: Text.decimal port),
      0x20 < c.toNat := by
    intro c hc
    rw [List.mem_append, List.mem_cons, List.mem_cons, List.mem_cons] at hc
    rcases hc with hc | rfl | rfl | rfl | hc
    · exact (plain_of_isSchemeCharacter (hword c hc)).1
    iterate 3 decide
    · exact (plain_of_mem_place htext hc).1
  rw [ofText_append hscheme hweb hgraphic fun c hc => (plain_of_mem_place htext hc).2.1,
    Authority.ofText_plain htext]

/-- **Scheme, host and port in their plain form are read as they stand.** -/
theorem parse_plain {scheme : String} {port : Nat} {host : Host}
    (hscheme : ∀ rest, scheme? (scheme.toList ++ ':' :: rest) = some (scheme, rest))
    (hweb : Kind.ofScheme scheme = .web)
    (hword : ∀ c ∈ scheme.toList, isSchemeCharacter c = true)
    (hne : text ≠ []) (hhost : Host.ofName text = .ok host) (hport : port ≤ 65535)
    (hdefault : defaultPort? scheme ≠ some port) :
    parse (String.ofList (scheme.toList ++ ':' :: '/' :: '/' :: (text ++ ':' :: Text.decimal port)))
      = .ok ⟨scheme, some host, some port⟩ := by
  have hempty : text.isEmpty = false := List.isEmpty_eq_false_iff.2 hne
  rw [parse, String.toList_ofList, Parts.ofText_plain htext hscheme hweb hword]
  simp only [Except.bind, ofParts, Parts.kind, hweb, webAuthority, hempty, hhost,
    Option.getD_some, portOf_decimal hport hdefault]
  rfl

end

end HostRouting.Url
