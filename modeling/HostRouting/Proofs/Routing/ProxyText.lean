/-
**The text of a proxy read back.**

However a proxy was written, its own text is scheme, host and port in their plain form, and these are
read as they stand.  The host is its own ASCII form: for a name in ASCII lower case is all that
happens to it and happens once, and a dotted address stands for itself.  Only for a name outside
ASCII this is a matter of the encoding of domain names, and is asked for there.

Main results:

* `Proxy.parse_text_eq_ok_iff` — what the text of a proxy is read as;
* `Proxy.parse_text_of_host` — it is read as that proxy, if the host is read as a host with that
  text;
* `Proxy.parse_text` — **an accepted proxy is well formed, and its text is read as that proxy**.
-/

import HostRouting.Proofs.Routing.ProxyHost

set_option autoImplicit false

namespace HostRouting

/-! ### Schemes -/

namespace Scheme

variable (scheme : Scheme)

theorem scheme?_text (rest : List Char) :
    Url.scheme? (scheme.text.toList ++ ':' :: rest) = some (scheme.text, rest) := by
  cases scheme <;> rfl

theorem isSchemeCharacter_text : ∀ c ∈ scheme.text.toList, Url.isSchemeCharacter c = true := by
  rw [← List.all_eq_true]
  cases scheme <;> rfl

theorem ofText?_text : ofText? scheme.text = some scheme := by
  cases scheme <;> rfl

theorem text_injective {s t : Scheme} (h : s.text = t.text) : s = t := by
  have hread := t.ofText?_text
  rwa [← h, ofText?_text, Option.some.injEq] at hread

end Scheme

namespace Proxy

/-! ### The text of a proxy -/

section

variable (p : Proxy)

theorem host_ne_nil : p.host.toList ≠ [] := by
  have hhost := p.isHost_host
  rw [isHost, Bool.and_eq_true, Bool.not_eq_true'] at hhost
  exact List.isEmpty_eq_false_iff.1 hhost.1

theorem toList_text : p.text.toList
    = p.scheme.text.toList ++ ':' :: '/' :: '/' :: (p.host.toList ++ ':' :: Text.decimal p.port) := by
  simp [text, hostPort, String.toList_append]

/-- The text of a proxy is visible and in ASCII throughout. -/
theorem ascii_text : ∀ c ∈ p.text.toList, 0x20 < c.toNat ∧ c.toNat < 0x80 := by
  have hword : ∀ c, Url.isSchemeCharacter c = true → 0x20 < c.toNat ∧ c.toNat < 0x80 := fun c hc =>
    ⟨(Url.plain_of_isSchemeCharacter hc).1, Url.ascii_of_isSchemeCharacter hc⟩
  rw [toList_text]
  intro c hc
  simp only [List.mem_append, List.mem_cons] at hc
  rcases hc with hc | rfl | rfl | rfl | hc | rfl | hc
  · exact hword c (p.scheme.isSchemeCharacter_text c hc)
  iterate 3 decide
  · exact hword c (p.isSchemeCharacter_host c hc)
  · decide
  · exact hword c (Url.isSchemeCharacter_of_mem_decimal hc)

/-- No blank is in the text of a proxy, so nothing is trimmed. -/
theorem trimmed_text : Text.trimmed p.text.toList = p.text.toList := by
  refine Text.trimmed_of_forall_mem fun c hc => ?_
  obtain ⟨hlow, hhigh⟩ := p.ascii_text c hc
  exact Domain.forall_ascii (P := fun c => 0x20 < c.toNat → Text.isBlank c = false) (by decide)
    hhigh hlow

/-- The check on what is typed lets the text pass. -/
theorem ascii_rawAuthority_text : ∀ c ∈ rawAuthority p.text.toList, c.toNat < 0x80 := by
  have hcolon : ':' ∉ p.scheme.text.toList := fun hc =>
    (Url.plain_of_isSchemeCharacter (p.scheme.isSchemeCharacter_text _ hc)).2.2.2.1 rfl
  intro c hc
  refine (p.ascii_text c ?_).2
  rw [toList_text, rawAuthority, afterSlashes_append hcolon] at hc
  rw [toList_text]
  have hplace := (List.takeWhile_sublist _).subset hc
  simp only [List.mem_append, List.mem_cons] at hplace ⊢
  exact .inr (.inr (.inr (.inr hplace)))

end

/-- **What the text of a proxy is read as**: a proxy with the same scheme and the same port, which is
not the one that the scheme implies, whose host is what the host of the first is read as. -/
theorem parse_text_eq_ok_iff {p q : Proxy} :
    parse p.text = .ok q ↔
      q.scheme = p.scheme ∧ q.port = p.port ∧ Url.defaultPort? p.scheme.text ≠ some p.port ∧
        ∃ host, Url.Host.ofName p.host.toList = .ok host ∧ q.host = host.text := by
  constructor
  · intro h
    obtain ⟨-, a, rest, host, hparts, hhost, htext, hport⟩ := exists_of_parse h
    rw [trimmed_text, toList_text, Url.Parts.ofText_plain p.isSchemeCharacter_host
      p.scheme.scheme?_text p.scheme.kind_text p.scheme.isSchemeCharacter_text] at hparts
    obtain ⟨hscheme, ha, -⟩ := Url.Parts.mk.inj (Except.ok.inj hparts)
    obtain rfl := Option.some.inj ha
    rw [← hscheme, Option.getD_some, Url.portOf_decimal_eq p.port_le, Except.ok.injEq,
      Option.ite_none_left_eq_some, Option.some.injEq] at hport
    exact ⟨(Scheme.text_injective hscheme).symm, hport.2.symm, hport.1, host, hhost, htext⟩
  · rintro ⟨hscheme, hport, hdefault, host, hhost, htext⟩
    have hurl := Url.parse_plain p.isSchemeCharacter_host p.scheme.scheme?_text p.scheme.kind_text
      p.scheme.isSchemeCharacter_text p.host_ne_nil hhost p.port_le hdefault
    rw [← toList_text, String.ofList_toList] at hurl
    have htrim : Text.trim p.text = p.text := by
      rw [Text.trim, trimmed_text, String.ofList_toList]
    have hraw : (rawAuthority p.text.toList).all (·.toNat < 0x80) = true :=
      List.all_eq_true.2 fun c hc => decide_eq_true (p.ascii_rawAuthority_text c hc)
    obtain ⟨scheme, name, port, hisHost, hone, hle⟩ := q
    obtain rfl : scheme = p.scheme := hscheme
    obtain rfl : port = p.port := hport
    obtain rfl : name = host.text := htext
    rw [parse, ofTrimmed, htrim, if_pos hraw, hurl]
    simp only [ofUrl, Scheme.ofText?_text, hisHost, hone, hle, and_self, ↓reduceDIte]

/-- The text of a proxy is read as that proxy, if its host is read as a host with the same text and
its port is kept. -/
theorem parse_text_of_host {p : Proxy} {host : Url.Host}
    (hhost : Url.Host.ofName p.host.toList = .ok host) (htext : host.text = p.host)
    (hdefault : Url.defaultPort? p.scheme.text ≠ some p.port) : parse p.text = .ok p :=
  parse_text_eq_ok_iff.2 ⟨rfl, rfl, hdefault, host, hhost, htext.symm⟩

/-! ### Accepted proxies -/

/-- The port of an accepted proxy is not the one that its scheme implies. -/
theorem defaultPort?_ne_of_parse {s : String} {p : Proxy} (h : parse s = .ok p) :
    Url.defaultPort? p.scheme.text ≠ some p.port := by
  obtain ⟨-, a, rest, host, -, -, -, hport⟩ := exists_of_parse h
  exact (Url.portOf_eq_ok hport).2

/-- **An accepted proxy is well formed, and its text is read as that proxy.**  What is assumed of
domain names is that the ASCII form of the name that was typed has itself as its ASCII form, and this
only if the name is not in ASCII. -/
theorem parse_text {s : String} {p : Proxy} (h : parse s = .ok p)
    (hstable : ∀ name image, hostName? s = some name → Domain.Label.isAscii name = false →
      Domain.toAscii? name = some image → Domain.toAscii? image = some image) :
    p.host ≠ "" ∧ (∀ c ∈ p.host.toList, c.isAlphanum = true ∨ c = '.' ∨ c = '-') ∧
      1 ≤ p.port ∧ p.port ≤ 65535 ∧ (p.scheme = .http → p.port ≠ 80) ∧
      (p.scheme = .https → p.port ≠ 443) ∧ parse p.text = .ok p := by
  obtain ⟨name, image, host, hname, himage, hread, htext⟩ := exists_image_of_parse h
  have hdefault := defaultPort?_ne_of_parse h
  -- for a name in ASCII nothing has to be assumed
  have hfixed : Domain.toAscii? image = some image := by
    cases hascii : Domain.Label.isAscii name with
    | true => exact Domain.toAscii?_of_toAscii? hascii himage
    | false => exact hstable name image hname hascii himage
  have hhost : Url.Host.ofName p.host.toList = .ok host := by
    have hbracket := not_mem_of_isHost (c := '[') p.isHost_host (by decide)
    have hpercent := not_mem_of_isHost (c := '%') p.isHost_host (by decide)
    rw [htext] at hbracket hpercent ⊢
    exact Url.Host.ofName_text hread hfixed hbracket hpercent
  have hisHost := p.isHost_host
  rw [isHost, Bool.and_eq_true, Bool.not_eq_true', List.all_eq_true] at hisHost
  refine ⟨?_, ?_, p.one_le_port, p.port_le, ?_, ?_, parse_text_of_host hhost htext.symm hdefault⟩
  · intro hempty
    rw [hempty] at hisHost
    cases hisHost.1
  · intro c hc
    have hadmits := hisHost.2 c hc
    rwa [admits, Bool.or_eq_true, Bool.or_eq_true, beq_iff_eq, beq_iff_eq, or_assoc] at hadmits
  · intro hscheme hport
    rw [hscheme, hport] at hdefault
    exact hdefault rfl
  · intro hscheme hport
    rw [hscheme, hport] at hdefault
    exact hdefault rfl

/-- A name outside ASCII behind backslashes: its ASCII form has itself as its ASCII form. -/
theorem parse_text_rewritten_host :
    ∃ p, parse " HTTPS:\\\\u@ü.de:8443/a?b " = .ok p ∧
      (∀ name image, hostName? " HTTPS:\\\\u@ü.de:8443/a?b " = some name →
        Domain.Label.isAscii name = false → Domain.toAscii? name = some image →
        Domain.toAscii? image = some image) ∧
      p.host ≠ "" ∧ (∀ c ∈ p.host.toList, c.isAlphanum = true ∨ c = '.' ∨ c = '-') ∧
      1 ≤ p.port ∧ p.port ≤ 65535 ∧ (p.scheme = .http → p.port ≠ 80) ∧
      (p.scheme = .https → p.port ≠ 443) ∧ parse p.text = .ok p := by
  have hparse : parse " HTTPS:\\\\u@ü.de:8443/a?b "
      = .ok ⟨.https, "xn--tda.de", 8443, by decide, by decide, by decide⟩ := by decide +kernel
  have hname : hostName? " HTTPS:\\\\u@ü.de:8443/a?b " = some "ü.de".toList := by decide +kernel
  have himage : Domain.toAscii? "ü.de".toList = some "xn--tda.de".toList := by decide +kernel
  have hstable : ∀ name image, hostName? " HTTPS:\\\\u@ü.de:8443/a?b " = some name →
      Domain.Label.isAscii name = false → Domain.toAscii? name = some image →
      Domain.toAscii? image = some image := by
    intro name image hread _ hread'
    obtain rfl : "ü.de".toList = name := Option.some.inj (hname.symm.trans hread)
    obtain rfl : "xn--tda.de".toList = image := Option.some.inj (himage.symm.trans hread')
    decide +kernel
  exact ⟨_, hparse, hstable, parse_text hparse hstable⟩

end Proxy

end HostRouting
