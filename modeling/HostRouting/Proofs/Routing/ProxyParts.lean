/-
**Proxies made from their parts.**

A proxy can be made from a scheme, a host and a port without a text to read.  Then only the
characters of the host are looked at, and that there is a port.  Reading the text of such a proxy
asks for more: the port must not be the one that the scheme implies, and the host is turned into its
ASCII form and, if it ends in a number, into the dotted form of an address.  So some proxies that can
be made are not what their text is read as, and others have a text that names no proxy at all.

Main results:

* `Domain.toAscii?_eq_self_iff` — which names in ASCII are their own ASCII form;
* `Url.Host.exists_ofAscii_iff` — which names are the text of the host that they stand for;
* `Proxy.parse_text_iff_of_make` — **when the text of a proxy made from its parts is read as that
  proxy**, and what else it may be read as;
* `Proxy.not_parse_text_of_make` — parts that are admitted, but not kept by reading.
-/

import HostRouting.Proofs.Routing.ProxyText

set_option autoImplicit false

namespace HostRouting

/-! ### Names that are kept -/

/-- A name in ASCII is its own ASCII form if it is in lower case and either no label of it is marked
as encoded or all its labels pass the checks. -/
theorem Domain.toAscii?_eq_self_iff {name : List Char} (hascii : Label.isAscii name = true)
    (hplain : name.any isForbidden = false) :
    toAscii? name = some name ↔
      lowerCase name = name ∧ (isPlain name = true ∨ (labelwiseAscii? name).isSome = true) := by
  rw [toAscii?_of_isAscii hascii, hplain]
  constructor
  · intro h
    split at h
    · next hshort => exact ⟨by simpa using h, .inl hshort⟩
    · -- labels in ASCII are written as they are
      have hlower : name = lowerCase name := eq_of_labelwiseAscii? hascii h
      rw [← hlower] at h
      exact ⟨hlower.symm, .inr (Option.isSome_iff_exists.2 ⟨name, h⟩)⟩
  · rintro ⟨hlower, hlabels⟩
    rw [hlower]
    split
    · rfl
    · next hshort =>
        obtain ⟨image, himage⟩ := Option.isSome_iff_exists.1 (hlabels.resolve_left hshort)
        have hlower' : image = lowerCase name :=
          eq_of_labelwiseAscii? hascii (by rw [hlower, himage])
        rw [himage, hlower', hlower]

namespace Url.Host

/-- A text without brackets and percent signs is read by way of its ASCII form. -/
theorem ofName_eq_ok_iff {cs : List Char} {host : Host} (hbracket : '[' ∉ cs)
    (hpercent : '%' ∉ cs) :
    ofName cs = .ok host ↔ ∃ image, Domain.toAscii? cs = some image ∧ ofAscii image = .ok host := by
  have hhead : cs.head? ≠ some '[' := fun hhead => hbracket (List.mem_of_mem_head? hhead)
  rw [ofName, bracketed?_of_head? hhead, asciiName?_eq, spelled?_of_not_mem hpercent,
    Option.bind_some]
  cases Domain.toAscii? cs <;> simp

/-- A name is the text of the host that it stands for, unless it is an address in another form than
the dotted one or ends in a number without being an address. -/
theorem exists_ofAscii_iff {name : List Char} (hne : name ≠ []) :
    (∃ host, ofAscii name = .ok host ∧ host.text.toList = name) ↔
      (endsInNumber name = true → ∃ a : Ipv4, name = a.text.toList) := by
  constructor
  · rintro ⟨host, hread, htext⟩ hends
    rcases (ofAscii_eq_ok hread).2 with rfl | ⟨a, -, rfl⟩
    · -- a name that ends in a number stands for no domain
      rw [ofAscii, if_neg (by simpa using hne), if_pos hends] at hread
      split at hread <;> simp at hread
    · exact ⟨a, htext.symm⟩
  · intro hdotted
    by_cases hends : endsInNumber name = true
    · obtain ⟨a, rfl⟩ := hdotted hends
      exact ⟨.ipv4 a, a.ofAscii_text, rfl⟩
    · refine ⟨.domain (String.ofList name), ?_, String.toList_ofList⟩
      rw [ofAscii, if_neg (by simpa using hne), if_neg hends]

end Url.Host

namespace Proxy

/-! ### The parts -/

theorem make?_eq_some {scheme : Scheme} {host : String} {port : Nat} {p : Proxy}
    (h : make? scheme host port = some p) :
    p.scheme = scheme ∧ p.host = host ∧ p.port = port := by
  rw [make?, Option.dite_none_right_eq_some] at h
  obtain ⟨_, h⟩ := h
  rw [← Option.some.inj h]
  exact ⟨rfl, rfl, rfl⟩

section

variable (p : Proxy)

theorem isAscii_host : Domain.Label.isAscii p.host.toList = true :=
  Domain.isAscii_iff.2 fun c hc => Url.ascii_of_isSchemeCharacter (p.isSchemeCharacter_host c hc)

theorem isForbidden_host : p.host.toList.any Domain.isForbidden = false := by
  rw [List.any_eq_false]
  intro c hc
  have hplain := p.isSchemeCharacter_host c hc
  have hnot := Domain.forall_ascii
    (P := fun c => Url.isSchemeCharacter c = true → Domain.isForbidden c = false) (by decide)
    (Url.ascii_of_isSchemeCharacter hplain) hplain
  simp [hnot]

theorem defaultPort?_ne_iff :
    Url.defaultPort? p.scheme.text ≠ some p.port ↔
      (p.scheme = .http → p.port ≠ 80) ∧ (p.scheme = .https → p.port ≠ 443) := by
  have hhttp : Url.defaultPort? Scheme.http.text = some 80 := by decide
  have hhttps : Url.defaultPort? Scheme.https.text = some 443 := by decide
  cases p.scheme with
  | http => simp [hhttp, eq_comm]
  | https => simp [hhttps, eq_comm]

/-- What the host of a proxy is read as. -/
theorem ofName_host_eq_ok_iff {host : Url.Host} :
    Url.Host.ofName p.host.toList = .ok host ↔
      ∃ image, Domain.toAscii? p.host.toList = some image ∧ Url.Host.ofAscii image = .ok host :=
  Url.Host.ofName_eq_ok_iff (not_mem_of_isHost p.isHost_host (by decide))
    (not_mem_of_isHost p.isHost_host (by decide))

/-- The host of a proxy is read as a host with the same text only by way of itself. -/
theorem exists_ofName_host_iff :
    (∃ host, Url.Host.ofName p.host.toList = .ok host ∧ p.host = host.text) ↔
      Domain.toAscii? p.host.toList = some p.host.toList ∧
        (Url.endsInNumber p.host.toList = true → ∃ a : Url.Ipv4, p.host = a.text) := by
  have hdotted := Url.Host.exists_ofAscii_iff p.host_ne_nil
  simp only [String.toList_inj] at hdotted
  rw [← hdotted]
  simp only [ofName_host_eq_ok_iff]
  constructor
  · rintro ⟨host, ⟨image, himage, hread⟩, htext⟩
    -- the ASCII form is the text of the host, whichever kind of host it stands for
    have hself : image = p.host.toList := by
      rcases (Url.Host.ofAscii_eq_ok hread).2 with rfl | ⟨a, -, rfl⟩
      · rw [htext]
        exact String.toList_ofList.symm
      · have hdot : Domain.toAscii? p.host.toList = some p.host.toList := by
          rw [htext]
          exact a.toAscii?_text
        exact Option.some.inj (himage.symm.trans hdot)
    subst hself
    exact ⟨himage, host, hread, htext.symm⟩
  · rintro ⟨himage, host, hread, htext⟩
    exact ⟨host, ⟨_, himage, hread⟩, htext.symm⟩

end

/-! ### Parts that are kept -/

/-- **When the text of a proxy made from its parts is read as that proxy.**  The port is not the one
that the scheme implies; the host is in lower case, its labels pass the checks if one of them is
marked as encoded, and it is the dotted text of an address if it ends in a number.  A text that is
read as some other proxy differs in its host only, which was not in lower case or not dotted. -/
theorem parse_text_iff_of_make {scheme : Scheme} {host : String} {port : Nat} {p : Proxy}
    (h : make? scheme host port = some p) :
    (parse p.text = .ok p ↔
      (scheme = .http → port ≠ 80) ∧ (scheme = .https → port ≠ 443) ∧
        Domain.lowerCase host.toList = host.toList ∧
        (Domain.isPlain host.toList = true ∨ (Domain.labelwiseAscii? host.toList).isSome = true) ∧
        (Url.endsInNumber host.toList = true → ∃ a : Url.Ipv4, host = a.text)) ∧
      ∀ q, parse p.text = .ok q → q.scheme = scheme ∧ q.port = port ∧
        (q.host.toList = Domain.lowerCase host.toList ∨
          ∃ a : Url.Ipv4, Url.Ipv4.ofName? (Domain.lowerCase host.toList) = some a ∧
            q.host = a.text) := by
  obtain ⟨rfl, rfl, rfl⟩ := make?_eq_some h
  refine ⟨?kept, ?other⟩
  case kept =>
    rw [parse_text_eq_ok_iff, defaultPort?_ne_iff, exists_ofName_host_iff,
      Domain.toAscii?_eq_self_iff p.isAscii_host p.isForbidden_host]
    simp only [true_and, and_assoc]
  case other =>
    intro q hq
    obtain ⟨hscheme, hport, -, read, hread, htext⟩ := parse_text_eq_ok_iff.1 hq
    obtain ⟨image, himage, hread⟩ := p.ofName_host_eq_ok_iff.1 hread
    obtain rfl := Domain.eq_of_toAscii? p.isAscii_host himage
    refine ⟨hscheme, hport, ?_⟩
    rcases (Url.Host.ofAscii_eq_ok hread).2 with rfl | ⟨a, ha, rfl⟩
    · left
      rw [htext]
      exact String.toList_ofList
    · exact .inr ⟨a, ha, htext⟩

/-- An encoded label behind a port that another scheme implies. -/
theorem parse_text_iff_of_make_encoded :
    ∃ p, make? .https "xn--tda.de" 80 = some p ∧
      (Scheme.https = .http → 80 ≠ 80) ∧ (Scheme.https = .https → 80 ≠ 443) ∧
      Domain.lowerCase "xn--tda.de".toList = "xn--tda.de".toList ∧
      (Domain.labelwiseAscii? "xn--tda.de".toList).isSome = true ∧
      Url.endsInNumber "xn--tda.de".toList = false ∧ parse p.text = .ok p := by
  have hmake : make? .https "xn--tda.de" 80
      = some ⟨.https, "xn--tda.de", 80, by decide, by decide, by decide⟩ := by decide
  have hlower : Domain.lowerCase "xn--tda.de".toList = "xn--tda.de".toList := by decide
  have hlabels : (Domain.labelwiseAscii? "xn--tda.de".toList).isSome = true := by decide +kernel
  have hends : Url.endsInNumber "xn--tda.de".toList = false := by decide
  have hkept := (parse_text_iff_of_make hmake).1.2
    ⟨by decide, by decide, hlower, .inr hlabels, fun h => by rw [hends] at h; cases h⟩
  exact ⟨_, hmake, by decide, by decide, hlower, hlabels, hends, hkept⟩

/-- The port that the scheme implies, capitals, an address that is not dotted, a number too large for
an address and a label that encodes nothing: all are admitted, and none is read back. -/
theorem not_parse_text_of_make :
    ((make? .http "localhost" 80).map fun p => parse p.text)
        = some (.error (.port "http://localhost:80")) ∧
      ((make? .https "localhost" 443).map fun p => parse p.text)
        = some (.error (.port "https://localhost:443")) ∧
      ((make? .http "LOCALHOST" 8080).bind fun p => (parse p.text).toOption.map Proxy.host)
        = some "localhost" ∧
      ((make? .http "0x7f.1" 8080).bind fun p => (parse p.text).toOption.map Proxy.host)
        = some "127.0.0.1" ∧
      ((make? .http "1.2.3.256" 8080).map fun p => parse p.text)
        = some (.error (.unparsable "http://1.2.3.256:8080" .ipv4)) ∧
      ((make? .http "xn--a" 8080).map fun p => parse p.text)
        = some (.error (.unparsable "http://xn--a:8080" .domainName)) := by
  decide +kernel

end Proxy

end HostRouting
