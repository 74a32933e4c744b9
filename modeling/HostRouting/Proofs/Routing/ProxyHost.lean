/-
**The host of an accepted proxy.**

The text that names a proxy is cut by the rules for URLs, and the host text it is cut to spells a
name.  If that name is in ASCII, the host of the proxy is the name in lower case, or the dotted form
of the address it stands for; if not, the host is its ASCII form.

The check before the URL is read looks only at what follows the first `://` of the text.  Where a
scheme is followed by its colon, by two slashes and by none more, that is where the authority is, so
every character of the host text is in ASCII.  Other slashes take the authority out of the check's
sight, and percent signs hide octets from it: then a name outside ASCII is accepted, in its ASCII
form.

Main definitions:

* `Proxy.hostText`, `Proxy.hostName?` — the host as it stands in a text, and the name it spells;
* `Proxy.hasPlainSlashes` — whether the scheme is followed by exactly two slashes.

Main results:

* `Proxy.exists_of_parse` — what an accepted proxy is read from;
* `Proxy.ascii_hostText` — after plain slashes the host text is in ASCII;
* `Proxy.host_of_parse` — **where the host of a proxy comes from, and when it is the name that was
  typed**.
-/

import HostRouting.Proofs.Url.Host
import HostRouting.Proofs.Url.Parts
import HostRouting.Routing.Proxy

set_option autoImplicit false

namespace HostRouting

/-! ### Schemes -/

/-- A scheme that is read from a text and names a scheme of a proxy is the word for it. -/
theorem Scheme.eq_text_of_ofText? {cs rest : List Char} {name : String} {scheme : Scheme}
    (hname : Url.scheme? cs = some (name, rest)) (h : ofText? name = some scheme) :
    name = scheme.text := by
  obtain ⟨word, hword, -, rfl⟩ := Url.scheme?_eq_some hname
  have hlower : (Domain.lowerCase word).map Text.lower = Domain.lowerCase word := by
    rw [Domain.lowerCase, List.map_map]
    refine List.map_congr_left fun c hc => ?_
    exact Domain.forall_ascii (P := fun c => Text.lower c.toLower = c.toLower) (by decide)
      (Url.ascii_of_isSchemeCharacter (hword c hc))
  rw [ofText?, String.toList_ofList, Text.isWord, Text.isWord, hlower] at h
  split at h
  · next hhttp =>
      obtain rfl : Scheme.http = scheme := Option.some.inj h
      rw [eq_of_beq hhttp, String.ofList_toList]
      rfl
  · split at h
    · next hhttps =>
        obtain rfl : Scheme.https = scheme := Option.some.inj h
        rw [eq_of_beq hhttps, String.ofList_toList]
        rfl
    · cases h

theorem Scheme.kind_text (scheme : Scheme) : Url.Kind.ofScheme scheme.text = .web := by
  cases scheme <;> decide

namespace Proxy

/-! ### What a proxy is read from -/

theorem ofUrl_eq_ok {text : String} {url : Url} {p : Proxy} (h : ofUrl text url = .ok p) :
    Scheme.ofText? url.scheme = some p.scheme ∧ (∃ host, url.host = some host ∧ p.host = host.text) ∧
      url.port = some p.port := by
  rw [ofUrl] at h
  split at h
  · cases h
  · next scheme hscheme =>
      split at h
      · cases h
      · next host hhost =>
          split at h
          · split at h
            · cases h
            · next port hport =>
                split at h
                · rw [← Except.ok.inj h]
                  exact ⟨hscheme, ⟨host, hhost, rfl⟩, hport⟩
                · cases h
          · cases h

/-- What an accepted proxy is read from: the check on the typed authority passes, and scheme, host
and port come from the parts that the text is cut to. -/
theorem exists_of_parse {s : String} {p : Proxy} (h : parse s = .ok p) :
    (∀ c ∈ rawAuthority (Text.trimmed s.toList), c.toNat < 0x80) ∧
      ∃ a rest host, Url.Parts.ofText (Text.trimmed s.toList) = .ok ⟨p.scheme.text, some a, rest⟩ ∧
        Url.Host.ofName a.host = .ok host ∧ p.host = host.text ∧
        Url.portOf p.scheme.text (a.port.getD []) = .ok (some p.port) := by
  rw [parse, ofTrimmed, Text.toList_trim] at h
  split at h
  · next hraw =>
      refine ⟨by simpa using hraw, ?_⟩
      split at h
      · cases h
      · next url hurl =>
          obtain ⟨hscheme, ⟨host, hhost, htext⟩, hport⟩ := ofUrl_eq_ok h
          -- that the scheme is one of the web has to be known before the authority is looked for
          obtain ⟨rest, hword⟩ := Url.scheme?_of_parse hurl
          have hname : url.scheme = p.scheme.text := Scheme.eq_text_of_ofText? hword hscheme
          obtain ⟨a, rest, host', hparts, hread, hread', hhost'⟩ :=
            Url.parse_eq_ok hurl (by rw [hname, Scheme.kind_text])
          rw [hname, Text.toList_trim] at hparts
          rw [hname, hport] at hread'
          obtain rfl : host = host' := Option.some.inj (hhost.symm.trans hhost')
          exact ⟨a, rest, host, hparts, hread, htext, hread'⟩
  · cases h

/-! ### The host as typed -/

/-- The host text that a text is cut to, empty if it cannot be cut. -/
def hostText (s : String) : List Char :=
  match Url.Parts.ofText (Text.trimmed s.toList) with
  | .ok parts => parts.hostText
  | .error _ => []

/-- The name that the host text spells once its percent signs are decoded. -/
def hostName? (s : String) : Option (List Char) := Url.spelled? (hostText s)

/-- Whether the colon after the scheme is followed by exactly two slashes.  Tabs and line ends that do
not count are passed over after these. -/
def hasPlainSlashes (s : String) : Bool :=
  match (Text.trimmed s.toList).dropWhile (· != ':') with
  | ':' :: '/' :: '/' :: after => !(after.find? (!Url.isSkipped ·)).any Url.isSlash
  | _ => false

/-- The characters of a host are among those of a scheme. -/
theorem isSchemeCharacter_of_admits {c : Char} (h : admits c = true) :
    Url.isSchemeCharacter c = true := by
  rw [admits, Bool.or_eq_true, Bool.or_eq_true] at h
  rw [Url.isSchemeCharacter, Bool.or_eq_true, Bool.or_eq_true, Bool.or_eq_true]
  rcases h with (hletter | hdot) | hhyphen
  · exact .inl (.inl (.inl hletter))
  · exact .inr hdot
  · exact .inl (.inr hhyphen)

theorem isSchemeCharacter_host (p : Proxy) :
    ∀ c ∈ p.host.toList, Url.isSchemeCharacter c = true := by
  have hhost := p.isHost_host
  rw [isHost, Bool.and_eq_true, List.all_eq_true] at hhost
  exact fun c hc => isSchemeCharacter_of_admits (hhost.2 c hc)

theorem not_mem_of_isHost {host : String} {c : Char} (h : isHost host = true)
    (hc : admits c = false) : c ∉ host.toList := by
  intro hmem
  rw [isHost, Bool.and_eq_true, List.all_eq_true] at h
  rw [h.2 c hmem] at hc
  cases hc

/-- The name that is spelled has an ASCII form, and the host of the proxy is what that stands for. -/
theorem exists_image_of_parse {s : String} {p : Proxy} (h : parse s = .ok p) :
    ∃ name image host, hostName? s = some name ∧ Domain.toAscii? name = some image ∧
      Url.Host.ofAscii image = .ok host ∧ p.host = host.text := by
  obtain ⟨-, a, rest, host, hparts, hhost, htext, -⟩ := exists_of_parse h
  have hname : hostText s = a.host := by
    rw [hostText, hparts]
    rfl
  rw [hostName?, hname]
  rcases Url.Host.ofName_eq_ok hhost with ⟨address, rfl⟩ | ⟨name, image, hspelled, himage, hread⟩
  · -- an address in brackets is not the host of a proxy
    have hbracket : '[' ∈ (Url.Host.ipv6 address).text.toList := by
      simp [Url.Host.text]
    rw [← htext] at hbracket
    exact absurd hbracket (not_mem_of_isHost p.isHost_host (by decide))
  · exact ⟨name, image, host, hspelled, himage, hread, htext⟩

/-! ### Plain slashes -/

/-- What follows the first `://` begins after the first colon, if two slashes follow that. -/
theorem afterSlashes_append {front back : List Char} (h : ':' ∉ front) :
    afterSlashes (front ++ ':' :: '/' :: '/' :: back) = back := by
  have hgo : afterSlashes.go (front ++ ':' :: '/' :: '/' :: back) = some back := by
    induction front with
    | nil => rfl
    | cons c front ih =>
        rw [List.mem_cons, not_or] at h
        rw [List.cons_append, afterSlashes.go.eq_def]
        split
        · next heq => cases heq
        · next heq => exact absurd (List.head_eq_of_cons_eq heq).symm h.1
        · next heq =>
            obtain ⟨-, rfl⟩ := List.cons.inj heq
            exact ih h.2
  rw [afterSlashes, hgo]
  rfl

/-- The check on what was typed ends where authorities of the web end. -/
theorem rawAuthority_eq (cs : List Char) :
    rawAuthority cs = (afterSlashes cs).takeWhile (!Url.endsAuthority .web ·) := by
  rw [rawAuthority]
  congr 1
  funext c
  have hweb : (Url.Kind.web != Url.Kind.other) = true := by decide
  rw [Url.endsAuthority, hweb, Bool.true_and, Bool.or_right_comm (c == '/'),
    Bool.or_right_comm (c == '/' || c == '?'), Bool.or_right_comm (c == '/')]

/-- What plain slashes say of a text. -/
theorem exists_of_hasPlainSlashes {s : String} (h : hasPlainSlashes s = true) :
    ∃ front back, ':' ∉ front ∧ Text.trimmed s.toList = front ++ ':' :: '/' :: '/' :: back ∧
      ∀ c, back.find? (!Url.isSkipped ·) = some c → Url.isSlash c = false := by
  rw [hasPlainSlashes] at h
  split at h
  · next back hback =>
      refine ⟨(Text.trimmed s.toList).takeWhile (· != ':'), back, ?_, ?_, ?_⟩
      · intro hc
        have hne := List.mem_takeWhile_imp hc
        exact absurd hne (by decide)
      · rw [← hback, List.takeWhile_append_dropWhile]
      · intro c hc
        rw [hc] at h
        simpa using h
  · cases h

/-- After plain slashes every character of the host text is in ASCII. -/
theorem ascii_hostText {s : String} {p : Proxy} (h : parse s = .ok p)
    (hplain : hasPlainSlashes s = true) : Domain.Label.isAscii (hostText s) = true := by
  obtain ⟨hraw, a, rest, host, hparts, -⟩ := exists_of_parse h
  obtain ⟨front, back, hcolon, htext, hhead⟩ := exists_of_hasPlainSlashes hplain
  rw [htext] at hparts hraw
  obtain ⟨kept, rest', hkept, hplace⟩ :=
    Url.Parts.ofText_of_slashes hparts p.scheme.kind_text hcolon hhead
  have hhost : hostText s = (Url.Authority.ofText
      ((kept.filter (!Url.isSkipped ·)).takeWhile (!Url.endsAuthority .web ·))).host := by
    rw [hostText, htext, hparts, hplace]
    rfl
  have hskipped : ∀ c, (!Url.isSkipped c) = false → (!Url.endsAuthority .web c) = true := by
    intro c hc
    rw [Bool.not_eq_false', Url.isSkipped, Bool.or_eq_true, Bool.or_eq_true, beq_iff_eq,
      beq_iff_eq, beq_iff_eq] at hc
    rcases hc with (rfl | rfl) | rfl
    all_goals decide
  rw [Domain.isAscii_iff, hhost]
  intro c hc
  refine hraw c ?_
  rw [rawAuthority_eq, afterSlashes_append hcolon]
  exact Url.mem_takeWhile_of_filter hskipped hkept (Url.Authority.mem_of_mem_host hc)

/-! ### Where the host comes from -/

/-- **Where the host of a proxy comes from.**  It is the ASCII form of the name that the host text
spells, or the dotted form of the address which that stands for, and the ASCII form is the name in
lower case exactly if the name is in ASCII.  It is so after plain slashes and without percent signs. -/
theorem host_of_parse {s : String} {p : Proxy} (h : parse s = .ok p) :
    ∃ name image, hostName? s = some name ∧ Domain.toAscii? name = some image ∧
      (p.host = String.ofList image ∨ ∃ a, Url.Ipv4.ofName? image = some a ∧ p.host = a.text) ∧
      (image = Domain.lowerCase name ↔ Domain.Label.isAscii name = true) ∧
      (hasPlainSlashes s = true → Domain.Label.isAscii (hostText s) = true) ∧
      ('%' ∉ hostText s → name = hostText s) := by
  obtain ⟨name, image, host, hname, himage, hread, htext⟩ := exists_image_of_parse h
  have hhost : p.host = String.ofList image ∨
      ∃ a, Url.Ipv4.ofName? image = some a ∧ p.host = a.text := by
    rcases (Url.Host.ofAscii_eq_ok hread).2 with rfl | ⟨a, ha, rfl⟩
    · exact .inl htext
    · exact .inr ⟨a, ha, htext⟩
  -- the host of a proxy is in ASCII, and so is every name of an address
  have hascii : Domain.Label.isAscii image = true := by
    rcases hhost with hdomain | ⟨a, ha, -⟩
    · rw [Domain.isAscii_iff]
      intro c hc
      refine Url.ascii_of_isSchemeCharacter (p.isSchemeCharacter_host c ?_)
      rwa [hdomain, String.toList_ofList]
    · exact Url.Ipv4.isAscii_of_ofName? ha
  refine ⟨name, image, hname, himage, hhost, ⟨?_, ?_⟩, ascii_hostText h, ?_⟩
  · intro heq
    rw [← Domain.isAscii_lowerCase, ← heq, hascii]
  · intro hascii
    exact Domain.eq_of_toAscii? hascii himage
  · intro hpercent
    rw [hostName?, Url.spelled?_of_not_mem hpercent] at hname
    exact (Option.some.inj hname).symm

/-- An address in a short form, with user information in front and a path behind. -/
theorem host_of_parse_address :
    ∃ p, parse " HTTP://u@0x7F.1:08080/a " = .ok p ∧
      ∃ name image, hostName? " HTTP://u@0x7F.1:08080/a " = some name ∧
        Domain.toAscii? name = some image ∧
        (p.host = String.ofList image ∨ ∃ a, Url.Ipv4.ofName? image = some a ∧ p.host = a.text) ∧
        (image = Domain.lowerCase name ↔ Domain.Label.isAscii name = true) ∧
        (hasPlainSlashes " HTTP://u@0x7F.1:08080/a " = true →
          Domain.Label.isAscii (hostText " HTTP://u@0x7F.1:08080/a ") = true) ∧
        ('%' ∉ hostText " HTTP://u@0x7F.1:08080/a " →
          name = hostText " HTTP://u@0x7F.1:08080/a ") := by
  have hparse : parse " HTTP://u@0x7F.1:08080/a "
      = .ok ⟨.http, "127.0.0.1", 8080, by decide, by decide, by decide⟩ := by decide +kernel
  exact ⟨_, hparse, host_of_parse hparse⟩

/-- After three slashes a name outside ASCII is past the check, and the host is its ASCII form.  So it
is after one slash, after backslashes, with a second `://` behind no slash at all, and with percent
signs. -/
theorem parse_rewritten_host :
    ((parse "http:///ü.de:8080").toOption.map Proxy.host = some "xn--tda.de" ∧
      (hostName? "http:///ü.de:8080").map Domain.Label.isAscii = some false) ∧
    ∀ s ∈ ["http:/ü.de:8080", "http:\\\\ü.de:8080", "http:ü.de:8080/x://y", "http://%C3%BC.de:8080"],
      (parse s).toOption.map Proxy.host = some "xn--tda.de" ∧
        (hostName? s).map Domain.Label.isAscii = some false := by
  decide +kernel

end Proxy

end HostRouting
