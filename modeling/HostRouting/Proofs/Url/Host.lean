/-
**What the host of a web scheme is read from.**

A host text spells a name, in which a percent sign and two digits stand for one octet.  The host is
the address in brackets, or what the ASCII form of that name stands for: an IPv4 address if it has to
be one, else the domain name itself.  A host in plain characters whose ASCII form is itself is read
back as what it was read from.

Main results:

* `Url.spelled?_of_not_mem` — a text without percent signs spells itself;
* `Url.Host.ofName_eq_ok` — **what a host is read from**;
* `Url.Host.ofName_text` — **the text of a host is read as that host**, if the ASCII form of the
  text is the text itself;
* `Url.Ipv4.toAscii?_text` — the dotted text of an address is its own ASCII form.
-/

import HostRouting.Proofs.Text.Utf8
import HostRouting.Proofs.Url.Ipv4
import HostRouting.Url.Host

set_option autoImplicit false

namespace HostRouting.Url

/-! ### Names spelled by a host text -/

/-- The name that a host text spells, before any of its characters is changed. -/
def spelled? (cs : List Char) : Option (List Char) := Utf8.decode? (percentDecoded cs)

theorem asciiName?_eq (cs : List Char) : asciiName? cs = (spelled? cs).bind Domain.toAscii? := rfl

theorem percentDecoded_of_not_mem {cs : List Char} (h : '%' ∉ cs) :
    percentDecoded cs = Utf8.encode cs := by
  induction cs with
  | nil => rfl
  | cons c cs ih =>
      rw [List.mem_cons, not_or] at h
      rw [percentDecoded.eq_def]
      split
      · next hcons => cases hcons
      · next hcons => exact absurd (List.head_eq_of_cons_eq hcons).symm h.1
      · next hcons =>
          obtain ⟨rfl, rfl⟩ := List.cons.inj hcons
          rw [ih h.2]
          rfl

/-- A text without percent signs spells itself. -/
theorem spelled?_of_not_mem {cs : List Char} (h : '%' ∉ cs) : spelled? cs = some cs := by
  rw [spelled?, percentDecoded_of_not_mem h, Utf8.decode?_encode]

/-! ### Hosts -/

namespace Host

variable {cs : List Char} {host : Host}

theorem ofBracketed_eq_ok {inside : Option (List Char)} (h : ofBracketed inside = .ok host) :
    ∃ a, host = .ipv6 a := by
  rw [ofBracketed] at h
  split at h
  · next a _ => exact ⟨a, (Except.ok.inj h).symm⟩
  · cases h

/-- What an ASCII name stands for. -/
theorem ofAscii_eq_ok (h : ofAscii cs = .ok host) :
    cs ≠ [] ∧ (host = .domain (String.ofList cs) ∨
      ∃ a, Ipv4.ofName? cs = some a ∧ host = .ipv4 a) := by
  rw [ofAscii] at h
  split at h
  · cases h
  · next hne =>
      refine ⟨fun hnil => hne (List.isEmpty_iff.2 hnil), ?_⟩
      split at h
      · split at h
        · next a ha => exact .inr ⟨a, ha, (Except.ok.inj h).symm⟩
        · cases h
      · exact .inl (Except.ok.inj h).symm

/-- **What a host is read from**: brackets, or the ASCII form of the name that is spelled. -/
theorem ofName_eq_ok (h : ofName cs = .ok host) :
    (∃ a, host = .ipv6 a) ∨
      ∃ name image, spelled? cs = some name ∧ Domain.toAscii? name = some image ∧
        ofAscii image = .ok host := by
  rw [ofName] at h
  split at h
  · exact .inl (ofBracketed_eq_ok h)
  · split at h
    · next image himage =>
        rw [asciiName?_eq, Option.bind_eq_some_iff] at himage
        obtain ⟨name, hname, himage⟩ := himage
        exact .inr ⟨name, image, hname, himage, h⟩
    · cases h

theorem bracketed?_of_head? (h : cs.head? ≠ some '[') : bracketed? cs = none := by
  rw [bracketed?.eq_def]
  split
  · exact absurd rfl h
  · rfl

/-- A text that spells itself and is its own ASCII form is read as it stands. -/
theorem ofName_of_toAscii? (hbracket : cs.head? ≠ some '[') (hpercent : '%' ∉ cs)
    (himage : Domain.toAscii? cs = some cs) : ofName cs = ofAscii cs := by
  rw [ofName, bracketed?_of_head? hbracket, asciiName?_eq, spelled?_of_not_mem hpercent,
    Option.bind_some, himage]

end Host

/-! ### Dotted texts -/

namespace Ipv4

variable (a : Ipv4)

theorem not_mem_text {c : Char} (hdot : c ≠ '.') (hdigit : Text.isDigit 10 c = false) :
    c ∉ a.text.toList := by
  intro hc
  rcases a.eq_or_isDigit_of_mem_text hc with h | h
  · exact hdot h
  · rw [hdigit] at h
    cases h

/-- Digits and full stops are kept by lower case and forbidden nowhere. -/
theorem toLower_of_mem_text {c : Char} (hc : c ∈ a.text.toList) :
    c.toLower = c ∧ Domain.isForbidden c = false := by
  have hascii : c.toNat < 0x80 := Domain.isAscii_iff.1 (isAscii_of_ofName? a.ofName?_text) c hc
  exact Domain.forall_ascii
    (P := fun c => c = '.' ∨ Text.isDigit 10 c = true →
      c.toLower = c ∧ Domain.isForbidden c = false)
    (by decide) hascii (a.eq_or_isDigit_of_mem_text hc)

theorem lowerCase_text : Domain.lowerCase a.text.toList = a.text.toList := by
  rw [Domain.lowerCase]
  exact (List.map_congr_left fun c hc => (a.toLower_of_mem_text hc).1).trans (List.map_id _)

/-- No label of a dotted text begins with the mark of encoded labels. -/
theorem isPlain_text : Domain.isPlain a.text.toList = true := by
  rw [Domain.isPlain, isAscii_of_ofName? a.ofName?_text, Bool.true_and, List.all_eq_true]
  intro label hlabel
  have hx : 'x' ∉ label := by
    intro hmem
    have htext : 'x' ∈ Domain.lowerCase a.text.toList :=
      (Text.mem_pieces_iff (by decide)).1 ⟨label, hlabel, hmem⟩
    rw [lowerCase_text] at htext
    exact a.not_mem_text (by decide) (by decide) htext
  rw [Domain.Label.encoded?, if_neg]
  · rfl
  · rw [List.isPrefixOf_iff_prefix]
    exact fun hmark => hx (hmark.subset List.mem_cons_self)

/-- The dotted text of an address is its own ASCII form. -/
theorem toAscii?_text : Domain.toAscii? a.text.toList = some a.text.toList := by
  have hforbidden : a.text.toList.any Domain.isForbidden = false := by
    rw [List.any_eq_false]
    intro c hc
    rw [(a.toLower_of_mem_text hc).2]
    exact Bool.false_ne_true
  have hlower : a.text.toList.map Char.toLower = a.text.toList := a.lowerCase_text
  rw [Domain.toAscii?, if_pos a.isPlain_text, hforbidden, hlower]
  rfl

theorem text_ne_nil : a.text.toList ≠ [] := by
  intro hnil
  have hends := a.endsInNumber_text
  rw [hnil] at hends
  cases hends

theorem ofAscii_text : Host.ofAscii a.text.toList = .ok (.ipv4 a) := by
  have hempty : a.text.toList.isEmpty = false := List.isEmpty_eq_false_iff.2 a.text_ne_nil
  rw [Host.ofAscii, hempty, a.endsInNumber_text, a.ofName?_text]
  rfl

end Ipv4

/-! ### The text of a host -/

/-- **The text of a host is read as that host**, if the name it was read from is its own ASCII
form. -/
theorem Host.ofName_text {image : List Char} {host : Host} (h : ofAscii image = .ok host)
    (himage : Domain.toAscii? image = some image) (hbracket : '[' ∉ host.text.toList)
    (hpercent : '%' ∉ host.text.toList) : ofName host.text.toList = .ok host := by
  have hhead : host.text.toList.head? ≠ some '[' :=
    fun hhead => hbracket (List.mem_of_mem_head? hhead)
  rcases (ofAscii_eq_ok h).2 with rfl | ⟨a, -, rfl⟩
  · have htext : (domain (String.ofList image)).text.toList = image := String.toList_ofList
    rw [htext] at hhead hpercent ⊢
    rw [ofName_of_toAscii? hhead hpercent himage, h]
  · rw [ofName_of_toAscii? hhead hpercent a.toAscii?_text]
    exact a.ofAscii_text

end HostRouting.Url
