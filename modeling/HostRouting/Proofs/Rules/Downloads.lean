/-
**Downloads in several members.**

The body of an answer may be a gzip file, and a gzip file is a series of members.  Only the first of
them is read.  So a body gives the whole of its data if there is one member, or if the others hold
nothing; where they do hold something, it is missing from the text, and no fault says so.

Main definitions:

* `Download.lossyText` — the text of octets, whatever is ill-formed being replaced;
* `Download.dataText` — the text of data that came from a URL.

Main results:

* `Download.bodyText_append` — a member is read as its data, whatever stands behind it;
* `Download.dataText_append_iff` — when octets behind a text make no difference to it;
* `Download.bodyText_members` — **of a series of members the first one is read**, and when that is
  all of the data;
* `Download.not_bodyText_members` — a list in two members, of which the second is missing.
-/

import HostRouting.Proofs.Gzip.Members
import HostRouting.Proofs.Text.Lines
import HostRouting.Proofs.Text.Utf8
import HostRouting.Rules.Download
import Mathlib.Data.List.Forall2

set_option autoImplicit false

namespace HostRouting.Download

/-! ### Texts of data -/

/-- The text of octets, with U+FFFD for whatever is ill-formed. -/
def lossyText (bytes : List UInt8) : String := String.ofList (Utf8.decodeLossy bytes)

/-- The text of the data of an answer from a URL; blanks alone are a fault. -/
def dataText (url : String) (bytes : List UInt8) : Except Fault String :=
  if Text.isBlankText (lossyText bytes) then .error (.empty url) else .ok (lossyText bytes)

variable (url : String)

theorem bodyText_eq (body : List UInt8) : bodyText url body = data body >>= dataText url := by
  rw [bodyText]
  cases data body with
  | error f => rfl
  | ok bytes =>
      change (do
        if Text.isBlankText (lossyText bytes) then throw (Fault.empty url)
        return lossyText bytes) = dataText url bytes
      rw [dataText]
      split <;> rfl

/-- **A member is read as its data, whatever stands behind it.** -/
theorem bodyText_append {file bytes : List UInt8} (h : Gzip.IsMember file bytes)
    (more : List UInt8) : bodyText url (file ++ more) = dataText url bytes := by
  have hdata : data (file ++ more) = .ok bytes := by
    rw [data, if_pos (Gzip.isGzip_append h more), Gzip.decode?_append h more]
    rfl
  rw [bodyText_eq, hdata]
  rfl

/-! ### Texts with something behind -/

theorem isBlankText_iff {bytes : List UInt8} :
    Text.isBlankText (lossyText bytes) = true ↔
      ∀ c ∈ Utf8.decodeLossy bytes, Text.isBlank c = true := by
  rw [Text.isBlankText, List.isEmpty_iff, lossyText, String.toList_ofList, Text.trimmed_eq_nil_iff]

/-- Octets behind a text make no difference to it exactly if there are none, or if the text is
refused with them as well as without. -/
theorem dataText_append_iff (text : String) (more : List UInt8) :
    dataText url (Utf8.encodeText text) = dataText url (Utf8.encodeText text ++ more) ↔
      more = [] ∨ Text.isBlankText (lossyText (Utf8.encodeText text ++ more)) = true := by
  have hwhole : Utf8.decodeLossy (Utf8.encodeText text ++ more)
      = text.toList ++ Utf8.decodeLossy more := Utf8.decodeLossy_encode_append _ _
  have hown : Utf8.decodeLossy (Utf8.encodeText text) = text.toList := Utf8.decodeLossy_encode _
  constructor
  · intro h
    by_cases hblank : Text.isBlankText (lossyText (Utf8.encodeText text ++ more)) = true
    · exact .inr hblank
    · -- a text that is not refused with the octets behind it is that same text without them
      refine .inl (Utf8.decodeLossy_eq_nil_iff.1 ?_)
      rw [dataText, dataText, if_neg hblank] at h
      split at h
      · cases h
      · have htexts := String.ofList_injective (Except.ok.inj h)
        rw [hown, hwhole] at htexts
        exact List.self_eq_append_right.1 htexts
  · rintro (rfl | hblank)
    · rw [List.append_nil]
    · have hboth := isBlankText_iff.1 hblank
      have hfirst : Text.isBlankText (lossyText (Utf8.encodeText text)) = true := by
        refine isBlankText_iff.2 fun c hc => hboth c ?_
        rw [hwhole]
        rw [hown] at hc
        exact List.mem_append_left _ hc
      rw [dataText, dataText, if_pos hblank, if_pos hfirst]

/-! ### Series of members -/

/-- **Of a series of members the first one is read**: its data are the text, or are refused if they
are blank.  That is the text of all the data if the other members hold nothing; if the first member
holds a text, it is so only then, apart from data that are blank as a whole. -/
theorem bodyText_members {file bytes : List UInt8} {files datas : List (List UInt8)}
    (h : List.Forall₂ Gzip.IsMember (file :: files) (bytes :: datas)) :
    bodyText url (file :: files).flatten = dataText url bytes ∧
    (datas.flatten = [] →
      bodyText url (file :: files).flatten = dataText url (bytes :: datas).flatten) ∧
    ∀ text : String, bytes = Utf8.encodeText text →
      (bodyText url (file :: files).flatten = dataText url (bytes :: datas).flatten ↔
        datas.flatten = [] ∨ Text.isBlankText (lossyText (bytes :: datas).flatten) = true) := by
  obtain ⟨hfile, -⟩ := List.forall₂_cons.1 h
  have hfirst : bodyText url (file :: files).flatten = dataText url bytes := by
    rw [List.flatten_cons]
    exact bodyText_append url hfile files.flatten
  rw [hfirst, List.flatten_cons]
  refine ⟨rfl, fun hnone => ?_, ?_⟩
  · rw [hnone, List.append_nil]
  · rintro text rfl
    exact dataText_append_iff url text datas.flatten

/-- Two rules, each in a member of its own. -/
theorem forall₂_isMember_pair : List.Forall₂ Gzip.IsMember
    [Gzip.stored (Utf8.encodeText "a.com\n"), Gzip.stored (Utf8.encodeText "b.com\n")]
    [Utf8.encodeText "a.com\n", Utf8.encodeText "b.com\n"] :=
  .cons (Gzip.isMember_stored (by decide)) (.cons (Gzip.isMember_stored (by decide)) .nil)

/-- Of two members with a rule each, the first rule is the text, and the text of both is another. -/
theorem bodyText_members_pair :
    List.Forall₂ Gzip.IsMember
      [Gzip.stored (Utf8.encodeText "a.com\n"), Gzip.stored (Utf8.encodeText "b.com\n")]
      [Utf8.encodeText "a.com\n", Utf8.encodeText "b.com\n"] ∧
    bodyText "https://lists.test"
      [Gzip.stored (Utf8.encodeText "a.com\n"), Gzip.stored (Utf8.encodeText "b.com\n")].flatten
      = .ok "a.com\n" ∧
    dataText "https://lists.test"
      [Utf8.encodeText "a.com\n", Utf8.encodeText "b.com\n"].flatten ≠ .ok "a.com\n" := by
  obtain ⟨hfirst, -, hboth⟩ := bodyText_members "https://lists.test" forall₂_isMember_pair
  have htext : dataText "https://lists.test" (Utf8.encodeText "a.com\n") = .ok "a.com\n" := rfl
  refine ⟨forall₂_isMember_pair, hfirst.trans htext, fun hwhole => ?_⟩
  obtain hnone | hblank := (hboth "a.com\n" rfl).1 ((hfirst.trans htext).trans hwhole.symm)
  · exact absurd hnone (by decide)
  · exact absurd hblank (by decide)

/-- A rule list in two members is not the text of both. -/
theorem not_bodyText_members :
    ¬ ∀ (url : String) (files datas : List (List UInt8)), files ≠ [] →
      List.Forall₂ Gzip.IsMember files datas →
        bodyText url files.flatten = dataText url datas.flatten := by
  intro h
  have hpair := h "https://lists.test" _ _ (List.cons_ne_nil _ _) forall₂_isMember_pair
  rw [List.flatten_cons, bodyText_append _ (Gzip.isMember_stored (by decide))] at hpair
  obtain hnone | hblank := (dataText_append_iff "https://lists.test" "a.com\n" _).1 hpair
  · exact absurd hnone (by decide)
  · exact absurd hblank (by decide)

end HostRouting.Download
