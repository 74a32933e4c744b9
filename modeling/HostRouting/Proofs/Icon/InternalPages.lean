/-
**Pages of the browser itself.**

The browser's own pages are told by how their URLs begin, letter by letter, before anything is read.
What is read afterwards is more tolerant: case does not count in a scheme, nor do spaces and control
characters around the text, nor tabs and line ends within it.  So a page of the browser is left out
in its plain spelling, or for want of a host, and in no other way; spelled differently it is decided
on like a page of the web.

Main definitions:

* `internalSchemes` — the schemes of the browser's own pages;
* `Url.IsPlainlySpelled` — a text begins with its scheme as it is read, a colon and two slashes.

Main results:

* `isInternalPage_iff` — of the texts with such a scheme those are told that are plainly spelled;
* `pageHost_of_internal` — **which pages of the browser are not decided on**;
* `pageHost_respelled` — **others are**, under the same schemes.
-/

import HostRouting.Icon.Page
import HostRouting.Proofs.Url.Parts

set_option autoImplicit false

namespace HostRouting

/-! ### Beginnings -/

/-- The schemes of the browser's own pages. -/
def internalSchemes : List String :=
  ["chrome", "edge", "extensions", "chrome-extension", "chrome-error"]

theorem internalBeginnings_eq : internalBeginnings = internalSchemes.map (· ++ "://") := by
  decide

namespace Url

/-- A text begins with the scheme that is read from it, a colon and two slashes. -/
def IsPlainlySpelled (url : Url) (text : String) : Prop :=
  url.scheme.toList ++ [':', '/', '/'] <+: text.toList

/-- Before a colon each of these schemes is read as it stands. -/
theorem scheme?_internal {scheme : String} (h : scheme ∈ internalSchemes) (rest : List Char) :
    scheme? (scheme.toList ++ ':' :: rest) = some (scheme, rest) := by
  simp only [internalSchemes, List.mem_cons, List.not_mem_nil, or_false] at h
  rcases h with rfl | rfl | rfl | rfl | rfl <;> rfl

theorem isSchemeCharacter_internal {scheme : String} (h : scheme ∈ internalSchemes) :
    ∀ c ∈ scheme.toList, isSchemeCharacter c = true := by
  rw [← List.all_eq_true]
  simp only [internalSchemes, List.mem_cons, List.not_mem_nil, or_false] at h
  rcases h with rfl | rfl | rfl | rfl | rfl <;> rfl

end Url

/-! ### Pages -/

section

variable {text : String} {url : Url} (hparse : Url.parse text = .ok url)
  (hinternal : url.scheme ∈ internalSchemes)

include hparse hinternal

/-- Of the texts with such a scheme those are told that are plainly spelled. -/
theorem isInternalPage_iff : isInternalPage text = true ↔ url.IsPlainlySpelled text := by
  rw [isInternalPage, Bool.or_eq_true, Bool.or_eq_true, beq_iff_eq, beq_iff_eq, List.any_eq_true]
  constructor
  · rintro ((rfl | rfl) | ⟨beginning, hmem, hbegins⟩)
    · cases hparse
    · obtain rfl := Except.ok.inj hparse
      exact absurd hinternal (by decide)
    · rw [internalBeginnings_eq, List.mem_map] at hmem
      obtain ⟨scheme, hscheme, rfl⟩ := hmem
      rw [List.isPrefixOf_iff_prefix, String.toList_append] at hbegins
      have hsame : url.scheme = scheme :=
        Url.scheme_of_beginning hparse (Url.scheme?_internal hscheme)
          (Url.isSchemeCharacter_internal hscheme) hbegins
      rw [Url.IsPlainlySpelled, hsame]
      exact hbegins
  · intro hplain
    refine .inr ⟨url.scheme ++ "://", ?_, ?_⟩
    · rw [internalBeginnings_eq]
      exact List.mem_map_of_mem hinternal
    · rw [List.isPrefixOf_iff_prefix, String.toList_append]
      exact hplain

theorem pageHost_eq_none_iff :
    pageHost text = none ↔ url.host = none ∨ url.IsPlainlySpelled text := by
  rw [← isInternalPage_iff hparse hinternal, pageHost, hparse]
  by_cases hpage : isInternalPage text = true
  · simp [hpage]
  · simp [hpage, Except.toOption]

end

/-- A page has the standard icon without a title exactly if it has no host to be decided on. -/
theorem badge_eq_standard_iff (s : Snapshot) (text : String) :
    s.badge text = .standard ↔ pageHost text = none := by
  rw [Snapshot.badge]
  cases pageHost text with
  | none => simp
  | some host => simp [Badge.ofDecision, Badge.standard]

/-- **Which pages of the browser are not decided on.**  Of the texts that are read as URLs with one of
the schemes of the browser, exactly those are not decided on, and have the standard icon without a
title under every snapshot, that have no host or are plainly spelled.  In any other spelling the host
is decided on. -/
theorem pageHost_of_internal {text : String} {url : Url} (hparse : Url.parse text = .ok url)
    (hinternal : url.scheme ∈ internalSchemes) :
    (pageHost text = none ↔ url.host = none ∨ url.IsPlainlySpelled text) ∧
    (∀ s : Snapshot, s.badge text = .standard ↔ url.host = none ∨ url.IsPlainlySpelled text) ∧
    ∀ host, url.host = some host → ¬url.IsPlainlySpelled text →
      pageHost text = some host.plainText := by
  refine ⟨pageHost_eq_none_iff hparse hinternal, ?_, ?_⟩
  · intro s
    rw [badge_eq_standard_iff, pageHost_eq_none_iff hparse hinternal]
  · intro host hhost hspelled
    rw [← isInternalPage_iff hparse hinternal] at hspelled
    rw [pageHost, if_neg hspelled, hparse]
    simp [Except.toOption, hhost]

/-- A page of an extension in its plain spelling, with a line end further on. -/
theorem pageHost_of_internal_extension :
    let text := "chrome-extension://abc/pop\nup.html "
    ∃ url, Url.parse text = .ok url ∧ url.scheme ∈ internalSchemes ∧
      url.host = some (.domain "abc") ∧ url.IsPlainlySpelled text ∧ pageHost text = none := by
  intro text
  have hparse : Url.parse text = .ok ⟨"chrome-extension", some (.domain "abc"), none⟩ := by decide
  have hinternal : "chrome-extension" ∈ internalSchemes := by decide
  have hplain : Url.IsPlainlySpelled ⟨"chrome-extension", some (.domain "abc"), none⟩ text :=
    ⟨"abc/pop\nup.html ".toList, by decide⟩
  obtain ⟨hnone, -, -⟩ := pageHost_of_internal hparse hinternal
  exact ⟨_, hparse, hinternal, rfl, hplain, hnone.2 (.inr hplain)⟩

/-- **Pages of the browser that are decided on.**  With a capital letter in the scheme the settings
page has a host, and if nothing is configured its icon is that of a proxied page.  The same happens
with a space or a control character in front, and with a tab or a line end in the scheme or between
the slashes. -/
theorem pageHost_respelled :
    (∃ url, Url.parse "Chrome://settings" = .ok url ∧ url.scheme ∈ internalSchemes ∧
      pageHost "Chrome://settings" = some "settings" ∧
      (Snapshot.ofConfig .standard .standard).badge "Chrome://settings"
        = ⟨.proxy, some "settings: PROXY localhost:7890"⟩) ∧
    ∀ text ∈ [" edge://settings", "\x01extensions://x", "chr\tome-extension://abc/popup.html",
        "chrome-error:/\n/chromewebdata/"],
      ∃ url, Url.parse text = .ok url ∧ url.scheme ∈ internalSchemes ∧ pageHost text ≠ none := by
  refine ⟨⟨⟨"chrome", some (.domain "settings"), none⟩, by decide, by decide, by decide, by decide⟩, ?_⟩
  intro text htext
  simp only [List.mem_cons, List.not_mem_nil, or_false] at htext
  rcases htext with rfl | rfl | rfl | rfl
  · exact ⟨⟨"edge", some (.domain "settings"), none⟩, by decide, by decide, by decide⟩
  · exact ⟨⟨"extensions", some (.domain "x"), none⟩, by decide, by decide, by decide⟩
  · exact ⟨⟨"chrome-extension", some (.domain "abc"), none⟩, by decide, by decide, by decide⟩
  · exact ⟨⟨"chrome-error", some (.domain "chromewebdata"), none⟩, by decide, by decide, by decide⟩

end HostRouting
