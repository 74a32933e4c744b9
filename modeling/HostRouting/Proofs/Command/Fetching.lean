/-
**Keeping a downloaded list.**

The command for downloads goes through several steps, and each of them can fail: the URL, the answer,
its body, the settings in the file, and writing them back.  Only the last one touches a file at all,
and even if that one fails the file of settings is as it was.  If all goes well, the file holds the
settings that were read from it before with three fields replaced, those of the list that was fetched.

Main definitions:

* `Download.Gives` — a text comes of a request;
* `Settings.IsFetchedInto` — settings that differ from others in a fetched list only.

Main results:

* `Download.fetchText_eq_ok_iff` — the text that is fetched is the one that comes of the request;
* `Command.respond_of_not_gives`, `Command.respond_of_unreadable`, `Command.respond_of_readable` —
  what the command leaves behind, by the step that it gets to;
* `Command.fetch_keeps` — **the command changes its list or nothing**.
-/

import HostRouting.Command.Basic
import HostRouting.Proofs.Rules.Downloads
import HostRouting.Proofs.Rules.Reading
import HostRouting.Proofs.Service.Operation
import HostRouting.Proofs.Settings.Saving

set_option autoImplicit false

namespace HostRouting

/-! ### The text of an answer -/

namespace Download

/-- A text comes of a request for a URL: the URL is one of the web, and an answer comes that is
complete, reports no failure and has a body with something else than blanks in it. -/
def Gives (url : String) (e : Exchange) (text : String) : Prop :=
  isRulesUrl url = true ∧ ∃ status body bytes, e = .answered status body true ∧
    status < failureStatus ∧ data body = .ok bytes ∧ text = lossyText bytes ∧
    Text.isBlankText text = false

variable {url text : String} {e : Exchange}

theorem dataText_eq_ok_iff {bytes : List UInt8} :
    dataText url bytes = .ok text ↔ text = lossyText bytes ∧ Text.isBlankText text = false := by
  rw [dataText]
  constructor
  · intro h
    split at h
    · cases h
    · next hblank =>
        obtain rfl := Except.ok.inj h
        exact ⟨rfl, Bool.not_eq_true _ ▸ hblank⟩
  · rintro ⟨rfl, hblank⟩
    rw [hblank]
    rfl

/-- The text of an answer is that of a complete body without a failure. -/
theorem answerText_eq_ok_iff :
    answerText url e = .ok text ↔ ∃ status body bytes, e = .answered status body true ∧
      status < failureStatus ∧ data body = .ok bytes ∧ dataText url bytes = .ok text := by
  constructor
  · intro h
    cases e with
    | lost => cases h
    | answered status body complete =>
        rw [answerText] at h
        split at h
        · cases h
        · next hstatus =>
            split at h
            · next hcomplete =>
                rw [bodyText_eq] at h
                cases hdata : data body with
                | error f =>
                    rw [hdata] at h
                    cases h
                | ok bytes =>
                    rw [hdata] at h
                    dsimp only [bind, Except.bind] at h
                    rw [hcomplete]
                    exact ⟨status, body, bytes, rfl, Nat.not_le.1 hstatus, hdata, h⟩
            · cases h
  · rintro ⟨status, body, bytes, rfl, hstatus, hdata, htext⟩
    rw [answerText, if_neg (Nat.not_le.2 hstatus), if_pos rfl, bodyText_eq, hdata]
    dsimp only [bind, Except.bind]
    exact htext

/-- **The text that is fetched is the one that comes of the request.** -/
theorem fetchText_eq_ok_iff : fetchText url e = .ok text ↔ Gives url e text := by
  unfold fetchText urlFault? Gives
  by_cases hurl : isRulesUrl url = true
  · simp only [hurl, ↓reduceIte, true_and, answerText_eq_ok_iff, dataText_eq_ok_iff]
  · simp [hurl]

/-- What comes of a request has a line that is not blank. -/
theorem Gives.exists_line (h : Gives url e text) :
    ∃ line ∈ Text.lines '\n' '\r' text.toList, Text.trimmed line ≠ [] := by
  obtain ⟨-, -, -, -, -, -, -, -, hblank⟩ := h
  have hentries : RuleList.entries text.toList ≠ [] := by
    intro hnone
    rw [RuleList.entries_eq_nil_iff, ← List.isEmpty_iff] at hnone
    exact Bool.false_ne_true (hblank.symm.trans hnone)
  obtain ⟨entry, hentry⟩ := List.exists_mem_of_ne_nil _ hentries
  rw [RuleList.entries, List.mem_filter, List.mem_map] at hentry
  obtain ⟨⟨line, hline, rfl⟩, hne⟩ := hentry
  exact ⟨line, hline, by simpa using hne⟩

end Download

/-! ### Settings with a fetched list -/

namespace Settings

/-- The settings `t` are those of `s` with a list that was fetched from a URL for a mode: three fields
are replaced and the other ten are the same. -/
structure IsFetchedInto (s t : Settings) (mode : Mode) (url text : String) : Prop where
  url_eq : (t.source mode).url = some url
  fetchedText_eq : (t.source mode).fetchedText = some text
  fetched_eq : (t.source mode).fetched = (RuleList.parse text).rules
  manual_eq : (t.source mode).manual = (s.source mode).manual
  manualText_eq : (t.source mode).manualText = (s.source mode).manualText
  others_eq : ∀ other, other ≠ mode → t.source other = s.source other
  proxyEnabled_eq : t.proxyEnabled = s.proxyEnabled
  proxyUrl_eq : t.proxyUrl = s.proxyUrl
  mode_eq : t.mode = s.mode

theorem isFetchedInto_setUrlRules (s : Settings) (mode : Mode) (url text : String) :
    s.IsFetchedInto (s.setUrlRules mode url (RuleList.parse text)) mode url text := by
  have hothers : ∀ other, other ≠ mode →
      (s.setUrlRules mode url (RuleList.parse text)).source other = s.source other :=
    fun _ hne => source_setUrlRules_of_ne hne s url _
  cases mode <;> exact ⟨rfl, rfl, rfl, rfl, rfl, hothers, rfl, rfl, rfl⟩

end Settings

/-! ### The command -/

namespace Command

section

variable {words : List String} {url name : String} {list : Mode}
  (hwords : parse words = .ok (.fetch url list (some name))) (d : Directory) (e : Exchange)

include hwords

theorem respond_eq_runFetch :
    respond words d e = runFetch url list (some name) e (.start d) := by
  unfold respond
  rw [hwords]
  rfl

/-- Without a text nothing is read or written. -/
theorem respond_of_not_gives (h : ¬∃ text, Download.Gives url e text) :
    (respond words d e).exit = 1 ∧ (respond words d e).files = d := by
  cases htext : Download.fetchText url e with
  | ok text => exact absurd ⟨text, Download.fetchText_eq_ok_iff.1 htext⟩ h
  | error f =>
      have hfetch : Download.fetch url e = .error f := by
        rw [Download.fetch, htext]
        rfl
      rw [respond_eq_runFetch hwords]
      unfold runFetch
      rw [hfetch]
      exact ⟨rfl, rfl⟩

variable {text : String} (htext : Download.Gives url e text)

include htext

/-- With a text the settings are read, once its rules are reported. -/
theorem respond_of_gives : ∃ report, respond words d e
    = keep url list name (RuleList.parse text) ((Progress.start d).print report) := by
  have hfetch : Download.fetch url e = .ok (RuleList.parse text) := by
    rw [Download.fetch, Download.fetchText_eq_ok_iff.2 htext]
    rfl
  rw [respond_eq_runFetch hwords]
  unfold runFetch
  rw [hfetch]
  exact ⟨_, rfl⟩

/-- Without settings nothing is written. -/
theorem respond_of_unreadable {f : Settings.Fault}
    (h : Settings.load d (Path.ofText name) = .error f) :
    (respond words d e).exit = 1 ∧ (respond words d e).files = d := by
  obtain ⟨report, hrespond⟩ := respond_of_gives hwords d e htext
  have hfiles : ((Progress.start d).print report).files = d := rfl
  rw [hrespond]
  unfold keep
  rw [hfiles, h]
  exact ⟨rfl, rfl⟩

omit htext in
/-- Without a text or without settings nothing is written. -/
theorem respond_of_not_ready (h : (¬∃ text, Download.Gives url e text) ∨
    ∃ f, Settings.load d (Path.ofText name) = .error f) :
    (respond words d e).exit = 1 ∧ (respond words d e).files = d := by
  by_cases hgives : ∃ text, Download.Gives url e text
  · obtain ⟨text, htext⟩ := hgives
    obtain ⟨f, hload⟩ := h.resolve_left (not_not_intro ⟨text, htext⟩)
    exact respond_of_unreadable hwords d e htext hload
  · exact respond_of_not_gives hwords d e hgives

/-- With a text and settings these are put together and saved. -/
theorem respond_of_readable {s : Settings} (h : Settings.load d (Path.ofText name) = .ok s) :
    let saved := (s.setUrlRules list url (RuleList.parse text)).save d (Path.ofText name)
    ((respond words d e).exit = 0 ↔ saved.2 = none) ∧ (respond words d e).files = saved.1 := by
  intro saved
  obtain ⟨report, hrespond⟩ := respond_of_gives hwords d e htext
  have hfiles : ((Progress.start d).print report).files = d := rfl
  rw [hrespond]
  unfold keep
  rw [hfiles, h]
  dsimp only
  split
  · next files f hsave =>
      have hsaved : saved = (files, some f) := hsave
      rw [hsaved]
      exact ⟨⟨nofun, nofun⟩, rfl⟩
  · next files hsave =>
      have hsaved : saved = (files, none) := hsave
      rw [hsaved]
      exact ⟨⟨fun _ => rfl, fun _ => rfl⟩, rfl⟩

end

/-- **The command for downloads changes its list or nothing.**  Where no text comes of the request, or
no settings can be read from the file, nothing is touched at all; and whenever the command fails, the
file of settings is as it was.  It succeeds exactly if a text comes, settings are read and both files
can be written.  Then the file, unless it is one of YAML, is loaded as the settings that it held
before, with the list that was fetched and no other change, and that list has a line that is not
blank. -/
theorem fetch_keeps {words : List String} {url name : String} {list : Mode}
    (hwords : parse words = .ok (.fetch url list (some name)))
    (hjson : Settings.isYamlPath (Path.ofText name) = false) (d : Directory) (e : Exchange) :
    let path := Path.ofText name
    let o := respond words d e
    (((¬∃ text, Download.Gives url e text) ∨ ∃ f, Settings.load d path = .error f) →
      o.exit = 1 ∧ o.files = d) ∧
    (o.exit ≠ 0 → Directory.entry? o.files path = d.entry? path) ∧
    (o.exit = 0 ↔ (∃ text, Download.Gives url e text) ∧ (∃ s, Settings.load d path = .ok s) ∧
      d.Takes path ∧ d.Takes (Settings.temporaryPath path)) ∧
    (o.exit = 0 → ∃ s t text, Settings.load d path = .ok s ∧ Settings.load o.files path = .ok t ∧
      Download.Gives url e text ∧ s.IsFetchedInto t list url text ∧
      ∃ line ∈ Text.lines '\n' '\r' text.toList, Text.trimmed line ≠ []) := by
  intro path o
  refine ⟨respond_of_not_ready hwords d e, ?_⟩
  have hready : ((¬∃ text, Download.Gives url e text) ∨ ∃ f, Settings.load d path = .error f) ∨
      ∃ text s, Download.Gives url e text ∧ Settings.load d path = .ok s := by
    by_cases hgives : ∃ text, Download.Gives url e text
    · obtain ⟨text, htext⟩ := hgives
      cases hload : Settings.load d path with
      | error f => exact .inl (.inr ⟨f, rfl⟩)
      | ok s => exact .inr ⟨text, s, htext, rfl⟩
    · exact .inl (.inl hgives)
  rcases hready with hnot | ⟨text, s, htext, hload⟩
  · obtain ⟨hexit, hfiles⟩ := respond_of_not_ready hwords d e hnot
    have hfails : o.exit ≠ 0 := by
      intro hzero
      exact absurd (hexit.symm.trans hzero) (by decide)
    refine ⟨fun _ => congrArg (Directory.entry? · path) hfiles, ?_, fun h => absurd h hfails⟩
    constructor
    · exact fun h => absurd h hfails
    · rintro ⟨hgives, ⟨s, hs⟩, -⟩
      rcases hnot with hnone | ⟨f, hf⟩
      · exact absurd hgives hnone
      · rw [hs] at hf
        cases hf
  · obtain ⟨hexit, hfiles⟩ := respond_of_readable hwords d e htext hload
    have hsaved := (s.setUrlRules list url (RuleList.parse text)).save_eq_none_iff d path
    refine ⟨?_, ?_, ?_⟩
    · intro hfails
      have hne := mt hexit.2 hfails
      exact (congrArg (Directory.entry? · path) hfiles).trans
        (Settings.entry?_of_save_ne_none hne (.inl rfl))
    · refine (hexit.trans hsaved).trans ⟨fun h => ⟨⟨text, htext⟩, ⟨s, hload⟩, h⟩, fun h => h.2.2⟩
    · intro hzero
      obtain ⟨htarget, htemporary⟩ := hsaved.1 (hexit.1 hzero)
      have hread := Settings.load_of_read hjson (Settings.read_of_takes
        (s.setUrlRules list url (RuleList.parse text)) htemporary htarget)
      rw [← hfiles] at hread
      exact ⟨s, _, text, hload, hread, htext, s.isFetchedInto_setUrlRules list url text,
        htext.exists_line⟩

/-- A blacklist is fetched into settings with rules of their own; the same request changes nothing if
the answer reports a failure. -/
theorem fetch_keeps_blacklist :
    let url := "http://lists.test/cn"
    let words := ["fetch", "--url", url, "-l", "blacklist", "--config=c.json"]
    let d : Directory := ⟨[(["c.json"],
      .file (Utf8.encodeText "\x7b\"mode\":\"blacklist\",\"blacklistRules\":[\"a.com\"]\x7d"))]⟩
    let text := "# list\n*.cn\nbad rule\n"
    let o := respond words d (.answered 200 (Utf8.encodeText text) true)
    parse words = .ok (.fetch url .blacklist (some "c.json")) ∧
      Settings.isYamlPath (Path.ofText "c.json") = false ∧
      (respond words d (.answered 404 (Utf8.encodeText text) true)).files = d ∧ o.exit = 0 ∧
      ∃ t, Settings.load o.files (Path.ofText "c.json") = .ok t ∧ t.mode = .blacklist ∧
        t.whitelist = .empty ∧ t.blacklist.manual = ["a.com"] ∧ t.blacklist.url = some url ∧
        t.blacklist.fetchedText = some text ∧ t.blacklist.fetched = ["*.cn"] := by
  intro url words d text o
  have hwords : parse words = .ok (.fetch url .blacklist (some "c.json")) := by decide +kernel
  have hjson : Settings.isYamlPath (Path.ofText "c.json") = false := by decide
  have hpath : Path.ofText "c.json" = ["c.json"] := by decide
  have hload : Settings.load d (Path.ofText "c.json") = .ok { Settings.standard with
      mode := .blacklist, blacklist := { RuleSource.empty with manual := ["a.com"] } } := by
    decide +kernel
  have hfetch : Download.fetchText url (.answered 200 (Utf8.encodeText text) true) = .ok text := by
    decide +kernel
  have hlost : ¬∃ t, Download.Gives url (.answered 404 (Utf8.encodeText text) true) t := by
    rintro ⟨t, -, status, body, bytes, he, hstatus, -⟩
    obtain ⟨rfl, -, -⟩ := Exchange.answered.inj he
    exact absurd hstatus (by decide)
  have htarget : d.Takes (Path.ofText "c.json") := by
    rw [hpath, d.takes_name_iff (by decide)]
    decide
  have hfirst : d.Takes (Settings.temporaryPath (Path.ofText "c.json")) := by
    have htemporary : Settings.temporaryPath (Path.ofText "c.json") = ["c.tmp"] := by decide
    rw [htemporary, d.takes_name_iff (by decide)]
    decide
  obtain ⟨hleft, -, -, -⟩ :=
    fetch_keeps hwords hjson d (.answered 404 (Utf8.encodeText text) true)
  obtain ⟨-, -, hexit, hkeeps⟩ :=
    fetch_keeps hwords hjson d (.answered 200 (Utf8.encodeText text) true)
  have hzero : o.exit = 0 :=
    hexit.2 ⟨⟨text, Download.fetchText_eq_ok_iff.1 hfetch⟩, ⟨_, hload⟩, htarget, hfirst⟩
  obtain ⟨s, t, fetched, hs, ht, hgives, hinto, -⟩ := hkeeps hzero
  obtain rfl := Except.ok.inj (hload.symm.trans hs)
  obtain rfl := Except.ok.inj (hfetch.symm.trans (Download.fetchText_eq_ok_iff.2 hgives))
  exact ⟨hwords, hjson, (hleft (.inl hlost)).2, hzero, t, ht, hinto.mode_eq,
    hinto.others_eq .whitelist (by decide), hinto.manual_eq, hinto.url_eq, hinto.fetchedText_eq,
    hinto.fetched_eq.trans (by decide +kernel)⟩

end Command

end HostRouting
