/-
**Saved settings load back.**

Settings are written in full, so reading their document gives every field its value again; with the
text of a document and the octets of a text read back as well, the file of settings holds these
settings.  Saving writes one other file first and moves it to its place.  The two paths have the same
length, so neither step changes whether the other path can be used, and there are three outcomes:
nothing happens, the first file is left behind, or it has taken the place of the target.

Main results:

* `Settings.ofDocument?_document` — the document of settings is read as those settings;
* `Settings.save_of_not_takes_temporary`, `Settings.save_of_not_takes`, `Settings.save_of_takes` —
  the three outcomes of saving;
* `Settings.save_load` — **saved settings load back and nothing else has changed**; if they cannot be
  saved, the target and everything else are as before.
-/

import HostRouting.Proofs.Files.Directory
import HostRouting.Proofs.Json.RoundTrip
import HostRouting.Proofs.Settings.Folding
import HostRouting.Proofs.Text.Utf8
import HostRouting.Settings.File

set_option autoImplicit false

namespace HostRouting.Settings

/-! ### Reading back -/

/-- Reading the document of settings is folding in no changes. -/
theorem ofDocument?_document (s : Settings) : ofDocument? s.document = some s :=
  s.withChanges?_eq ⟨[], List.nodup_nil⟩

theorem ofText_document (s : Settings) {p : Path} (h : isYamlPath p = false) :
    ofText p s.document.indented.toList = .ok s := by
  have hparse : Json.parseChars s.document.indented.toList = some s.document :=
    Json.parse_indented s.document
  simp only [ofText, h, Bool.false_eq_true, ↓reduceIte, hparse, Option.bind_some,
    ofDocument?_document, Option.elim_some]

/-- A file that holds the octets of settings is loaded from the text of their document. -/
theorem load_of_bytes {s : Settings} {d : Directory} {p : Path} (hread : d.read p = .ok s.bytes) :
    load d p = ofText p s.document.indented.toList := by
  obtain ⟨hfree, hentry⟩ := Directory.read_eq_ok_iff.1 hread
  have hhas : d.has p = true := by
    rw [Directory.has, hfree, hentry]
    rfl
  have hdecode : Utf8.decode? s.bytes = some s.document.indented.toList :=
    Utf8.decode?_encode _
  rw [load, if_pos hhas, hread]
  simp only [hdecode]

theorem load_of_read {s : Settings} {d : Directory} {p : Path} (h : isYamlPath p = false)
    (hread : d.read p = .ok s.bytes) : load d p = .ok s :=
  (load_of_bytes hread).trans (ofText_document s h)

/-! ### The file that is written first -/

theorem length_temporaryPath (p : Path) : (temporaryPath p).length = p.length := by
  rw [temporaryPath, Path.withExtension]
  split
  · rfl
  · next name hname =>
      have hne : p ≠ [] := by
        rintro rfl
        cases hname
      have hpos : 0 < p.length := List.length_pos_iff.2 hne
      rw [List.length_append, List.length_dropLast, List.length_singleton]
      omega

/-- Beside a plain name stands a plain name. -/
theorem exists_temporaryPath {name : String} (h : name ≠ "") :
    ∃ other, other ≠ "" ∧ temporaryPath [name] = [other] := by
  rw [temporaryPath, Path.withExtension]
  split
  · exact ⟨name, h, rfl⟩
  · next own _ =>
      refine ⟨Path.stem own ++ "." ++ "tmp", ?_, rfl⟩
      intro he
      have hlength := congrArg String.length he
      simp at hlength

/-! ### Saving -/

section

variable {d : Directory} {p : Path} (s : Settings)

theorem save_of_not_takes_temporary (h : ¬d.Takes (temporaryPath p)) :
    ∃ f, s.save d p = (d, some f) := by
  rw [save]
  cases hwrite : d.write (temporaryPath p) s.bytes with
  | error f => exact ⟨f, rfl⟩
  | ok written => exact absurd (Directory.write_eq_ok_iff.1 hwrite).1 h

variable (htemporary : d.Takes (temporaryPath p))

include htemporary

theorem write_temporaryPath : d.write (temporaryPath p) s.bytes
    = .ok (d.insert (temporaryPath p) (.file s.bytes)) :=
  Directory.write_eq_ok_iff.2 ⟨htemporary, rfl⟩

/-- The written file does not change whether the target takes a file. -/
theorem takes_written_iff :
    (d.insert (temporaryPath p) (.file s.bytes)).Takes p ↔ d.Takes p :=
  Directory.takes_insert_iff htemporary (Nat.le_of_eq (length_temporaryPath p).symm) s.bytes

theorem save_of_not_takes (h : ¬d.Takes p) :
    ∃ f, s.save d p = (d.insert (temporaryPath p) (.file s.bytes), some f) := by
  rw [save, write_temporaryPath s htemporary]
  dsimp only
  cases hrename : (d.insert (temporaryPath p) (.file s.bytes)).rename (temporaryPath p) p with
  | error f => exact ⟨f, rfl⟩
  | ok moved =>
      obtain ⟨-, -, htakes, -⟩ := Directory.rename_eq_ok_iff.1 hrename
      exact absurd ((takes_written_iff s htemporary).1 htakes) h

theorem save_of_takes (h : d.Takes p) :
    s.save d p = (((d.insert (temporaryPath p) (.file s.bytes)).erase (temporaryPath p)).insert p
      (.file s.bytes), none) := by
  have hread : (d.insert (temporaryPath p) (.file s.bytes)).read (temporaryPath p)
      = .ok s.bytes := by
    rw [Directory.read_eq_ok_iff, Directory.obstacle?_insert d (Nat.le_refl _)]
    exact ⟨htemporary.1, Directory.entry?_insert_self d htemporary.named _⟩
  have hrename := Directory.rename_eq_ok_iff.2
    ⟨s.bytes, hread, (takes_written_iff s htemporary).2 h, rfl⟩
  rw [save, write_temporaryPath s htemporary]
  dsimp only
  rw [hrename]

/-- What stands under the target after it has been replaced. -/
theorem read_of_takes (h : d.Takes p) : (s.save d p).1.read p = .ok s.bytes := by
  have hle : p.length ≤ (temporaryPath p).length := Nat.le_of_eq (length_temporaryPath p).symm
  rw [save_of_takes s htemporary h, Directory.read_eq_ok_iff,
    Directory.obstacle?_insert _ (Nat.le_refl _), Directory.obstacle?_erase _ hle,
    Directory.obstacle?_insert _ hle]
  exact ⟨h.1, Directory.entry?_insert_self _ h.named _⟩

/-- The file that was written first is gone, unless it is the target. -/
theorem entry?_temporaryPath_of_takes (h : d.Takes p) (hne : temporaryPath p ≠ p) :
    Directory.entry? (s.save d p).1 (temporaryPath p) = none := by
  rw [save_of_takes s htemporary h, Directory.entry?_insert_of_ne _ hne]
  exact Directory.entry?_erase_self _ htemporary.named

theorem entry?_of_takes (h : d.Takes p) {q : Path} (htarget : q ≠ p) (hq : q ≠ temporaryPath p) :
    Directory.entry? (s.save d p).1 q = d.entry? q := by
  rw [save_of_takes s htemporary h, Directory.entry?_insert_of_ne _ htarget,
    Directory.entry?_erase_of_ne _ hq, Directory.entry?_insert_of_ne _ hq]

end

/-- Saving succeeds if both paths take a file. -/
theorem save_eq_none_iff (s : Settings) (d : Directory) (p : Path) :
    (s.save d p).2 = none ↔ d.Takes p ∧ d.Takes (temporaryPath p) := by
  by_cases htemporary : d.Takes (temporaryPath p)
  · by_cases h : d.Takes p
    · simp [save_of_takes s htemporary h, h, htemporary]
    · obtain ⟨f, hsave⟩ := save_of_not_takes s htemporary h
      simp [hsave, h]
  · obtain ⟨f, hsave⟩ := save_of_not_takes_temporary s htemporary
    simp [hsave, htemporary]

/-- Saving that fails leaves everything alone except for the file that is written first; that is no
other than the target only if nothing has been written. -/
theorem entry?_of_save_ne_none {s : Settings} {d : Directory} {p : Path}
    (h : (s.save d p).2 ≠ none) {q : Path} (hq : q = p ∨ q ≠ temporaryPath p) :
    Directory.entry? (s.save d p).1 q = d.entry? q := by
  by_cases htemporary : d.Takes (temporaryPath p)
  · have hnot : ¬d.Takes p := fun hp => h ((save_eq_none_iff s d p).2 ⟨hp, htemporary⟩)
    obtain ⟨f, hsave⟩ := save_of_not_takes s htemporary hnot
    have hne : q ≠ temporaryPath p := by
      rcases hq with rfl | hq
      · intro he
        exact hnot (he ▸ htemporary)
      · exact hq
    rw [hsave, Directory.entry?_insert_of_ne _ hne]
  · obtain ⟨f, hsave⟩ := save_of_not_takes_temporary s htemporary
    rw [hsave]

/-- A plain name cannot be saved under if it, or the one beside it, is a directory. -/
theorem save_name_ne_none_iff (s : Settings) (d : Directory) {name : String} (h : name ≠ "") :
    (s.save d [name]).2 ≠ none ↔ d.entry? [name] = some .directory ∨
      d.entry? (temporaryPath [name]) = some .directory := by
  obtain ⟨other, hother, htemporary⟩ := exists_temporaryPath h
  rw [Ne, save_eq_none_iff, htemporary, Directory.takes_name_iff d h,
    Directory.takes_name_iff d hother, Decidable.not_and_iff_not_or_not, Decidable.not_not,
    Decidable.not_not]

/-- **Saved settings load back, and saving touches nothing else.**  After saving, the target is
loaded as the settings, the file that was written first is gone unless it is the target, and whatever
stands elsewhere is as before.  If they cannot be saved, everything apart from the file written first
is as before, the target included; under a plain name that happens exactly if a directory stands
there or under the name that is written first. -/
theorem save_load (s : Settings) (d : Directory) (p : Path) (h : isYamlPath p = false) :
    ((s.save d p).2 = none →
      load (s.save d p).1 p = .ok s ∧
      (temporaryPath p ≠ p → Directory.entry? (s.save d p).1 (temporaryPath p) = none) ∧
      ∀ q, q ≠ p → q ≠ temporaryPath p →
        Directory.entry? (s.save d p).1 q = d.entry? q) ∧
    ((s.save d p).2 ≠ none →
      ∀ q, q = p ∨ q ≠ temporaryPath p → Directory.entry? (s.save d p).1 q = d.entry? q) ∧
    ∀ name, name ≠ "" → p = [name] →
      ((s.save d p).2 ≠ none ↔ d.entry? p = some .directory ∨
        d.entry? (temporaryPath p) = some .directory) := by
  refine ⟨?saved, ?failed, ?names⟩
  case saved =>
    intro hsaved
    obtain ⟨htarget, htemporary⟩ := (save_eq_none_iff s d p).1 hsaved
    refine ⟨load_of_read h (read_of_takes s htemporary htarget), ?_, ?_⟩
    · exact entry?_temporaryPath_of_takes s htemporary htarget
    · intro q hq hne
      exact entry?_of_takes s htemporary htarget hq hne
  case failed =>
    intro hfailed q hq
    exact entry?_of_save_ne_none hfailed hq
  case names =>
    rintro name hname rfl
    exact save_name_ne_none_iff s d hname

/-- Settings with a text of quotes, control characters and letters of other scripts are saved beside
a directory and over a file that an earlier attempt left behind. -/
theorem save_load_over_remains :
    let s : Settings := { standard with
      proxyUrl := "socks5://\"例え\"\\\x01\n"
      blacklist := { standard.blacklist with manual := ["*.münchen.de", "𝒳"], url := some "" } }
    let p : Path := ["routing.json"]
    let d : Directory := ⟨[(["lists"], .directory), (["routing.tmp"], .file [0xFF])]⟩
    isYamlPath p = false ∧ (s.save d p).2 = none ∧ load (s.save d p).1 p = .ok s ∧
      Directory.entry? (s.save d p).1 ["routing.tmp"] = none ∧
      Directory.entry? (s.save d p).1 ["lists"] = some .directory := by
  intro s p d
  have hyaml : isYamlPath p = false := by decide
  obtain ⟨hsaved, -, hnames⟩ := save_load s d p hyaml
  have htemporary : temporaryPath p = ["routing.tmp"] := by decide
  have hnone : (s.save d p).2 = none := by
    by_cases hfailed : (s.save d p).2 = none
    · exact hfailed
    · rcases (hnames "routing.json" (by decide) rfl).1 hfailed with htarget | hfirst
      · cases htarget
      · rw [htemporary] at hfirst
        cases hfirst
  obtain ⟨hload, hgone, hrest⟩ := hsaved hnone
  refine ⟨hyaml, hnone, hload, htemporary ▸ hgone (by decide), ?_⟩
  rw [hrest ["lists"] (by decide) (by decide)]
  rfl

end HostRouting.Settings
