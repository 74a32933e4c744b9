/-
**Domain names in ASCII.**

The ASCII form of a name that is in ASCII already is the name in lower case, if it has one.  The
mapping only changes capitals, the composed form changes nothing, because no composite and no mark
is in ASCII, and no label has to be written in Punycode.  Labels that are marked as encoded are
checked, but written as they are.  Lower case changes nothing that is asked of a name, so the ASCII
form has itself as its ASCII form.

Main results:

* `Domain.normalized_of_ascii` — the composed form of an ASCII text is that text;
* `Domain.eq_of_toAscii?` — **the ASCII form of an ASCII name is the name in lower case**;
* `Domain.toAscii?_lowerCase` — it is the same for the name in lower case, so the ASCII form of an
  ASCII name has itself as its ASCII form.
-/

import HostRouting.Domain.Name
import HostRouting.Proofs.Text.Lines

set_option autoImplicit false

namespace HostRouting.Domain

/-! ### ASCII characters -/

/-- What holds of the first 128 code points holds of every ASCII character. -/
theorem forall_ascii {P : Char → Prop} (h : ∀ n < 0x80, P (Char.ofNat n)) {c : Char}
    (hc : c.toNat < 0x80) : P c := by
  have hP := h c.toNat hc
  rwa [Char.ofNat_toNat] at hP

/-- A name in lower case. -/
def lowerCase (name : List Char) : List Char := name.map Char.toLower

/-- Lower case stays within ASCII and within what is outside. -/
theorem toNat_toLower_lt_iff (c : Char) : c.toLower.toNat < 0x80 ↔ c.toNat < 0x80 := by
  constructor
  · intro h
    by_cases hcapital : c.val ≥ 'A'.val ∧ c.val ≤ 'Z'.val
    · have hle : c.val.toNat ≤ 'Z'.val.toNat := hcapital.2
      exact Nat.lt_of_le_of_lt hle (by decide)
    · have hself : c.toLower = c := dif_neg hcapital
      rwa [hself] at h
  · exact forall_ascii (P := fun c => c.toLower.toNat < 0x80) (by decide)

theorem toLower_toLower (c : Char) : c.toLower.toLower = c.toLower := by
  by_cases h : c.toNat < 0x80
  · exact forall_ascii (P := fun c => c.toLower.toLower = c.toLower) (by decide) h
  · have hcapital : ¬(c.val ≥ 'A'.val ∧ c.val ≤ 'Z'.val) := by
      rintro ⟨-, hle⟩
      have hle : c.val.toNat ≤ 'Z'.val.toNat := hle
      exact h (Nat.lt_of_le_of_lt hle (by decide))
    have hself : c.toLower = c := dif_neg hcapital
    rw [hself, hself]

theorem isForbidden_toLower {c : Char} (h : c.toNat < 0x80) :
    isForbidden c.toLower = isForbidden c :=
  forall_ascii (P := fun c => isForbidden c.toLower = isForbidden c) (by decide) h

@[simp] theorem lowerCase_lowerCase (name : List Char) :
    lowerCase (lowerCase name) = lowerCase name := by
  simp only [lowerCase, List.map_map, List.map_inj_left, Function.comp_apply, toLower_toLower,
    implies_true]

theorem isAscii_iff {cs : List Char} : Label.isAscii cs = true ↔ ∀ c ∈ cs, c.toNat < 0x80 := by
  simp [Label.isAscii]

@[simp] theorem isAscii_lowerCase (name : List Char) :
    Label.isAscii (lowerCase name) = Label.isAscii name := by
  simp only [Label.isAscii, lowerCase, List.all_map, Function.comp_def, toNat_toLower_lt_iff]

/-! ### Mapping and composition -/

theorem mapped?_of_isAscii {name : List Char} (h : ∀ c ∈ name, c.toNat < 0x80) :
    mapped? name = some (lowerCase name) := by
  have himages : name.mapM image? = some (name.map fun c => [c.toLower]) := by
    induction name with
    | nil => rfl
    | cons c cs ih =>
        rw [List.forall_mem_cons] at h
        rw [List.mapM_cons, ih h.2, image?, if_pos h.1]
        rfl
  rw [mapped?, himages, Option.map_some, ← List.flatMap_def, ← List.map_eq_flatMap, lowerCase]

/-- No composite is in ASCII. -/
theorem decompose?_of_ascii {c : Char} (h : c.toNat < 0x80) : decompose? c = none := by
  have hhangul : decomposeHangul? c.toNat = none := by
    rw [decomposeHangul?, if_neg (by omega)]
  have hall : compositions.all (fun row => row.2.all fun pair => 0x80 ≤ pair.2) = true := by
    decide +kernel
  have htable : compositions.findSome? (rowParts? c.toNat) = none := by
    rw [List.findSome?_eq_none_iff]
    intro row hrow
    rw [rowParts?, Option.map_eq_none_iff, List.find?_eq_none]
    intro pair hpair heq
    have hle : 0x80 ≤ pair.2 :=
      of_decide_eq_true (List.all_eq_true.1 (List.all_eq_true.1 hall row hrow) pair hpair)
    have heq : pair.2 = c.toNat := eq_of_beq heq
    omega
  rw [decompose?, hhangul, htable]
  rfl

/-- No mark is in ASCII. -/
theorem compose?_of_ascii (a : Char) {b : Char} (h : b.toNat < 0x80) : compose? a b = none := by
  have hhangul : composeHangul? a.toNat b.toNat = none := by
    rw [composeHangul?, if_neg (by omega), if_neg (by omega)]
  have hall : compositions.all (fun row => 0x80 ≤ row.1) = true := by decide +kernel
  have htable : compositions.lookup b.toNat = none := by
    rw [List.lookup_eq_none_iff]
    intro row hrow
    have hle : 0x80 ≤ row.1 := of_decide_eq_true (List.all_eq_true.1 hall row hrow)
    simp only [bne_iff_ne]
    omega
  rw [compose?, hhangul, htable]
  rfl

theorem combiningClass_of_ascii {c : Char} (h : c.toNat < 0x80) : combiningClass c = 0 := by
  have hall : combiningClasses.all (fun row => row.2.all fun r => 0x80 ≤ r.1) = true := by
    decide +kernel
  have hnone : combiningClasses.find? (fun row => row.2.has c) = none := by
    rw [List.find?_eq_none]
    intro row hrow hhas
    obtain ⟨r, hr, hle, -⟩ := Text.Ranges.exists_of_hasCode hhas
    have hlow : 0x80 ≤ r.1 :=
      of_decide_eq_true (List.all_eq_true.1 (List.all_eq_true.1 hall row hrow) r hr)
    omega
  rw [combiningClass, hnone]
  rfl

section

variable {cs : List Char} (h : ∀ c ∈ cs, c.toNat < 0x80)

include h

theorem decomposed_of_ascii : decomposed cs = cs := by
  induction cs with
  | nil => rfl
  | cons c cs ih =>
      rw [List.forall_mem_cons] at h
      have hlayers : layers 4 c = [c] := by
        rw [layers, decompose?_of_ascii h.1]
      have hrest : cs.flatMap (layers 4) = cs := ih h.2
      rw [decomposed, List.flatMap_cons, hlayers, hrest]
      rfl

/-- Characters without a class are not reordered. -/
theorem ordered_of_ascii : ordered cs = cs := by
  have hfold : ∀ out : List Char,
      cs.foldl (fun out c => settle c out) out = cs.reverse ++ out := by
    induction cs with
    | nil =>
        intro out
        rfl
    | cons c cs ih =>
        intro out
        rw [List.forall_mem_cons] at h
        have hsettle : settle c out = c :: out := by
          cases out with
          | nil => rfl
          | cons d ds => rw [settle, if_neg (by simp [combiningClass_of_ascii h.1])]
        rw [List.foldl_cons, hsettle, ih h.2, List.reverse_cons, List.append_assoc]
        rfl
  rw [ordered, hfold [], List.append_nil, List.reverse_reverse]

theorem composeFrom_of_ascii (s : Char) : composeFrom s [] cs = s :: cs := by
  induction cs generalizing s with
  | nil => rfl
  | cons c cs ih =>
      rw [List.forall_mem_cons] at h
      rw [composeFrom, isBlocked, compose?_of_ascii s h.1, combiningClass_of_ascii h.1, ih h.2]
      rfl

theorem composed_of_ascii : composed cs = cs := by
  cases cs with
  | nil => rfl
  | cons c cs =>
      rw [List.forall_mem_cons] at h
      rw [composed, if_pos (combiningClass_of_ascii h.1), composeFrom_of_ascii h.2]

/-- The composed form of an ASCII text is that text. -/
theorem normalized_of_ascii : normalized cs = cs := by
  rw [normalized, decomposed_of_ascii h, ordered_of_ascii h, composed_of_ascii h]

end

/-! ### Labels -/

theorem joinLabels_labels (name : List Char) : joinLabels (labels name) = name := by
  rw [joinLabels, labels, Text.pieces_eq_splitOn, List.intercalate_splitOn]

theorem isAscii_of_mem_labels {name label : List Char} (h : ∀ c ∈ name, c.toNat < 0x80)
    (hlabel : label ∈ labels name) : Label.isAscii label = true := by
  rw [isAscii_iff]
  intro c hc
  have hne : c ≠ '.' := by
    rintro rfl
    exact Text.not_mem_of_mem_pieces hlabel hc
  exact h c ((Text.mem_pieces_iff hne).1 ⟨label, hlabel, hc⟩)

/-! ### The ASCII form -/

/-- Whatever is checked of the labels, each is then written by itself. -/
theorem eq_of_labelwise {name image : List Char} (h : labelwiseAscii? name = some image) :
    image = joinLabels ((labels name).map Label.ascii) := by
  rw [labelwiseAscii?] at h
  obtain ⟨-, -, hlabels⟩ := Option.bind_eq_some_iff.1 h
  obtain ⟨meant, -, hdirection⟩ := Option.bind_eq_some_iff.1 hlabels
  obtain ⟨-, -, himage⟩ := Option.bind_eq_some_iff.1 hdirection
  exact (Option.some.inj himage).symm

section

variable {name image : List Char} (h : Label.isAscii name = true)

include h

theorem ascii_lowerCase : ∀ c ∈ lowerCase name, c.toNat < 0x80 :=
  isAscii_iff.1 ((isAscii_lowerCase name).trans h)

/-- What has to be checked of a name in ASCII is checked of its lower case. -/
theorem toAscii?_of_isAscii :
    toAscii? name =
      if isPlain name then if name.any isForbidden then none else some (lowerCase name)
      else labelwiseAscii? (lowerCase name) := by
  rw [toAscii?, mapped?_of_isAscii (isAscii_iff.1 h), Option.bind_some,
    normalized_of_ascii (ascii_lowerCase h)]
  rfl

/-- Labels in ASCII are written as they are. -/
theorem eq_of_labelwiseAscii? (himage : labelwiseAscii? (lowerCase name) = some image) :
    image = lowerCase name := by
  have hlabels : (labels (lowerCase name)).map Label.ascii = labels (lowerCase name) := by
    refine (List.map_congr_left fun label hlabel => ?_).trans (List.map_id _)
    rw [Label.ascii, if_pos (isAscii_of_mem_labels (ascii_lowerCase h) hlabel)]
    rfl
  rw [eq_of_labelwise himage, hlabels, joinLabels_labels]

/-- **The ASCII form of a name in ASCII is the name in lower case.** -/
theorem eq_of_toAscii? (himage : toAscii? name = some image) : image = lowerCase name := by
  rw [toAscii?_of_isAscii h] at himage
  split at himage
  · rw [Option.ite_none_left_eq_some] at himage
    exact (Option.some.inj himage.2).symm
  · exact eq_of_labelwiseAscii? h himage

/-- Lower case makes no difference. -/
theorem toAscii?_lowerCase : toAscii? (lowerCase name) = toAscii? name := by
  have hplain : isPlain (lowerCase name) = isPlain name := by
    rw [isPlain, isPlain, isAscii_lowerCase]
    change (_ && (labels (lowerCase (lowerCase name))).all _) = _
    rw [lowerCase_lowerCase]
    rfl
  have hforbidden : (lowerCase name).any isForbidden = name.any isForbidden := by
    rw [lowerCase, List.any_map, Bool.eq_iff_iff, List.any_eq_true, List.any_eq_true]
    refine exists_congr fun c => and_congr_right fun hc => ?_
    rw [Function.comp_apply, isForbidden_toLower (isAscii_iff.1 h c hc)]
  rw [toAscii?_of_isAscii ((isAscii_lowerCase name).trans h), toAscii?_of_isAscii h, hplain,
    hforbidden, lowerCase_lowerCase]

theorem toAscii?_of_toAscii? (himage : toAscii? name = some image) :
    toAscii? image = some image := by
  rw [eq_of_toAscii? h himage, toAscii?_lowerCase h, himage, eq_of_toAscii? h himage]

end

end HostRouting.Domain
