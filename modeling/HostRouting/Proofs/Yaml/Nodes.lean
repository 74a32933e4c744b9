/-
**The YAML node of a JSON text.**

The tokens of a JSON document are read as one node: truth values and texts are scalars, arrays are
sequences and objects are mappings.  Reading takes at most two calls for a token, one for the node
that begins with it and one for its content, and the reader has more than that.

Main definitions:

* `Json.node` — the node of a document in YAML;
* `Json.GivesNode` — that node is read from the tokens of the document, whatever follows them.

Main results:

* `Json.readFlowItems_tokens`, `Json.readFlowMembers_tokens` — items and members are read if the
  values in them are;
* `Json.givesNode` — every document gives its node;
* `Json.parse?_render` — **the text of an object is a YAML document, with every text refolded**, or
  none at all.
-/

import HostRouting.Proofs.Yaml.Tokens
import HostRouting.Yaml.Document

set_option autoImplicit false

namespace HostRouting.Json

open Yaml

/-! ### Nodes -/

/-- The node of a key. -/
def keyNode (key : Option String) : Node :=
  .scalar ⟨.doubleQuoted, none, String.ofList (key.elim [] String.toList)⟩

mutual

/-- The node of a document in YAML, where `f` is what YAML makes of a text. -/
def node (f : String → List Char) : Json → Node
  | .null => .scalar ⟨.plain, none, String.ofList "null".toList⟩
  | .bool b => .scalar ⟨.plain, none, String.ofList (boolWord b).toList⟩
  | .number n => .scalar ⟨.plain, none, String.ofList (numeralText n)⟩
  | .string s => .scalar ⟨.doubleQuoted, none, String.ofList (s.elim [] f)⟩
  | .array js => .sequence (nodes f js)
  | .object ms => .mapping (memberNodes f ms)

/-- The nodes of items. -/
def nodes (f : String → List Char) : List Json → List Node
  | [] => []
  | j :: js => node f j :: nodes f js

/-- The nodes of members. -/
def memberNodes (f : String → List Char) : List (Option String × Json) → List (Node × Node)
  | [] => []
  | (key, j) :: ms => (keyNode key, node f j) :: memberNodes f ms

end

/-! ### The first token -/

/-- Whether a node without properties begins with a token in a flow collection. -/
def beginsNode : Token → Bool
  | .scalar _ _ | .flowSequenceStart | .flowMappingStart => true
  | _ => false

theorem exists_tokens (f : String → List Char) (j : Json) :
    ∃ t ts, tokens f j = t :: ts ∧ beginsNode t = true := by
  cases j with
  | null => exact ⟨_, _, rfl, rfl⟩
  | bool b => exact ⟨_, _, rfl, rfl⟩
  | number n => exact ⟨_, _, rfl, rfl⟩
  | string s => exact ⟨_, _, rfl, rfl⟩
  | array js => cases js <;> exact ⟨_, _, rfl, rfl⟩
  | object ms =>
      rcases ms with _ | ⟨⟨key, j⟩, ms⟩ <;> exact ⟨_, _, rfl, rfl⟩

/-- A node that begins so has no properties. -/
theorem readNode_of_begins (meanings : TagMeanings) (fuel : Nat) (place : Place) {t : Token}
    (ts : List Token) (anchors : Anchors) (ht : beginsNode t = true) :
    readNode meanings (fuel + 1) place ⟨t :: ts, anchors⟩
      = readContent meanings fuel place ⟨none, none⟩ none ⟨t :: ts, anchors⟩ := by
  have hsame (o : Option (Node × Reading)) :
      (o.bind fun r => some (Properties.mark ⟨none, none⟩ anchors r.1, r.2)) = o := by
    cases o <;> rfl
  cases t with
  | scalar | flowSequenceStart | flowMappingStart => exact hsame _
  | _ => cases ht

/-! ### Values -/

variable {f : String → List Char}

/-- The node of a document is read from its tokens, whatever follows them. -/
def GivesNode (f : String → List Char) (j : Json) : Prop :=
  ∀ (meanings : TagMeanings) (fuel : Nat) (place : Place) (rest : List Token) (anchors : Anchors),
    2 * (tokens f j).length ≤ fuel →
      readNode meanings fuel place ⟨tokens f j ++ rest, anchors⟩
        = some (node f j, ⟨rest, anchors⟩)

theorem readNode_scalar {meanings : TagMeanings} {fuel : Nat} (h : 2 ≤ fuel) (place : Place)
    (style : Style) (text : List Char) (rest : List Token) (anchors : Anchors) :
    readNode meanings fuel place ⟨.scalar style text :: rest, anchors⟩
      = some (.scalar ⟨style, none, String.ofList text⟩, ⟨rest, anchors⟩) := by
  obtain ⟨fuel, rfl⟩ : ∃ k, fuel = k + 2 := ⟨fuel - 2, by omega⟩
  exact readNode_of_begins meanings (fuel + 1) place rest anchors rfl

theorem givesNode_of_scalar {j : Json} {style : Style} {text : List Char}
    (htokens : tokens f j = [.scalar style text])
    (hnode : node f j = .scalar ⟨style, none, String.ofList text⟩) : GivesNode f j := by
  intro meanings fuel place rest anchors hfuel
  rw [htokens] at hfuel
  rw [htokens, hnode]
  exact readNode_scalar hfuel place style text rest anchors

/-! ### Arrays -/

section

variable {meanings : TagMeanings} {fuel : Nat} {anchors : Anchors} {rest : List Token}

theorem isAt_of_begins {t : Token} (ht : beginsNode t = true) {ends : List Token}
    (hends : ∀ e ∈ ends, beginsNode e = false) (ts : List Token) :
    Reading.isAt ends ⟨t :: ts, anchors⟩ = false := by
  have hnot : t ∉ ends := by
    intro hmem
    rw [hends t hmem] at ht
    cases ht
  change ends.contains t = false
  rw [← Bool.not_eq_true, List.contains_iff_mem]
  exact hnot

/-- An item that is no pair is read as a node. -/
theorem readFlowItems_of_begins {first : Bool} {r : Reading} {t : Token} {ts : List Token}
    (hend : r.isAt [.flowSequenceEnd] = false) (hskip : skipComma first r = some ⟨t :: ts, anchors⟩)
    (ht : beginsNode t = true) :
    readFlowItems meanings (fuel + 1) first r
      = (readNode meanings fuel .flow ⟨t :: ts, anchors⟩).bind fun n =>
          (readFlowItems meanings fuel false n.2).bind fun ns => some (n.1 :: ns.1, ns.2) := by
  rw [readFlowItems, hend, hskip]
  cases t with
  | scalar | flowSequenceStart | flowMappingStart => rfl
  | _ => cases ht

/-- The items after the first are read up to the end of the sequence. -/
theorem readFlowItems_tokens (js : List Json) : ∀ {fuel : Nat}, (∀ j ∈ js, GivesNode f j) →
    2 * (itemTokens f js).length + 1 ≤ fuel →
      readFlowItems meanings fuel false ⟨itemTokens f js ++ .flowSequenceEnd :: rest, anchors⟩
        = some (nodes f js, ⟨rest, anchors⟩) := by
  induction js with
  | nil =>
      intro fuel _ hfuel
      obtain ⟨fuel, rfl⟩ : ∃ k, fuel = k + 1 := ⟨fuel - 1, by omega⟩
      rfl
  | cons j js ih =>
      intro fuel hgives hfuel
      obtain ⟨hj, hjs⟩ := List.forall_mem_cons.1 hgives
      simp only [itemTokens, List.length_append, List.length_singleton] at hfuel
      obtain ⟨fuel, rfl⟩ : ∃ k, fuel = k + 1 := ⟨fuel - 1, by omega⟩
      obtain ⟨t, ts, hts, ht⟩ := exists_tokens f j
      have hitem := hj meanings fuel .flow
        (itemTokens f js ++ .flowSequenceEnd :: rest) anchors (by omega)
      rw [hts, List.cons_append] at hitem
      have htext : itemTokens f (j :: js) ++ .flowSequenceEnd :: rest
          = .flowEntry :: (t :: (ts ++ (itemTokens f js ++ .flowSequenceEnd :: rest))) := by
        simp [itemTokens, hts]
      rw [htext, readFlowItems_of_begins rfl rfl ht, hitem, Option.bind_some,
        ih hjs (by omega), Option.bind_some]
      rfl

theorem givesNode_array (js : List Json) (hgives : ∀ j ∈ js, GivesNode f j) :
    GivesNode f (.array js) := by
  intro meanings fuel place rest anchors hfuel
  cases js with
  | nil =>
      obtain ⟨fuel, rfl⟩ : ∃ k, fuel = k + 3 := ⟨fuel - 3, by simp [tokens] at hfuel; omega⟩
      exact readNode_of_begins meanings (fuel + 2) place (.flowSequenceEnd :: rest) anchors rfl
  | cons j js =>
      obtain ⟨hj, hjs⟩ := List.forall_mem_cons.1 hgives
      simp only [tokens, List.length_append, List.length_singleton] at hfuel
      obtain ⟨fuel, rfl⟩ : ∃ k, fuel = k + 3 := ⟨fuel - 3, by omega⟩
      obtain ⟨t, ts, hts, ht⟩ := exists_tokens f j
      have hitem := hj meanings fuel .flow
        (itemTokens f js ++ .flowSequenceEnd :: rest) anchors (by omega)
      rw [hts, List.cons_append] at hitem
      have htext : tokens f (.array (j :: js)) ++ rest
          = .flowSequenceStart :: (t :: (ts ++ (itemTokens f js ++ .flowSequenceEnd :: rest))) := by
        simp [tokens, hts]
      have hitems : readFlowItems meanings (fuel + 1) true
            ⟨t :: (ts ++ (itemTokens f js ++ .flowSequenceEnd :: rest)), anchors⟩
          = some (nodes f (j :: js), ⟨rest, anchors⟩) := by
        rw [readFlowItems_of_begins (isAt_of_begins ht (by decide) _) rfl ht, hitem,
          Option.bind_some, readFlowItems_tokens js hjs (by omega)]
        rfl
      rw [htext, readNode_of_begins _ _ _ _ _ rfl]
      exact congrArg (Option.map fun r : List Node × Reading => (Node.sequence r.1, r.2)) hitems

/-! ### Objects -/

/-- A member with its value is read as two nodes. -/
theorem readFlowMembers_of_key {first : Bool} {r : Reading} {key : Option String} {t : Token}
    {ts : List Token} (hend : r.isAt [.flowMappingEnd] = false)
    (hskip : skipComma first r = some ⟨keyTokens key ++ t :: ts, anchors⟩) (hfuel : 2 ≤ fuel)
    (ht : beginsNode t = true) :
    readFlowMembers meanings (fuel + 1) first r
      = (readNode meanings fuel .flow ⟨t :: ts, anchors⟩).bind fun n =>
          (readFlowMembers meanings fuel false n.2).bind fun ms =>
            some ((keyNode key, n.1) :: ms.1, ms.2) := by
  have hkey : readUnless [.value, .flowEntry, .flowMappingEnd] (readNode meanings fuel .flow)
        ⟨.scalar .doubleQuoted (key.elim [] String.toList) :: .value :: t :: ts, anchors⟩
      = some (keyNode key, ⟨.value :: t :: ts, anchors⟩) := by
    rw [readUnless, isAt_of_begins rfl (by decide)]
    exact readNode_scalar hfuel .flow .doubleQuoted _ _ anchors
  have hvalue : readValue [.flowEntry, .flowMappingEnd] (readNode meanings fuel .flow)
        ⟨.value :: t :: ts, anchors⟩
      = readNode meanings fuel .flow ⟨t :: ts, anchors⟩ := by
    have hhere : Reading.isAt [.value] ⟨.value :: t :: ts, anchors⟩ = true := rfl
    have hskip : Reading.skip ⟨.value :: t :: ts, anchors⟩ = ⟨t :: ts, anchors⟩ := rfl
    rw [readValue, hhere, if_pos rfl, hskip, readUnless, isAt_of_begins ht (by decide)]
    rfl
  rw [readFlowMembers, hend, hskip]
  simp only [Bool.false_eq_true, ↓reduceIte, Option.bind_eq_bind, Option.bind_some, keyTokens,
    List.cons_append, List.nil_append, Reading.skip, List.drop_one, List.tail_cons, hkey, hvalue]

/-- The members after the first are read up to the end of the mapping. -/
theorem readFlowMembers_tokens (ms : List (Option String × Json)) : ∀ {fuel : Nat},
    (∀ m ∈ ms, GivesNode f m.2) → 2 * (memberTokens f ms).length + 1 ≤ fuel →
      readFlowMembers meanings fuel false ⟨memberTokens f ms ++ .flowMappingEnd :: rest, anchors⟩
        = some (memberNodes f ms, ⟨rest, anchors⟩) := by
  induction ms with
  | nil =>
      intro fuel _ hfuel
      obtain ⟨fuel, rfl⟩ : ∃ k, fuel = k + 1 := ⟨fuel - 1, by omega⟩
      rfl
  | cons m ms ih =>
      obtain ⟨key, j⟩ := m
      intro fuel hgives hfuel
      obtain ⟨hj, hms⟩ : GivesNode f j ∧ ∀ m ∈ ms, GivesNode f m.2 := List.forall_mem_cons.1 hgives
      have hkey : (keyTokens key).length = 3 := rfl
      simp only [memberTokens, List.length_append, List.length_singleton] at hfuel
      obtain ⟨fuel, rfl⟩ : ∃ k, fuel = k + 1 := ⟨fuel - 1, by omega⟩
      obtain ⟨t, ts, hts, ht⟩ := exists_tokens f j
      have hitem := hj meanings fuel .flow
        (memberTokens f ms ++ .flowMappingEnd :: rest) anchors (by omega)
      rw [hts, List.cons_append] at hitem
      have htext : memberTokens f ((key, j) :: ms) ++ .flowMappingEnd :: rest
          = .flowEntry :: (keyTokens key ++
            t :: (ts ++ (memberTokens f ms ++ .flowMappingEnd :: rest))) := by
        simp [memberTokens, hts]
      rw [htext, readFlowMembers_of_key rfl rfl (by omega) ht, hitem, Option.bind_some,
        ih hms (by omega), Option.bind_some]
      rfl

theorem givesNode_object (ms : List (Option String × Json)) (hgives : ∀ m ∈ ms, GivesNode f m.2) :
    GivesNode f (.object ms) := by
  intro meanings fuel place rest anchors hfuel
  cases ms with
  | nil =>
      obtain ⟨fuel, rfl⟩ : ∃ k, fuel = k + 3 := ⟨fuel - 3, by simp [tokens] at hfuel; omega⟩
      exact readNode_of_begins meanings (fuel + 2) place (.flowMappingEnd :: rest) anchors rfl
  | cons m ms =>
      obtain ⟨key, j⟩ := m
      obtain ⟨hj, hms⟩ : GivesNode f j ∧ ∀ m ∈ ms, GivesNode f m.2 := List.forall_mem_cons.1 hgives
      have hkey : (keyTokens key).length = 3 := rfl
      simp only [tokens, List.length_append, List.length_singleton] at hfuel
      obtain ⟨fuel, rfl⟩ : ∃ k, fuel = k + 3 := ⟨fuel - 3, by omega⟩
      obtain ⟨t, ts, hts, ht⟩ := exists_tokens f j
      have hitem := hj meanings fuel .flow
        (memberTokens f ms ++ .flowMappingEnd :: rest) anchors (by omega)
      rw [hts, List.cons_append] at hitem
      have htext : tokens f (.object ((key, j) :: ms)) ++ rest
          = .flowMappingStart :: (keyTokens key ++
            t :: (ts ++ (memberTokens f ms ++ .flowMappingEnd :: rest))) := by
        simp [tokens, hts]
      have hmembers : readFlowMembers meanings (fuel + 1) true
            ⟨keyTokens key ++ t :: (ts ++ (memberTokens f ms ++ .flowMappingEnd :: rest)), anchors⟩
          = some (memberNodes f ((key, j) :: ms), ⟨rest, anchors⟩) := by
        rw [readFlowMembers_of_key rfl rfl (by omega) ht, hitem, Option.bind_some,
          readFlowMembers_tokens ms hms (by omega)]
        rfl
      rw [htext, readNode_of_begins _ _ _ _ _ rfl]
      exact congrArg (Option.map fun r : List (Node × Node) × Reading => (Node.mapping r.1, r.2))
        hmembers

end

/-! ### Documents -/

/-- Every document gives its node: the parts of an array or object do so before it does. -/
theorem givesNode (f : String → List Char) : ∀ j : Json, GivesNode f j
  | .null => givesNode_of_scalar rfl rfl
  | .bool _ => givesNode_of_scalar rfl rfl
  | .number _ => givesNode_of_scalar rfl rfl
  | .string _ => givesNode_of_scalar rfl rfl
  | .array js => givesNode_array js fun j _ => givesNode f j
  | .object ms => givesNode_object ms fun (key, j) hm => by
      have hlt : sizeOf j < sizeOf ms := by
        have hmember := List.sizeOf_lt_of_mem hm
        rw [Prod.mk.sizeOf_spec] at hmember
        omega
      exact givesNode f j

theorem ofTokens?_tokens (f : String → List Char) (j : Json) :
    Document.ofTokens? (tokens f j) = some ⟨some (node f j), .empty⟩ := by
  obtain ⟨t, ts, hts, ht⟩ := exists_tokens f j
  have hread := givesNode f j standardMeanings (4 * (tokens f j).length + 4) .block [] .empty
    (by omega)
  rw [List.append_nil] at hread
  have hempty : (tokens f j).isEmpty = false := by rw [hts]; rfl
  have hbegins : beginsExplicitly (tokens f j) = false := by
    rw [hts]
    cases t with
    | scalar | flowSequenceStart | flowMappingStart => rfl
    | _ => cases ht
  rw [Document.ofTokens?, hempty, hbegins, readRoot, hread]
  rfl

/-- **The text of an object is a YAML document, with every text refolded**, provided that YAML
allows every text in it and makes something of it. -/
theorem parse?_render {ms : List (Option String × Json)}
    (h : membersAreTextual (fun _ => true) ms = true) :
    parse? (render 0 (.object ms)) =
      if membersAreTextual isAllowedText ms && membersAreTextual folds ms then
        some ⟨some (node refolded (.object ms)), .empty⟩
      else none := by
  rw [parse?, scan?_render h]
  split
  · exact ofTokens?_tokens refolded (.object ms)
  · rfl

end HostRouting.Json
