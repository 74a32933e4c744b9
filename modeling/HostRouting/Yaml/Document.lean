/-
**YAML documents.**

A text holds one document, in front of which directives may stand; more than one is refused.  A text
of blanks and remarks holds none.

Main definitions:

* `Yaml.Document` — the root of a document with its anchors;
* `Yaml.parse?` — the document of a text;
* `Yaml.Document.target` — the node that a node stands for.
-/

import HostRouting.Yaml.Node

set_option autoImplicit false

namespace HostRouting.Yaml

/-! ### Documents -/

/-- A document.  The root is `none` if the text holds no document. -/
structure Document where
  root : Option Node
  anchors : Anchors
  deriving Repr

/-- What the directives of a document say so far. -/
structure Directives where
  hasVersion : Bool
  meanings : TagMeanings
  deriving DecidableEq, Repr

/-- The directives in front of a document, and the tokens behind them.  The version is given once
at most and is 1.1 or 1.2; no handle is given two meanings. -/
def readDirectives (d : Directives) : List Token → Option (Directives × List Token)
  | .version major minor :: ts =>
      if d.hasVersion ∨ major ≠ 1 ∨ (minor ≠ 1 ∧ minor ≠ 2) then none
      else readDirectives { d with hasVersion := true } ts
  | .tagMeaning handle meaning :: ts =>
      if d.meanings.any (·.1 == handle) then none
      else readDirectives { d with meanings := d.meanings ++ [(handle, meaning)] } ts
  | ts => some (d, ts)

/-- Whether a document begins by its mark or by directives. -/
def beginsExplicitly : List Token → Bool
  | .version _ _ :: _ | .tagMeaning _ _ :: _ | .documentStart :: _ => true
  | _ => false

/-- Whether nothing stands between the mark of a document and what comes after the document. -/
def isEmptyDocument : List Token → Bool
  | [] | .documentEnd :: _ => true
  | ts => beginsExplicitly ts

/-- The root at the start of tokens. -/
def readRoot (meanings : TagMeanings) (ts : List Token) : Option (Node × Reading) :=
  readNode meanings (4 * ts.length + 4) .block ⟨ts, .empty⟩

/-- The root of a document that begins by its mark or by directives. -/
def readExplicit (ts : List Token) : Option (Node × Reading) := do
  let (d, ts) ← readDirectives ⟨false, []⟩ ts
  guard (ts.head? == some .documentStart)
  let ts := ts.drop 1
  if isEmptyDocument ts then readMissing ⟨ts, .empty⟩
  else readRoot (d.meanings ++ standardMeanings) ts

/-- The document of all tokens of a text. -/
def Document.ofTokens? (ts : List Token) : Option Document :=
  if ts.isEmpty then some ⟨none, .empty⟩
  else do
    let (root, r) ← if beginsExplicitly ts then readExplicit ts else readRoot standardMeanings ts
    guard (r.tokens.all (· == .documentEnd))
    some ⟨some root, r.anchors⟩

/-- The document of a text. -/
def parse? (text : List Char) : Option Document := (scan? text).bind Document.ofTokens?

/-! ### Aliases -/

mutual

/-- The node with the anchor at a place. -/
def Node.find? (place : Nat) : Node → Option Node
  | .scalar _ | .alias _ => none
  | .sequence ns => findAmong? place ns
  | .mapping ms => findAmongMembers? place ms
  | .anchored p n => if p = place then some n else n.find? place

/-- The node with the anchor at a place, among items. -/
def findAmong? (place : Nat) : List Node → Option Node
  | [] => none
  | n :: ns => (n.find? place).or (findAmong? place ns)

/-- The node with the anchor at a place, among members. -/
def findAmongMembers? (place : Nat) : List (Node × Node) → Option Node
  | [] => none
  | (k, v) :: ms => ((k.find? place).or (v.find? place)).or (findAmongMembers? place ms)

end

/-- The node with an anchor of a number, an empty scalar if there is none. -/
def Document.anchored (d : Document) (number : Nat) : Node :=
  ((d.anchors.place? number).bind fun place => d.root.bind (·.find? place)).getD
    (.scalar (.missing none))

/-- The node that a node stands for: without its anchor, and the target of an alias. -/
def Document.target (d : Document) : Node → Node
  | .alias number => d.anchored number
  | .anchored _ n => n
  | n => n

end HostRouting.Yaml
