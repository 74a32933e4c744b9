/-
**From tokens to nodes.**

A node is a scalar, a sequence, a mapping, or an alias for a node with an anchor.
Anchors are numbered by the different names before them, and an alias keeps the number its name had
where the alias stands; it means the last node with an anchor of that number.  A node may be missing
where its place is clear; then it is an empty plain scalar.

Main definitions:

* `Yaml.Scalar`, `Yaml.Node` — scalars and nodes;
* `Yaml.Anchors` — the anchors so far;
* `Yaml.readNode` — the node at the start of tokens.
-/

import HostRouting.Yaml.Scanner

set_option autoImplicit false

namespace HostRouting.Yaml

/-! ### Nodes -/

/-- A scalar.  Its tag is `none` if it has none or one that leaves its kind open. -/
structure Scalar where
  style : Style
  tag : Option (List Char)
  text : String
  deriving DecidableEq, Repr

/-- The scalar that stands for a missing node. -/
def Scalar.missing (tag : Option (List Char)) : Scalar := ⟨.plain, tag, ""⟩

/-- A node. -/
inductive Node where
  | scalar (s : Scalar)
  | sequence (items : List Node)
  | mapping (members : List (Node × Node))
  /-- The node with an anchor of this number. -/
  | alias (number : Nat)
  /-- A node with an anchor, the one at this place among all anchors. -/
  | anchored (place : Nat) (n : Node)
  deriving Repr

/-! ### Anchors -/

/-- The anchors so far. -/
structure Anchors where
  /-- The number of each name. -/
  numbers : List (List Char × Nat)
  /-- The number of the anchor at each place. -/
  places : List Nat
  deriving DecidableEq, Repr

namespace Anchors

/-- No anchors. -/
def empty : Anchors := ⟨[], []⟩

/-- The anchors with one more, whose number is that of the different names before it. -/
def define (name : List Char) (a : Anchors) : Anchors :=
  let number := a.numbers.length
  ⟨(name, number) :: a.numbers.filter (·.1 != name), a.places ++ [number]⟩

/-- The last place at which an anchor has a number. -/
def place? (a : Anchors) (number : Nat) : Option Nat :=
  (a.places.zipIdx.reverse.find? (·.1 == number)).map (·.2)

end Anchors

/-! ### Tags -/

/-- What tag handles mean. -/
abbrev TagMeanings := List (List Char × List Char)

/-- What tag handles mean unless a directive says otherwise. -/
def standardMeanings : TagMeanings :=
  [("!".toList, "!".toList), ("!!".toList, "tag:yaml.org,2002:".toList)]

/-- A tag in full, `none` if its handle has no meaning. -/
def Tag.full? (meanings : TagMeanings) (t : Tag) : Option (List Char) :=
  if t.handle.isEmpty then some t.suffix else (meanings.lookup t.handle).map (· ++ t.suffix)

/-- What stands in front of a node: an anchor and a tag, in either order. -/
structure Properties where
  anchor : Option (List Char)
  tag : Option Tag
  deriving DecidableEq, Repr

namespace Properties

/-- The properties at the start of tokens, and the tokens behind them. -/
def read : List Token → Properties × List Token
  | .anchor a :: .tag t :: ts => (⟨some a, some t⟩, ts)
  | .tag t :: .anchor a :: ts => (⟨some a, some t⟩, ts)
  | .anchor a :: ts => (⟨some a, none⟩, ts)
  | .tag t :: ts => (⟨none, some t⟩, ts)
  | ts => (⟨none, none⟩, ts)

/-- Whether there are no properties. -/
def isEmpty (p : Properties) : Bool := p.anchor.isNone && p.tag.isNone

/-- The anchors with the one among the properties. -/
def define (p : Properties) (a : Anchors) : Anchors :=
  match p.anchor with
  | some name => a.define name
  | none => a

/-- A node with the anchor among the properties, which has the last place before `a`. -/
def mark (p : Properties) (a : Anchors) (n : Node) : Node :=
  if p.anchor.isSome then .anchored a.places.length n else n

end Properties

/-! ### Reading -/

/-- What is left to read, and the anchors so far. -/
structure Reading where
  tokens : List Token
  anchors : Anchors
  deriving DecidableEq, Repr

namespace Reading

/-- Whether one of the given tokens comes next. -/
def isAt (ts : List Token) (r : Reading) : Bool := (r.tokens.head?.map ts.contains).getD false

/-- The reading behind the next token. -/
def skip (r : Reading) : Reading := { r with tokens := r.tokens.drop 1 }

end Reading

/-- Where a node stands. -/
inductive Place where
  /-- In a flow collection, where no block begins. -/
  | flow
  /-- In a block. -/
  | block
  /-- In a block mapping, where the items of a sequence need no further indentation. -/
  | member
  deriving DecidableEq, Repr

/-- A missing node. -/
def readMissing (r : Reading) : Option (Node × Reading) := some (.scalar (.missing none), r)

/-- A node, missing if one of the tokens `ends` comes next. -/
def readUnless (ends : List Token) (read : Reading → Option (Node × Reading)) (r : Reading) :
    Option (Node × Reading) :=
  if r.isAt ends then readMissing r else read r

/-- The value of a member, missing without its mark or if one of the tokens `ends` follows it. -/
def readValue (ends : List Token) (read : Reading → Option (Node × Reading)) (r : Reading) :
    Option (Node × Reading) :=
  if r.isAt [.value] then readUnless ends read r.skip else readMissing r

/-- The key of a single pair in a flow sequence.  Where it is missing, the token that shows this is
passed over as well. -/
def readPairKey (read : Reading → Option (Node × Reading)) (r : Reading) :
    Option (Node × Reading) :=
  if r.isAt [.value, .flowEntry, .flowSequenceEnd] then readMissing r.skip else read r

/-- The reading behind the comma that every item of a flow collection but the first needs. -/
def skipComma (first : Bool) (r : Reading) : Option Reading :=
  if first then some r else if r.isAt [.flowEntry] then some r.skip else none

/-- The content of a node that has only properties. -/
def readNothing (p : Properties) (tag : Option (List Char)) (r : Reading) :
    Option (Node × Reading) :=
  if p.isEmpty then none else some (.scalar (.missing tag), r)

mutual

/-- A node. -/
def readNode (meanings : TagMeanings) (fuel : Nat) (place : Place) (r : Reading) :
    Option (Node × Reading) :=
  match fuel with
  | 0 => none
  | fuel + 1 =>
      match r.tokens with
      | .alias name :: _ =>
          (r.anchors.numbers.lookup name).map fun number => (.alias number, r.skip)
      | tokens => do
          let (p, rest) := Properties.read tokens
          let tag ← match p.tag with
            | some t => (t.full? meanings).map some
            | none => some none
          let (n, after) ← readContent meanings fuel place p tag ⟨rest, p.define r.anchors⟩
          some (p.mark r.anchors n, after)

/-- A node behind its properties. -/
def readContent (meanings : TagMeanings) (fuel : Nat) (place : Place) (p : Properties)
    (tag : Option (List Char)) (r : Reading) : Option (Node × Reading) :=
  match fuel with
  | 0 => none
  | fuel + 1 =>
      match r.tokens, place with
      | .scalar style text :: _, _ =>
          some (.scalar ⟨style, tag.filter (· != ['!']), String.ofList text⟩, r.skip)
      | .flowSequenceStart :: _, _ =>
          (readFlowItems meanings fuel true r.skip).map fun (ns, r) => (.sequence ns, r)
      | .flowMappingStart :: _, _ =>
          (readFlowMembers meanings fuel true r.skip).map fun (ms, r) => (.mapping ms, r)
      | _, .flow => readNothing p tag r
      | .blockSequenceStart :: _, _ =>
          (readBlockItems meanings fuel r.skip).map fun (ns, r) => (.sequence ns, r)
      | .blockMappingStart :: _, _ =>
          (readBlockMembers meanings fuel r.skip).map fun (ms, r) => (.mapping ms, r)
      | .blockEntry :: _, .member =>
          (readItems meanings fuel r).map fun (ns, r) => (.sequence ns, r)
      | _, _ => readNothing p tag r

/-- The items of a block sequence up to its end. -/
def readBlockItems (meanings : TagMeanings) (fuel : Nat) (r : Reading) :
    Option (List Node × Reading) :=
  match fuel with
  | 0 => none
  | fuel + 1 =>
      match r.tokens with
      | .blockEntry :: _ => do
          let (n, r) ← readUnless [.blockEntry, .blockEnd] (readNode meanings fuel .block) r.skip
          let (ns, r) ← readBlockItems meanings fuel r
          some (n :: ns, r)
      | .blockEnd :: _ => some ([], r.skip)
      | _ => none

/-- The items of a sequence that is indented no further than the mapping around it. -/
def readItems (meanings : TagMeanings) (fuel : Nat) (r : Reading) :
    Option (List Node × Reading) :=
  match fuel with
  | 0 => none
  | fuel + 1 =>
      match r.tokens with
      | .blockEntry :: _ => do
          let (n, r) ← readUnless [.blockEntry, .key, .value, .blockEnd]
            (readNode meanings fuel .block) r.skip
          let (ns, r) ← readItems meanings fuel r
          some (n :: ns, r)
      | _ => some ([], r)

/-- The members of a block mapping up to its end. -/
def readBlockMembers (meanings : TagMeanings) (fuel : Nat) (r : Reading) :
    Option (List (Node × Node) × Reading) :=
  match fuel with
  | 0 => none
  | fuel + 1 =>
      match r.tokens with
      | .key :: _ => do
          let ends := [.key, .value, .blockEnd]
          let (k, r) ← readUnless ends (readNode meanings fuel .member) r.skip
          let (v, r) ← readValue ends (readNode meanings fuel .member) r
          let (ms, r) ← readBlockMembers meanings fuel r
          some ((k, v) :: ms, r)
      | .blockEnd :: _ => some ([], r.skip)
      | _ => none

/-- The items of a flow sequence up to its end; a pair among them is a mapping of its own. -/
def readFlowItems (meanings : TagMeanings) (fuel : Nat) (first : Bool) (r : Reading) :
    Option (List Node × Reading) :=
  match fuel with
  | 0 => none
  | fuel + 1 =>
      if r.isAt [.flowSequenceEnd] then some ([], r.skip)
      else do
        let r ← skipComma first r
        match r.tokens with
        | .flowSequenceEnd :: _ => some ([], r.skip)
        | .key :: _ =>
            let (k, r) ← readPairKey (readNode meanings fuel .flow) r.skip
            let (v, r) ← readValue [.flowEntry, .flowSequenceEnd] (readNode meanings fuel .flow) r
            let (ns, r) ← readFlowItems meanings fuel false r
            some (.mapping [(k, v)] :: ns, r)
        | _ =>
            let (n, r) ← readNode meanings fuel .flow r
            let (ns, r) ← readFlowItems meanings fuel false r
            some (n :: ns, r)

/-- The members of a flow mapping up to its end; a node without the mark of a key has no value. -/
def readFlowMembers (meanings : TagMeanings) (fuel : Nat) (first : Bool) (r : Reading) :
    Option (List (Node × Node) × Reading) :=
  match fuel with
  | 0 => none
  | fuel + 1 =>
      if r.isAt [.flowMappingEnd] then some ([], r.skip)
      else do
        let r ← skipComma first r
        match r.tokens with
        | .flowMappingEnd :: _ => some ([], r.skip)
        | .key :: _ =>
            let (k, r) ← readUnless [.value, .flowEntry, .flowMappingEnd]
              (readNode meanings fuel .flow) r.skip
            let (v, r) ← readValue [.flowEntry, .flowMappingEnd] (readNode meanings fuel .flow) r
            let (ms, r) ← readFlowMembers meanings fuel false r
            some ((k, v) :: ms, r)
        | _ =>
            let (k, r) ← readNode meanings fuel .flow r
            let (ms, r) ← readFlowMembers meanings fuel false r
            some ((k, .scalar (.missing none)) :: ms, r)

end

end HostRouting.Yaml
