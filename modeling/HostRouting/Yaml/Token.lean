/-
**Tokens of YAML.**

Main definitions:

* `Yaml.Style`, `Yaml.Tag` — how a scalar is written, and the tag in front of a node;
* `Yaml.Token` — what a YAML text is made of.
-/

set_option autoImplicit false

namespace HostRouting.Yaml

/-- How a scalar is written. -/
inductive Style where
  | plain
  | singleQuoted
  | doubleQuoted
  | literal
  | folded
  deriving DecidableEq, Repr

/-- A tag: the handle that stands for a beginning, and the rest.  The handle is empty if the tag is
given in full. -/
structure Tag where
  handle : List Char
  suffix : List Char
  deriving DecidableEq, Repr

/-- What a YAML text is made of. -/
inductive Token where
  /-- The directive that names the version of YAML. -/
  | version (major minor : Nat)
  /-- The directive that gives a tag handle its meaning. -/
  | tagMeaning (handle meaning : List Char)
  | documentStart
  | documentEnd
  /-- A block sequence begins here by its indentation. -/
  | blockSequenceStart
  /-- A block mapping begins here by its indentation. -/
  | blockMappingStart
  /-- The innermost block ends here by its indentation. -/
  | blockEnd
  | flowSequenceStart
  | flowSequenceEnd
  | flowMappingStart
  | flowMappingEnd
  /-- The hyphen in front of an item of a block sequence. -/
  | blockEntry
  /-- The comma behind an item of a flow collection. -/
  | flowEntry
  /-- A key follows. -/
  | key
  /-- A value follows. -/
  | value
  | alias (name : List Char)
  | anchor (name : List Char)
  | tag (t : Tag)
  | scalar (style : Style) (text : List Char)
  deriving DecidableEq, Repr

end HostRouting.Yaml
