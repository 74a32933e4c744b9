/-
**Settings in YAML.**

Plain scalars count as what they look like only where that is asked for: as truth values, and as
nothing where a text may be unset.  Every scalar can be read as a text.  An empty plain scalar
stands for an empty list, and a document without content for settings where nothing is set.

Main definitions:

* `Settings.yamlValues` — how values are read from YAML;
* `Settings.ofYaml?` — the settings of a YAML text.
-/

import HostRouting.Settings.Document
import HostRouting.Yaml.Document

set_option autoImplicit false

namespace HostRouting.Yaml

/-! ### Scalars -/

/-- The tag of truth values. -/
def boolTag : List Char := "tag:yaml.org,2002:bool".toList

/-- The tag of nothing. -/
def nullTag : List Char := "tag:yaml.org,2002:null".toList

/-- The spellings of truth values. -/
def boolWords : List (String × Bool) :=
  [("true", true), ("True", true), ("TRUE", true), ("false", false), ("False", false),
    ("FALSE", false)]

/-- The spellings of nothing, apart from nothing itself. -/
def nullWords : List String := ["null", "Null", "NULL", "~"]

/-- Whether nothing is written in a scalar. -/
def Scalar.isBlank (s : Scalar) : Bool := s.style == .plain && s.text.isEmpty

/-- The truth value of a scalar: a plain one, or a literal one that is tagged so. -/
def Scalar.bool? (s : Scalar) : Option Bool :=
  if s.style == .plain || (s.style == .literal && s.tag == some boolTag) then
    boolWords.lookup s.text
  else none

/-- The text of a scalar that may be nothing: a plain one without a tag may be spelled so, and a
plain one tagged so has to be. -/
def Scalar.optionalText? (s : Scalar) : Option (Option String) :=
  if s.style != .plain then some (some s.text)
  else if s.tag == some nullTag then if nullWords.contains s.text then some none else none
  else if s.tag.isSome then some (some s.text)
  else some (if s.text.isEmpty || nullWords.contains s.text then none else some s.text)

/-! ### Nodes -/

namespace Document

variable (d : Document)

/-- The scalar that a node stands for. -/
def scalar? (n : Node) : Option Scalar :=
  match d.target n with
  | .scalar s => some s
  | _ => none

/-- The text that a node stands for. -/
def text? (n : Node) : Option String := (d.scalar? n).map (·.text)

/-- The texts that a node stands for. -/
def texts? (n : Node) : Option (List String) :=
  match d.target n with
  | .sequence ns => ns.mapM d.text?
  | .scalar s => if s.isBlank then some [] else none
  | _ => none

/-- The members of a mapping by their keys, if every key is a text. -/
def named? (ms : List (Node × Node)) : Option (Record.Fields Node) :=
  ms.mapM fun (k, v) => (d.text? k).map (·, v)

end Document

end HostRouting.Yaml

namespace HostRouting.Settings

/-! ### Settings -/

/-- How values are read from YAML. -/
def yamlValues (d : Yaml.Document) : Values Yaml.Node where
  bool? n := (d.scalar? n).bind (·.bool?)
  text? := d.text?
  optionalText? n := (d.scalar? n).bind (·.optionalText?)
  texts? := d.texts?

/-- The fields that a document gives. -/
def yamlFields? (d : Yaml.Document) : Option (Record.Fields Yaml.Node) :=
  match d.root.map d.target with
  | none => some []
  | some (.mapping ms) => (d.named? ms).bind (Record.known? keys)
  | some (.scalar s) => if s.isBlank then some [] else none
  | some _ => none

/-- The settings of a YAML text. -/
def ofYaml? (text : List Char) : Option Settings := do
  let d ← Yaml.parse? text
  ofFields? (yamlValues d) (← yamlFields? d)

end HostRouting.Settings
