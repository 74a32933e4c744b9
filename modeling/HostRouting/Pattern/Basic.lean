/-
**Host patterns.**

A pattern has one of three forms.  `.base` matches the host `base` and every host below it, `*.base`
only the hosts below it, and every other pattern is a glob for the whole host.  In the first two
forms the base is taken as it stands, wildcards included.  Comparison keeps letter case.

Main definitions:

* `Pattern` — the three forms;
* `Pattern.parse` — the pattern of a text, or why it is none;
* `Pattern.text` — the text of a pattern;
* `Pattern.matchesHost` — whether it matches a host;
* `matchesText` — the same for the text of a pattern.
-/

import HostRouting.Pattern.Fault
import HostRouting.Pattern.Regex
import HostRouting.Text.Utf8

set_option autoImplicit false

namespace HostRouting

namespace Pattern

/-! ### Forms -/

/-- What stands after a leading full stop. -/
def afterDot? : List Char → Option (List Char)
  | '.' :: base => some base
  | _ => none

/-- What stands after a leading `*.`. -/
def afterStarDot? : List Char → Option (List Char)
  | '*' :: '.' :: base => some base
  | _ => none

/-- Whether a text is a glob: a valid pattern that has neither of the other two forms. -/
def isGlob (source : String) : Bool :=
  isValid source && (afterDot? source.toList).isNone && (afterStarDot? source.toList).isNone

/-- A glob as a pattern. -/
structure GlobText where
  source : String
  isGlob_source : isGlob source = true
  deriving DecidableEq, Repr

end Pattern

/-- A host pattern. -/
inductive Pattern where
  /-- The host `base` and every host below it. -/
  | dotted (base : String)
  /-- Every host below `base`. -/
  | starred (base : String)
  /-- Every host that the glob takes. -/
  | glob (g : Pattern.GlobText)
  deriving DecidableEq, Repr

namespace Pattern

/-! ### Reading and writing -/

/-- The form of a valid text: a leading full stop comes first. -/
def ofValid (text : String) (h : isValid text = true) : Pattern :=
  match hd : afterDot? text.toList with
  | some base => .dotted (String.ofList base)
  | none =>
      match hs : afterStarDot? text.toList with
      | some base => .starred (String.ofList base)
      | none => .glob ⟨text, by simp [isGlob, h, hd, hs]⟩

/-- The pattern of a text, or why it is none. -/
def parse (text : String) : Except Fault Pattern :=
  match h : fault? text with
  | some fault => .error fault
  | none => .ok (ofValid text (isValid_iff.2 h))

/-- The text of a pattern. -/
def text : Pattern → String
  | .dotted base => "." ++ base
  | .starred base => "*." ++ base
  | .glob g => g.source

/-- The regular expression of a glob. -/
def GlobText.regex (g : GlobText) : Regex := Regex.ofGlob g.source.toList

@[simp] theorem text_dotted (base : String) : (dotted base).text = "." ++ base := rfl

@[simp] theorem text_starred (base : String) : (starred base).text = "*." ++ base := rfl

@[simp] theorem text_glob (g : GlobText) : (glob g).text = g.source := rfl

/-! ### Matching -/

/-- Whether `host` ends in `base` with a full stop right before it, compared octet by octet. -/
def isBelow (host base : List UInt8) : Bool :=
  base.length < host.length && base.isSuffixOf host
    && host[host.length - base.length - 1]? == some 0x2E

/-- Whether a host lies below a base. -/
def isSubdomain (host base : String) : Bool :=
  isBelow (Utf8.encodeText host) (Utf8.encodeText base)

/-- Whether a pattern matches a host. -/
def matchesHost : Pattern → String → Bool
  | .dotted base, host => host == base || isSubdomain host base
  | .starred base, host => isSubdomain host base
  | .glob g, host => Glob.accepts g.source.toList host.toList

end Pattern

/-- Whether the text of a pattern matches a host; a text that is no pattern matches none. -/
def matchesText (text host : String) : Bool :=
  match Pattern.parse text with
  | .ok p => p.matchesHost host
  | .error _ => false

end HostRouting
