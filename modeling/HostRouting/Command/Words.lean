/-
**The words of a command line.**

A word that begins with a hyphen names switches: two hyphens introduce a long name, one hyphen any
number of letters.  A switch with a value takes the rest of its word, after an equals sign if there
is one, or else the next word, unless that begins with a hyphen itself.  After a word of just two
hyphens everything is an operand.

Main definitions:

* `Switch`, `Form` — a switch, and the switches and operands that a command takes;
* `Form.items` — what words mean, up to the first that means nothing;
* `Given`, `Form.given` — the switches and operands given.
-/

set_option autoImplicit false

namespace HostRouting.Command

/-! ### Forms -/

/-- A switch: its letter, its long name, and which values it takes, if it takes any. -/
structure Switch where
  letter : Char
  name : String
  accepts : Option (String → Bool)

/-- The switches that a command takes beside the one for help, and whether it takes operands. -/
structure Form where
  switches : List Switch
  takesOperands : Bool

/-- What words mean. -/
inductive Item where
  | switch (s : Switch) (value : Option String)
  | operand (text : String)
  /-- The command is to be explained. -/
  | help
  /-- A word, or the lack of one, has no meaning. -/
  | nonsense

/-- Why there is nothing to run. -/
inductive Stop where
  /-- The words make no sense. -/
  | nonsense
  /-- This text is all that was asked for. -/
  | text (s : String)
  deriving DecidableEq, Repr

namespace Form

/-- The switch with a letter. -/
def byLetter? (f : Form) (c : Char) : Option Switch := f.switches.find? (·.letter == c)

/-- The switch with a long name. -/
def byName? (f : Form) (name : String) : Option Switch := f.switches.find? (·.name == name)

end Form

/-! ### Words -/

/-- Whether a word names switches. -/
def namesSwitches (word : String) : Bool :=
  match word.toList with
  | '-' :: _ :: _ => true
  | _ => false

/-- A value right behind the letter of its switch, without an equals sign. -/
def attached : List Char → String
  | '=' :: cs => String.ofList cs
  | cs => String.ofList cs

/-- What letters mean, and the switch among them that takes the next word as its value. -/
def Form.letters (f : Form) : List Char → List Item × Option Switch
  | [] => ([], none)
  | c :: cs =>
      if c = 'h' then ([.help], none)
      else
        match f.byLetter? c with
        | none => ([.nonsense], none)
        | some s =>
            match s.accepts, cs with
            | none, _ =>
                let (items, pending) := f.letters cs
                (.switch s none :: items, pending)
            | some _, [] => ([], some s)
            | some _, _ => ([.switch s (some (attached cs))], none)

/-- A long name, and the value behind its equals sign. -/
def cutName (cs : List Char) : String × Option String :=
  let name := cs.takeWhile (· != '=')
  (String.ofList name,
    if name.length < cs.length then some (String.ofList (cs.drop (name.length + 1))) else none)

/-- What a long name means, and the switch that takes the next word as its value. -/
def Form.long (f : Form) (cs : List Char) : List Item × Option Switch :=
  match cutName cs with
  | ("help", none) => ([.help], none)
  | (name, value) =>
      match f.byName? name with
      | none => ([.nonsense], none)
      | some s =>
          match s.accepts, value with
          | none, none => ([.switch s none], none)
          | none, some _ => ([.nonsense], none)
          | some _, none => ([], some s)
          | some _, some v => ([.switch s (some v)], none)

/-- What a word means that names switches. -/
def Form.word (f : Form) (word : String) : List Item × Option Switch :=
  match word.toList with
  | '-' :: '-' :: cs => f.long cs
  | cs => f.letters (cs.drop 1)

/-- What words mean; `pending` is a switch that takes the next word as its value. -/
def Form.itemsAfter (f : Form) (pending : Option Switch) : List String → List Item
  | [] => if pending.isSome then [.nonsense] else []
  | w :: ws =>
      match pending with
      | some s =>
          if namesSwitches w then [.nonsense]
          else .switch s (some w) :: f.itemsAfter none ws
      | none =>
          if w = "--" then ws.map .operand
          else if namesSwitches w then
            let (items, pending) := f.word w
            items ++ f.itemsAfter pending ws
          else .operand w :: f.itemsAfter none ws

/-- What words mean. -/
def Form.items (f : Form) (words : List String) : List Item := f.itemsAfter none words

/-! ### What is given -/

/-- The switches given, by their letters, and the operands. -/
structure Given where
  switches : List (Char × Option String)
  operands : List String
  deriving DecidableEq, Repr

namespace Given

/-- Nothing is given. -/
def nothing : Given := ⟨[], []⟩

/-- Whether a switch is given. -/
def has (g : Given) (letter : Char) : Bool := (g.switches.lookup letter).isSome

/-- The value of a switch. -/
def value? (g : Given) (letter : Char) : Option String := (g.switches.lookup letter).join

/-- What is given with one more switch. -/
def addSwitch (g : Given) (letter : Char) (value : Option String) : Given :=
  { g with switches := (letter, value) :: g.switches }

/-- What is given with one more operand. -/
def addOperand (g : Given) (text : String) : Given := { g with operands := g.operands ++ [text] }

end Given

/-- Whether a switch takes a value. -/
def Switch.takes (s : Switch) (value : Option String) : Bool :=
  match s.accepts, value with
  | some accepts, some v => accepts v
  | none, none => true
  | _, _ => false

/-- Collects what items give; no switch may be given twice. -/
def Form.collect (f : Form) (help : String) (g : Given) : List Item → Except Stop Given
  | [] => .ok g
  | .help :: _ => .error (.text help)
  | .nonsense :: _ => .error .nonsense
  | .switch s value :: more =>
      if g.has s.letter || !s.takes value then .error .nonsense
      else f.collect help (g.addSwitch s.letter value) more
  | .operand text :: more =>
      if f.takesOperands then f.collect help (g.addOperand text) more else .error .nonsense

/-- What words give. -/
def Form.given (f : Form) (help : String) (words : List String) : Except Stop Given :=
  f.collect help .nothing (f.items words)

end HostRouting.Command
