/-
**Settings in files.**

Settings are read from a JSON file, or from a YAML file if its extension says so; a missing file
stands for settings where nothing is set.  They are always written as JSON, first to a file beside
the target, with the extension `tmp`, which then takes the place of the target.

Main definitions:

* `Settings.Fault` — why settings cannot be read, with `Settings.Fault.message`;
* `Settings.load` — the settings of a file;
* `Settings.save` — the directory after the settings are written.
-/

import HostRouting.Files.Directory
import HostRouting.Json.Printer
import HostRouting.Json.Reader
import HostRouting.Settings.Yaml
import HostRouting.Text.Utf8

set_option autoImplicit false

namespace HostRouting.Settings

/-- Why settings cannot be read. -/
inductive Fault where
  | file (f : Directory.Fault)
  /-- The file holds no settings in JSON. -/
  | json
  /-- The file holds no settings in YAML. -/
  | yaml
  deriving DecidableEq, Repr

/-- The wording of a fault of a file. -/
def fileMessage (f : Directory.Fault) : String := "IO error: " ++ f.message

/-- The wording of a fault. -/
def Fault.message : Fault → String
  | .file f => fileMessage f
  | .json => "JSON parsing error"
  | .yaml => "YAML parsing error"

/-- Whether a path is one of a YAML file. -/
def isYamlPath (p : Path) : Bool := p.extension? == some "yaml" || p.extension? == some "yml"

/-- The settings of the text of a file. -/
def ofText (p : Path) (text : List Char) : Except Fault Settings :=
  if isYamlPath p then (ofYaml? text).elim (.error .yaml) .ok
  else ((Json.parseChars text).bind ofDocument?).elim (.error .json) .ok

/-- The settings of a file. -/
def load (d : Directory) (p : Path) : Except Fault Settings :=
  if d.has p then
    match d.read p with
    | .error f => .error (.file f)
    | .ok bytes =>
        match Utf8.decode? bytes with
        | none => .error (.file .notText)
        | some text => ofText p text
  else .ok standard

/-- The octets of the file of settings. -/
def bytes (s : Settings) : List UInt8 := Utf8.encodeText s.document.indented

/-- The path of the file that is written first. -/
def temporaryPath (p : Path) : Path := p.withExtension "tmp"

/-- The directory after the settings are written, and what went wrong.  If the file cannot take its
place, it stays where it was written. -/
def save (s : Settings) (d : Directory) (p : Path) : Directory × Option Directory.Fault :=
  match d.write (temporaryPath p) s.bytes with
  | .error f => (d, some f)
  | .ok written =>
      match written.rename (temporaryPath p) p with
      | .error f => (written, some f)
      | .ok moved => (moved, none)

end HostRouting.Settings
