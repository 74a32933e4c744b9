/-
**The command line.**

There are three commands: one writes the script of kept settings, one prints the decision for each
host, and one downloads a rule list and may keep it in the settings.

Main definitions:

* `Command`, `Command.parse` — the commands, and the one that words give;
* `Outcome` — what a run prints and leaves behind;
* `Command.run`, `Command.respond` — the outcome of a command, and of words.
-/

import HostRouting.Command.Help
import HostRouting.Command.Words
import HostRouting.Routing.Snapshot
import HostRouting.Rules.Download
import HostRouting.Settings.File

set_option autoImplicit false

namespace HostRouting

/-- What the program is asked to do. -/
inductive Command where
  /-- Write the script of the settings in a file. -/
  | pac (config : String) (output : Option String) (verbose : Bool)
  /-- Print the decisions for hosts under the settings in a file. -/
  | decide (config : String) (hosts : List String)
  /-- Download a rule list, and keep it in the settings in a file. -/
  | fetch (url : String) (list : Mode) (config : Option String)
  deriving DecidableEq, Repr

namespace Command

/-! ### Words -/

/-- The switch for the file of settings. -/
def configSwitch : Switch := ⟨'c', "config", some (!·.isEmpty)⟩

/-- What the command for scripts takes. -/
def pacForm : Form where
  switches := [configSwitch, ⟨'o', "output", some (!·.isEmpty)⟩, ⟨'v', "verbose", none⟩]
  takesOperands := false

/-- What the command for decisions takes. -/
def decideForm : Form := ⟨[configSwitch], true⟩

/-- What the command for downloads takes. -/
def fetchForm : Form where
  switches :=
    [⟨'u', "url", some fun _ => true⟩, ⟨'l', "list", some fun s => (Mode.ofWord? s).isSome⟩,
      configSwitch]
  takesOperands := false

/-- A value that has to be given. -/
def required (value : Option String) : Except Stop String := value.elim (.error .nonsense) .ok

/-- The command for scripts. -/
def parsePac (words : List String) : Except Stop Command := do
  let g ← pacForm.given pacHelp words
  return .pac (← required (g.value? 'c')) (g.value? 'o') (g.has 'v')

/-- The command for decisions. -/
def parseDecide (words : List String) : Except Stop Command := do
  let g ← decideForm.given decideHelp words
  let config ← required (g.value? 'c')
  if g.operands.isEmpty then throw .nonsense
  return .decide config g.operands

/-- The command for downloads. -/
def parseFetch (words : List String) : Except Stop Command := do
  let g ← fetchForm.given fetchHelp words
  let list := ((g.value? 'l').bind Mode.ofWord?).getD .whitelist
  return .fetch (← required (g.value? 'u')) list (g.value? 'c')

/-- The help text for the names of commands. -/
def helpFor : List String → Stop
  | [] => .text mainHelp
  | ["pac"] => .text pacHelp
  | ["decide"] => .text decideHelp
  | ["fetch"] => .text fetchHelp
  | ["help"] => .text helpHelp
  | _ => .nonsense

/-- What a word in place of a command gives: the texts for help and for the version. -/
def stopFor (word : String) : Stop :=
  match word.toList with
  | '-' :: 'h' :: _ => .text mainHelp
  | '-' :: 'V' :: _ => .text versionText
  | _ =>
      if word = "--help" then .text mainHelp
      else if word = "--version" then .text versionText
      else .nonsense

/-- The command that words give. -/
def parse : List String → Except Stop Command
  | [] => .error .nonsense
  | "pac" :: words => parsePac words
  | "decide" :: words => parseDecide words
  | "fetch" :: words => parseFetch words
  | "help" :: names => .error (helpFor names)
  | word :: _ => .error (stopFor word)

end Command

/-! ### Runs -/

/-- What a run prints and leaves behind. -/
structure Outcome where
  exit : Nat
  stdout : String
  stderr : String
  files : Directory

namespace Command

/-- What a run has printed so far, and the directory. -/
structure Progress where
  stdout : String
  stderr : String
  files : Directory

namespace Progress

/-- A run that begins. -/
def start (d : Directory) : Progress := ⟨"", "", d⟩

/-- A text is printed. -/
def print (s : String) (p : Progress) : Progress := { p with stdout := p.stdout ++ s }

/-- A remark is printed. -/
def remark (s : String) (p : Progress) : Progress := { p with stderr := p.stderr ++ s }

/-- The run succeeds. -/
def succeed (p : Progress) : Outcome := ⟨0, p.stdout, p.stderr, p.files⟩

/-- The run fails. -/
def fail (message : String) (p : Progress) : Outcome :=
  ⟨1, p.stdout, p.stderr ++ "Error: " ++ message ++ "\n", p.files⟩

end Progress

/-- A number in a message. -/
def count (n : Nat) : String := String.ofList (Text.decimal n)

/-- The snapshot of settings. -/
def snapshot (s : Settings) : Snapshot := .ofConfig .standard s.toConfig

/-- What is remarked on a snapshot if asked for. -/
def summary (s : Snapshot) : String :=
  "Mode: " ++ s.config.mode.text ++ ", rules: " ++ count s.rules.size ++ " valid of "
    ++ count s.config.rules.length ++ ", proxy: " ++ s.proxy.text ++ "\n"

/-- Writes a script to a file, or prints it. -/
def writeScript (script : String) (output : Option String) (p : Progress) : Outcome :=
  match output with
  | none => (p.print script).succeed
  | some name =>
      match p.files.write (Path.ofText name) (Utf8.encodeText script) with
      | .error f => p.fail (Settings.fileMessage f)
      | .ok files =>
          ({ p with files := files }.print
            ("Generated " ++ Text.quotedName name ++ " (" ++ count script.utf8ByteSize
              ++ " bytes)\n")).succeed

/-- Runs the command for scripts. -/
def runPac (config : String) (output : Option String) (verbose : Bool) (p : Progress) : Outcome :=
  match Settings.load p.files (Path.ofText config) with
  | .error f => p.fail f.message
  | .ok settings =>
      let s := snapshot settings
      writeScript s.script.text output (if verbose then p.remark (summary s) else p)

/-- Runs the command for decisions. -/
def runDecide (config : String) (hosts : List String) (p : Progress) : Outcome :=
  match Settings.load p.files (Path.ofText config) with
  | .error f => p.fail f.message
  | .ok settings =>
      let s := snapshot settings
      (hosts.foldl (fun p host => p.print (host ++ "\t" ++ (s.decision host).text ++ "\n"))
        p).succeed

/-- Keeps a rule list in the settings in a file. -/
def keep (url : String) (list : Mode) (name : String) (l : RuleList) (p : Progress) : Outcome :=
  match Settings.load p.files (Path.ofText name) with
  | .error f => p.fail f.message
  | .ok settings =>
      match (settings.setUrlRules list url l).save p.files (Path.ofText name) with
      | (files, some f) => { p with files := files }.fail (Settings.fileMessage f)
      | (files, none) =>
          ({ p with files := files }.print
            ("Stored " ++ list.text ++ " rules in " ++ Text.quotedName name ++ "\n")).succeed

/-- Runs the command for downloads, where `e` is what becomes of the request. -/
def runFetch (url : String) (list : Mode) (config : Option String) (e : Exchange) (p : Progress) :
    Outcome :=
  match Download.fetch url e with
  | .error f => p.fail f.message
  | .ok l =>
      let p := p.print ("Fetched " ++ url ++ ": " ++ count l.rules.length ++ " valid rules, "
        ++ count l.ignored ++ " lines ignored\n")
      match config with
      | none => p.succeed
      | some name => keep url list name l p

/-- The paths of the files that a command reads or writes: with settings that are kept goes the file
that is written first. -/
def files : Command → List Path
  | .pac config output _ => Path.ofText config :: output.toList.map Path.ofText
  | .decide config _ => [Path.ofText config]
  | .fetch _ _ config =>
      config.toList.flatMap fun name =>
        [Path.ofText name, Settings.temporaryPath (Path.ofText name)]

/-- The paths of the files that words have read or written. -/
def paths (words : List String) : List Path := (parse words).toOption.elim [] files

/-- The outcome of a command in a directory, where `e` is what becomes of a request. -/
def run (c : Command) (d : Directory) (e : Exchange) : Outcome :=
  match c with
  | .pac config output verbose => runPac config output verbose (.start d)
  | .decide config hosts => runDecide config hosts (.start d)
  | .fetch url list config => runFetch url list config e (.start d)

/-- The exit code of words that make no sense. -/
def nonsenseExit : Nat := 2

/-- The outcome of words in a directory, where `e` is what becomes of a request. -/
def respond (words : List String) (d : Directory) (e : Exchange) : Outcome :=
  match parse words with
  | .ok c => c.run d e
  | .error (.text s) => ⟨0, s, "", d⟩
  | .error .nonsense => ⟨nonsenseExit, "", "For more information, try '--help'.\n", d⟩

end Command

end HostRouting
