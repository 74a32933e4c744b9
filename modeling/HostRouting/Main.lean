/-
**The program.**

The words of the command line become a command, which runs on a directory read beforehand; what it
leaves behind is written back.  No connection is opened here, so a download never gets an answer.

Main definitions:

* `Program.observe` — what the system holds under the paths of a command;
* `Program.settle` — writes back what a run has changed;
* `main` — one run.
-/

import HostRouting.Command.Basic

set_option autoImplicit false

namespace HostRouting.Program

/-- What the system holds under a path. -/
def standing (p : Path) : IO (Option Directory.Entry) := do
  try
    return some (.file (← IO.FS.readBinFile p.text).toList)
  catch
    | .noFileOrDirectory .. => return none
    | .inappropriateType .. => return some .directory
    | e => throw e

/-- What the system holds under a path and under those above it; below a file there is nothing. -/
def observeAlong (d : Directory) (above : Path) : List String → IO Directory
  | [] => return d
  | name :: rest => do
      let here := above ++ [name]
      match ← standing here with
      | none => return d
      | some (.file bytes) => return d.insert here (.file bytes)
      | some .directory => observeAlong (d.insert here .directory) here rest

/-- What the system holds under paths. -/
def observe (ps : List Path) : IO Directory :=
  ps.foldlM (fun d p => observeAlong d [] p) Directory.empty

/-- Removes the files that a run has removed, and writes those that it has changed. -/
def settle (before after : Directory) : IO Unit := do
  for (p, _) in before.entries do
    if (after.entry? p).isNone then IO.FS.removeFile p.text
  for (p, e) in after.entries do
    if let .file bytes := e then
      if before.entry? p != some e then IO.FS.writeBinFile p.text ⟨bytes.toArray⟩

end HostRouting.Program

open HostRouting in
/-- Runs the command that the words give; its outcome is printed, and its exit code returned. -/
def main (words : List String) : IO UInt32 := do
  let before ← Program.observe (Command.paths words)
  let outcome := Command.respond words before .lost
  Program.settle before outcome.files
  (← IO.getStdout).putStr outcome.stdout
  (← IO.getStderr).putStr outcome.stderr
  return outcome.exit.toUInt32
