/-
**Directories.**

A directory holds files and directories under paths.  A path can be used only if every path above it
is a directory; what goes wrong is reported in the words of the system.

Main definitions:

* `Directory` — entries by their paths;
* `Directory.Fault` — why a path cannot be used, with `Directory.Fault.message`;
* `Directory.read`, `Directory.write`, `Directory.rename` — the operations on files.
-/

import HostRouting.Files.Path

set_option autoImplicit false

namespace HostRouting

namespace Directory

/-- Why a path cannot be used. -/
inductive Fault where
  | notFound
  | notDirectory
  | isDirectory
  /-- The octets of a file are not UTF-8. -/
  | notText
  deriving DecidableEq, Repr

/-- The wording of a fault. -/
def Fault.message : Fault → String
  | .notFound => "No such file or directory (os error 2)"
  | .notDirectory => "Not a directory (os error 20)"
  | .isDirectory => "Is a directory (os error 21)"
  | .notText => "stream did not contain valid UTF-8"

/-- What stands under a path. -/
inductive Entry where
  | file (bytes : List UInt8)
  | directory
  deriving DecidableEq, Repr

end Directory

/-- Entries by their paths. -/
structure Directory where
  entries : List (Path × Directory.Entry)
  deriving Repr

namespace Directory

/-- The directory without entries. -/
def empty : Directory := ⟨[]⟩

/-- What stands under a path.  One that does not end in a name leads to a directory, the path without
names to this one. -/
def entry? (d : Directory) (p : Path) : Option Entry :=
  if (Path.fileName? p).isNone then some .directory else d.entries.lookup p

/-- The directory without what stands under a path. -/
def erase (d : Directory) (p : Path) : Directory := ⟨d.entries.filter (·.1 != p)⟩

/-- The directory with an entry put under a path. -/
def insert (d : Directory) (p : Path) (e : Entry) : Directory := ⟨(d.erase p).entries ++ [(p, e)]⟩

/-- What keeps a path from being used: the first path above it that is no directory.  Nothing can
stand under the empty name. -/
def obstacle? (d : Directory) (above : Path) : List String → Option Fault
  | [] => none
  | [name] => if name.isEmpty then some .notFound else none
  | name :: rest =>
      let here := above ++ [name]
      match d.entry? here with
      | none => some .notFound
      | some (.file _) => some .notDirectory
      | some .directory => obstacle? d here rest

/-- The octets of a file. -/
def read (d : Directory) (p : Path) : Except Fault (List UInt8) :=
  match d.obstacle? [] p with
  | some f => .error f
  | none =>
      match d.entry? p with
      | none => .error .notFound
      | some .directory => .error .isDirectory
      | some (.file bytes) => .ok bytes

/-- Whether something stands under a path. -/
def has (d : Directory) (p : Path) : Bool := (d.obstacle? [] p).isNone && (d.entry? p).isSome

/-- The directory with a file written, which replaces an older one. -/
def write (d : Directory) (p : Path) (bytes : List UInt8) : Except Fault Directory :=
  match d.obstacle? [] p with
  | some f => .error f
  | none =>
      match d.entry? p with
      | some .directory => .error .isDirectory
      | _ => .ok (d.insert p (.file bytes))

/-- The directory with the file under `source` moved to `target`, where it replaces a file. -/
def rename (d : Directory) (source target : Path) : Except Fault Directory := do
  let bytes ← d.read source
  match d.obstacle? [] target with
  | some f => .error f
  | none =>
      match d.entry? target with
      | some .directory => .error .isDirectory
      | _ => .ok ((d.erase source).insert target (.file bytes))

end Directory

end HostRouting
