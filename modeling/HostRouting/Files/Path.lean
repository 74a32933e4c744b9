/-
**Paths and extensions.**

A path is a list of names.  The extension of a name is what follows its last full stop, unless that
stands at its very beginning; a name that ends in a full stop has an empty extension.  A path that
does not end in the name of a file, such as one that ends in two full stops, has no extension and is
given none.

Main definitions:

* `Path` — the names of a path, with `Path.ofText` and `Path.text`;
* `Path.fileName?` — the name in which a path ends;
* `Path.stem`, `Path.extension?` — the two parts of that name;
* `Path.withExtension` — a path with another extension.
-/

import HostRouting.Text.Lines

set_option autoImplicit false

namespace HostRouting

/-- A path: names from the directory in which it begins. -/
abbrev Path := List String

namespace Path

/-- The path that leads nowhere: the one of the empty text. -/
def nowhere : Path := [""]

/-- The path of a text, without empty names and single full stops.  A leading slash begins elsewhere
and counts as a name of its own.  A slash at the end is dropped as well, so `x.json/` is the path
`x.json`, where a system would ask for a directory; and two full stops stay in their place, so a path
is not followed up and down again. -/
def ofText (s : String) : Path :=
  if s.isEmpty then nowhere
  else
    let names := ((Text.pieces '/' s.toList).filter fun n => !(n.isEmpty || n == ['.'])).map
      String.ofList
    if s.toList.head? = some '/' then "/" :: names else names

/-- The text of a path; that of the path without names is a full stop. -/
def text : Path → String
  | [] => "."
  | "/" :: names => "/" ++ String.intercalate "/" names
  | names => String.intercalate "/" names

/-- The name in which a path ends.  The empty path, the slash at the beginning and two full stops are
not the name of anything. -/
def fileName? (p : Path) : Option String :=
  p.getLast?.filter fun name => !(name == "" || name == "/" || name == "..")

/-- Cuts a name at its last full stop: what precedes, and what follows if there is one. -/
def cut (name : List Char) : List Char × Option (List Char) :=
  let after := name.reverse.takeWhile (· != '.')
  if name.length ≤ after.length + 1 then (name, none)
  else (name.take (name.length - after.length - 1), some after.reverse)

/-- A name without its extension. -/
def stem (name : String) : String := String.ofList (cut name.toList).1

/-- The extension of the name in which a path ends. -/
def extension? (p : Path) : Option String :=
  (fileName? p).bind fun name => (cut name.toList).2.map String.ofList

/-- A path with another extension of the name in which it ends, if it ends in one. -/
def withExtension (p : Path) (extension : String) : Path :=
  match fileName? p with
  | none => p
  | some name => p.dropLast ++ [stem name ++ "." ++ extension]

end Path

end HostRouting
