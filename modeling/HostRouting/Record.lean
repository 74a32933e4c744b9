/-
**Fields of a record.**

A record is read from the fields that a document gives it, each under its key.  A key may be given
once at most, a missing field takes its default, and keys the record does not know have been left
out before.

Main definitions:

* `Record.Fields` — values by their keys;
* `Record.known?` — the fields with known keys, if none is given twice;
* `Record.field` — the value of a field, or its default.
-/

set_option autoImplicit false

namespace HostRouting.Record

variable {α β : Type}

/-- Values by their keys. -/
abbrev Fields (α : Type) := List (String × α)

/-- Whether no key is given twice. -/
def areDistinct : Fields α → Bool
  | [] => true
  | f :: fs => !fs.any (·.1 == f.1) && areDistinct fs

/-- The fields whose keys are known, if none of these is given twice. -/
def known? (keys : List String) (fs : Fields α) : Option (Fields α) :=
  let known := fs.filter fun f => keys.contains f.1
  if areDistinct known then some known else none

/-- The value of a field, or a default if the field is missing. -/
def field (fs : Fields α) (key : String) (value? : α → Option β) (default : β) : Option β :=
  match fs.lookup key with
  | some a => value? a
  | none => some default

@[simp] theorem field_nil (key : String) (value? : α → Option β) (default : β) :
    field [] key value? default = some default := rfl

end HostRouting.Record
