import Notebook.Text.Basic

/-!
# TOML documents

A document is a table. Besides its entries a table keeps how it came to be, because that decides
what may still be added to it: a header may be given once, a table written in braces is closed, and
a dotted key adds only to tables that dotted keys made.

* `Toml.defineTable?`, `Toml.appendTable?` — what the headers `[a.b]` and `[[a.b]]` do;
* `Toml.assign?` — what a line `a.b = value` does under a header.
-/

namespace Notebook

/-- How a table came to be. -/
inductive TableOrigin where
  /-- It has a header of its own. -/
  | header
  /-- It is only on the way to a table that has a header. -/
  | passage
  /-- Dotted keys made it. -/
  | dotted
  /-- It was written in braces. -/
  | braces
deriving Repr, DecidableEq

/-- A value of a document. Dates are told apart from other values but not looked into. -/
inductive Toml where
  | string (value : Text)
  | integer (value : Int)
  | float (value : Float)
  | bool (value : Bool)
  | date
  | array (items : List Toml)
  | table (origin : TableOrigin) (entries : List (Text × Toml))
  | tables (items : List (List (Text × Toml)))

namespace Toml

/-- The entries of a table, in the order they were made. -/
abbrev Entries := List (Text × Toml)

/-- Replaces the entry of a key, or adds one at the end, as `change` tells from the value that is
there. -/
def alter? (key : Text) (change : Option Toml → Option Toml) : Entries → Option Entries
  | [] => (change none).map fun value => [(key, value)]
  | (k, value) :: rest =>
    if k = key then (change (some value)).map fun value => (k, value) :: rest
    else (alter? key change rest).map ((k, value) :: ·)

/-- Changes the last of several tables. -/
def alterLast? (change : Entries → Option Entries) : List Entries → Option (List Entries)
  | [] => none
  | [last] => (change last).map ([·])
  | first :: next :: more => (alterLast? change (next :: more)).map (first :: ·)

/-- Changes the table at a path of header keys, making the tables on the way. Of several tables with
one header, the last is meant. -/
def within? (change : Entries → Option Entries) : List Text → Entries → Option Entries
  | [], entries => change entries
  | key :: path, entries =>
    alter? key (fun
      | none => (within? change path []).map (.table .passage)
      | some (.table origin inner) =>
        if origin = .braces then none else (within? change path inner).map (.table origin)
      | some (.tables items) => (alterLast? (within? change path) items).map .tables
      | some _ => none) entries

/-- What a header `[path.key]` does. The table must be new, or have been only a passage. -/
def defineTable? (path : List Text) (key : Text) (root : Entries) : Option Entries :=
  within? (alter? key fun
    | none => some (.table .header [])
    | some (.table .passage inner) => some (.table .header inner)
    | some _ => none) path root

/-- What a header `[[path.key]]` does: one more table under that header. -/
def appendTable? (path : List Text) (key : Text) (root : Entries) : Option Entries :=
  within? (alter? key fun
    | none => some (.tables [[]])
    | some (.tables items) => some (.tables (items ++ [[]]))
    | some _ => none) path root

/-- Adds an entry under a dotted key. The table it goes into must be one that dotted keys made; a
passage may be gone through. A key can be given once. -/
def insertDotted? (value : Toml) : List Text → Entries → Option Entries
  | [], _ => none
  | [key], entries =>
    alter? key (fun
      | none => some value
      | some _ => none) entries
  | key :: next :: path, entries =>
    alter? key (fun
      | none => (insertDotted? value (next :: path) []).map (.table .dotted)
      | some (.table .dotted inner) =>
        (insertDotted? value (next :: path) inner).map (.table .dotted)
      | some (.table .passage inner) =>
        if path.isEmpty then none
        else (insertDotted? value (next :: path) inner).map (.table .passage)
      | some _ => none) entries

/-- What a line `keys = value` does under a header. -/
def assign? (header keys : List Text) (value : Toml) (root : Entries) : Option Entries :=
  within? (insertDotted? value keys) header root

/-- The value of a key. -/
def entry? (key : Text) (entries : Entries) : Option Toml :=
  (entries.find? (·.1 = key)).map (·.2)

end Toml
end Notebook
