/-
TOML documents as trees of tables. Where a table came from decides what may still be added to it:
a table that a header names is complete once the next header comes, a table that a dotted key
implies is open to other dotted keys, and a table written as a value is closed.
-/
namespace LineRules

namespace Toml

/-- Where a table came from. -/
inductive Origin
  /-- A header names it. -/
  | header
  /-- A longer header leads through it. -/
  | passage
  /-- A dotted key leads through it. -/
  | dotted
  /-- It is written as a value. -/
  | inline
  deriving Repr, DecidableEq, Inhabited

end Toml

/-- A TOML value. The values of numbers, dates and times are not kept. -/
inductive Toml
  | string (s : String)
  | boolean (b : Bool)
  | number
  | moment
  | array (items : List Toml)
  | table (origin : Toml.Origin) (entries : List (String × Toml))
  /-- The tables of headers in double brackets, in order. -/
  | tables (elements : List Toml)
  deriving Repr, Inhabited

namespace Toml

/-- The keys of a table with their values, in order. -/
abbrev Entries := List (String × Toml)

/-! ## Adding to tables -/

/-- Sets the value of a key, in its place if there is one already. -/
def Entries.set (entries : Entries) (key : String) (value : Toml) : Entries :=
  if entries.any (·.1 == key) then
    entries.map fun e => if e.1 == key then (key, value) else e
  else entries ++ [(key, value)]

/-- Changes a table that is reached from `entries` by a path, which makes the tables it needs. A
dotted path does not lead through tables that a header names; no path leads through a value. In an
array of tables the path goes on in the latest. -/
def changeAt (dotted : Bool) (change : Origin → Entries → Option Entries) :
    List String → Origin → Entries → Option Entries
  | [], origin, entries => change origin entries
  | key :: rest, _, entries => do
    match entries.lookup key with
    | none =>
      let origin := if dotted then .dotted else .passage
      let inner ← changeAt dotted change rest origin []
      return entries.set key (.table origin inner)
    | some (.table origin inner) =>
      if origin = .inline ∨ (dotted ∧ origin = .header) then none
      else
        let inner ← changeAt dotted change rest origin inner
        return entries.set key (.table origin inner)
    | some (.tables elements) =>
      match elements.getLast? with
      | some (.table origin inner) =>
        let inner ← changeAt dotted change rest origin inner
        return entries.set key (.tables (elements.dropLast ++ [.table origin inner]))
      | _ => none
    | some _ => none

/-- Adds a value under a key that must be new. -/
def addKey (key : String) (value : Toml) (entries : Entries) : Option Entries :=
  if entries.any (·.1 == key) then none else some (entries ++ [(key, value)])

/-- Adds a value under a dotted key. Only a table that dotted keys made is open to dotted keys. -/
def addDotted (path : List String) (key : String) (value : Toml) (origin : Origin)
    (entries : Entries) : Option Entries :=
  changeAt true
    (fun origin entries =>
      if path ≠ [] ∧ origin ≠ .dotted then none else addKey key value entries)
    path origin entries

/-- Opens the table that a header names. A table through which a longer header led may still be
opened, once. -/
def openTable (key : String) (_ : Origin) (entries : Entries) : Option Entries :=
  match entries.lookup key with
  | none => some (entries.set key (.table .header []))
  | some (.table .passage inner) => some (entries.set key (.table .header inner))
  | some _ => none

/-- Opens another table of the array that a header in double brackets names. -/
def openElement (key : String) (_ : Origin) (entries : Entries) : Option Entries :=
  match entries.lookup key with
  | none => some (entries.set key (.tables [.table .header []]))
  | some (.tables elements) => some (entries.set key (.tables (elements ++ [.table .header []])))
  | some _ => none

end Toml

end LineRules
