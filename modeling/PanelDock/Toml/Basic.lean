import PanelDock.Decimal.Numeral
/-!
# TOML documents

A TOML document as a value. Tables remember how they came about, because that decides whether more
may be added to them: a table is opened by its own header, implied by the header of a table inside
it, made by a dotted key, or written in braces.
-/

namespace PanelDock

namespace Toml

/-- A number with a point or an exponent, or one of the special values. -/
inductive Number where
  | finite (numeral : Decimal.Numeral)
  | infinite (negative : Bool)
  | nan
deriving Repr

/-- How a table came about. -/
inductive Origin where
  /-- It has a header of its own. -/
  | header
  /-- The header of a table inside it was met first. -/
  | implied
  /-- A dotted key led through it. -/
  | dotted
  /-- It is written in braces and complete. -/
  | inline
deriving DecidableEq, Repr

end Toml

/-- A value of a TOML document. -/
inductive Toml where
  | string (text : String)
  | integer (n : Int)
  | float (x : Toml.Number)
  | boolean (b : Bool)
  /-- A date, a time, or both. -/
  | moment
  | array (elements : List Toml)
  | table (origin : Toml.Origin) (entries : List (String × Toml))
  /-- Tables with headers in double brackets. -/
  | tables (elements : List (List (String × Toml)))
deriving Repr, Inhabited

namespace Toml

/-- The entries of a table. -/
abbrev Entries := List (String × Toml)

/-- The value under a key. -/
def lookup (key : String) (entries : Entries) : Option Toml :=
  (entries.find? (fun e => e.1 == key)).map (·.2)

/-- Puts another value under a key that is there. -/
def overwrite (key : String) (value : Toml) (entries : Entries) : Entries :=
  entries.map (fun e => if e.1 == key then (key, value) else e)

/-! ## Building a document

The lines of a document are carried out one by one. Each changes a table that is found by its path.
-/

/-- Whether a path may lead through a table. A complete table is closed; a dotted key leads only
through tables without a header. -/
def mayEnter (dotted : Bool) : Origin → Bool
  | .header => !dotted
  | .implied => true
  | .dotted => true
  | .inline => false

/-- Changes the table at the end of a path. Tables that are missing on the way are made. Tables in
double brackets are entered at the last. -/
def edit (dotted : Bool) (change : Origin → Entries → Option Entries) :
    List String → Origin → Entries → Option Entries
  | [], origin, entries => change origin entries
  | key :: path, _, entries =>
    match lookup key entries with
    | none =>
      let origin := if dotted then .dotted else .implied
      (edit dotted change path origin []).map (fun inner => entries ++ [(key, .table origin inner)])
    | some (.table origin inner) =>
      if mayEnter dotted origin then
        (edit dotted change path origin inner).map
          (fun inner => overwrite key (.table origin inner) entries)
      else none
    | some (.tables elements) =>
      match elements.getLast? with
      | none => none
      | some last => (edit dotted change path .header last).map
          (fun inner => overwrite key (.tables (elements.dropLast ++ [inner])) entries)
    | some _ => none

/-- Puts a value under a dotted key. The key must be new, and the table that a dotted key leads to
must have been made by dotted keys alone. -/
def assign (path : List String) (key : String) (value : Toml)
    (entries : Entries) : Option Entries :=
  edit true (fun origin inner =>
    if (origin == .dotted) == path.isEmpty then none
    else if (lookup key inner).isSome then none
    else some (inner ++ [(key, value)])) path .header entries

/-- Opens a table by its header. It may have been implied before, but not more. -/
def openTable (path : List String) (key : String) (entries : Entries) : Option Entries :=
  edit false (fun _ inner => match lookup key inner with
    | none => some (inner ++ [(key, .table .header [])])
    | some (.table .implied content) => some (overwrite key (.table .header content) inner)
    | some _ => none) path .header entries

/-- Adds a table to those of one name by a header in double brackets. -/
def addTable (path : List String) (key : String) (entries : Entries) : Option Entries :=
  edit false (fun _ inner => match lookup key inner with
    | none => some (inner ++ [(key, .tables [[]])])
    | some (.tables elements) => some (overwrite key (.tables (elements ++ [[]])) inner)
    | some _ => none) path .header entries

/-- A line of a document. -/
inductive Line where
  | entry (path : List String) (key : String) (value : Toml)
  | header (path : List String) (key : String)
  | arrayHeader (path : List String) (key : String)

/-- Carries out the lines of a document, the entries of which belong to the table of the last
header. -/
def build : (current : List String) → Entries → List Line → Option Entries
  | _, entries, [] => some entries
  | current, entries, .entry path key value :: rest =>
    match edit false (fun _ inner => assign path key value inner) current .header entries with
    | none => none
    | some entries => build current entries rest
  | _, entries, .header path key :: rest =>
    match openTable path key entries with
    | none => none
    | some entries => build (path ++ [key]) entries rest
  | _, entries, .arrayHeader path key :: rest =>
    match addTable path key entries with
    | none => none
    | some entries => build (path ++ [key]) entries rest

/-- A complete table of these entries, whose keys may be dotted. -/
def inlineTable : Entries → List (List String × String × Toml) → Option Entries
  | entries, [] => some entries
  | entries, (path, key, value) :: rest =>
    match assign path key value entries with
    | none => none
    | some entries => inlineTable entries rest

end Toml

end PanelDock
