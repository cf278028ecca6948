import ProjectTags.Text.Basic

/-!
# TOML values and tables

The values of a TOML document. Tables and lists remember how they came to be, because that decides
what may still be added to them while the document is read; a reader of a finished document does
not look at it.

A document names a table only once: by a header of its own, by dotted keys, or between braces.
The tables on the way to a named one come to be by themselves and may be named later. `alter` goes
to a table along a path of names and makes those that are missing; `assign` puts a value under a
dotted key, and `open` and `extend` begin the table of a header.
-/

namespace ProjectTags.Toml

/-- How a table came to be. -/
inductive Origin where
  /-- It has a header of its own. -/
  | header
  /-- It stands on the way to a table that has a header. -/
  | implied
  /-- It stands on the way to a value with a dotted key. -/
  | dotted
  /-- It is written between braces, with everything that is in it. -/
  | inline
  deriving DecidableEq, Repr

/-- A value of a document. -/
inductive Value where
  | text (content : Text)
  | boolean (value : Bool)
  | integer (value : Int)
  /-- A number with a fraction or an exponent, as it is written. -/
  | decimal (written : Text)
  /-- A date, a time or both, in its canonical form. -/
  | moment (canonical : Text)
  /-- A list, which is open if it is made of the tables under repeated headers. -/
  | list (isOpen : Bool) (items : List Value)
  | table (origin : Origin) (entries : List (Text × Value))
  deriving Inhabited

/-- The values of a table by their keys. -/
abbrev Entries := List (Text × Value)

namespace Entries

/-- Puts a value in the place of the one with the same key. -/
def replace (entries : Entries) (key : Text) (value : Value) : Entries :=
  entries.map fun entry => if entry.1 = key then (key, value) else entry

end Entries

end ProjectTags.Toml

namespace ProjectTags.Toml.Entries

/-- Changes the table to which names lead, on the way of a dotted key or of a header. A name of
repeated headers leads to the table of the last of them. No way leads into a table between braces,
and dotted keys do not go through tables that have headers. -/
def alter (byKey : Bool) (change : Origin → Entries → Option Entries) :
    List Text → Origin → Entries → Option Entries
  | [], origin, entries => change origin entries
  | name :: path, _, entries =>
      let through (origin : Origin) (inner : Entries) : Option Value :=
        if origin = .inline || (byKey && origin = .header) then none
        else (alter byKey change path origin inner).map (.table origin)
      match entries.lookup name with
      | none => do
          let origin := if byKey then Origin.dotted else Origin.implied
          let inner ← alter byKey change path origin []
          return entries ++ [(name, .table origin inner)]
      | some (.table origin inner) => do
          return entries.replace name (← through origin inner)
      | some (.list true items) =>
          match items.getLast? with
          | some (.table origin inner) => do
              let inner ← alter byKey change path origin inner
              return entries.replace name (.list true (items.dropLast ++ [.table origin inner]))
          | _ => none
      | some _ => none

/-- Puts a value under a name that is not taken. -/
def add (entries : Entries) (name : Text) (value : Value) : Option Entries :=
  if (entries.lookup name).isSome then none else some (entries ++ [(name, value)])

/-- Puts a value under a dotted key. A key of several names ends in a table made by such keys. -/
def assign (entries : Entries) (key : List Text) (value : Value) : Option Entries :=
  match key.getLast? with
  | none => none
  | some name =>
      let path := key.dropLast
      alter true (fun origin table =>
        if path.isEmpty || origin = .dotted then table.add name value else none)
        path .header entries

/-- Begins the table of a header. -/
def begin (entries : Entries) (key : List Text) : Option Entries :=
  match key.getLast? with
  | none => none
  | some name =>
      alter false (fun _ table =>
        match table.lookup name with
        | some (.table .implied inner) => some (table.replace name (.table .header inner))
        | _ => table.add name (.table .header []))
        key.dropLast .header entries

/-- Begins one more table of a repeated header. -/
def extend (entries : Entries) (key : List Text) : Option Entries :=
  match key.getLast? with
  | none => none
  | some name =>
      alter false (fun _ table =>
        match table.lookup name with
        | some (.list true items) =>
            some (table.replace name (.list true (items ++ [.table .header []])))
        | _ => table.add name (.list true [.table .header []]))
        key.dropLast .header entries

/-- Puts a value under a dotted key of the table that a header began. -/
def assignUnder (entries : Entries) (header key : List Text) (value : Value) : Option Entries :=
  alter false (fun _ table => table.assign key value) header .header entries

end ProjectTags.Toml.Entries
