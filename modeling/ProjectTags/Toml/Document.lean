import ProjectTags.Toml.Reader

/-!
# TOML documents

A document is a sequence of statements, one on a line: the header of a table, the repeated header
of a list of tables, or a value for a key. `Document.read?` reads the statements and puts them
together to one table.
-/

namespace ProjectTags.Toml

/-- What stands on a line. -/
inductive Statement where
  | header (key : List Text)
  | repeatedHeader (key : List Text)
  | assignment (key : List Text) (value : Value)

namespace Statement

/-- Reads the header of a table. -/
def header? (text : Text) : Option (Statement × Text) := do
  match text with
  | '[' :: '[' :: rest =>
      let (key, rest) ← key? rest
      return (.repeatedHeader key, ← Text.dropPrefix? [']', ']'] rest)
  | '[' :: rest =>
      let (key, rest) ← key? rest
      return (.header key, ← Text.dropPrefix? [']'] rest)
  | _ => none

/-- Reads a value for a key. -/
def assignment? (text : Text) : Option (Statement × Text) := do
  let (key, rest) ← key? text
  let rest ← Text.dropPrefix? ['='] rest
  let (value, rest) ← value? (skipSpaces rest)
  return (.assignment key value, rest)

/-- Reads a statement. -/
def read? (text : Text) : Option (Statement × Text) :=
  match text with
  | '[' :: _ => header? text
  | _ => assignment? text

end Statement

/-- The text after the end of a line, which may have a comment. -/
def lineEnd? (text : Text) : Option Text :=
  match skipComment (skipSpaces text) with
  | [] => some []
  | rest => lineBreak? rest

/-- A document while it is put together, with the header under which values are put. -/
structure Document where
  header : List Text
  entries : Entries

namespace Document

/-- A document without statements. -/
def empty : Document := ⟨[], []⟩

/-- Adds a statement. -/
def add (document : Document) : Statement → Option Document
  | .header key => (document.entries.begin key).map (Document.mk key)
  | .repeatedHeader key => (document.entries.extend key).map (Document.mk key)
  | .assignment key value =>
      (document.entries.assignUnder document.header key value).map (Document.mk document.header)

/-- Reads the statements of a text, within a number of lines. -/
def statementsWithin : Nat → Text → Option (List Statement)
  | 0, _ => none
  | lines + 1, text =>
      let start := skipSpaces text
      match start, lineEnd? start with
      | [], _ => some []
      | _, some rest => statementsWithin lines rest
      | _, none => do
          let (statement, rest) ← Statement.read? start
          return statement :: (← statementsWithin lines (← lineEnd? rest))

/-- The text without a byte order mark at its front. -/
def withoutMark : Text → Text
  | '\uFEFF' :: rest => rest
  | text => text

/-- The statements of a text. -/
def statements? (text : Text) : Option (List Statement) :=
  statementsWithin (text.length + 1) (withoutMark text)

/-- The table that a text stands for. -/
def read? (text : Text) : Option Entries := do
  return (← (← statements? text).foldlM add empty).entries

end Document

end ProjectTags.Toml
