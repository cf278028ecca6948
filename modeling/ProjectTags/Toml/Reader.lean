import ProjectTags.Toml.Moment
import ProjectTags.Toml.Number
import ProjectTags.Toml.Quotation
import ProjectTags.Toml.Table

/-!
# Reading keys and values of TOML

A key is a path of names with dots between them. A value is written in one piece; lists and tables
between braces hold other values, down to a fixed depth. A list may go over several lines and may
end in a comma, a table between braces may do neither.
-/

namespace ProjectTags.Toml

/-- Whether a character may stand in a name without quotes. -/
def inBareName (c : Char) : Bool :=
  c.isAlphanum || c = '-' || c = '_'

/-- Reads a name. -/
def name? (text : Text) : Option (Text × Text) :=
  match text with
  | '"' :: _ => Quotation.double.line? text
  | '\'' :: _ => Quotation.single.line? text
  | _ =>
      let bare := text.takeWhile inBareName
      if bare.isEmpty then none else some (bare, text.drop bare.length)

/-- The values that may be nested, and the names of a key, are fewer than this. -/
def nestingLimit : Nat := 80

/-- Reads names with dots between them, within a number of names. -/
def namesWithin : Nat → Text → Option (List Text × Text)
  | 0, _ => none
  | names + 1, text => do
      let (name, rest) ← name? (skipSpaces text)
      match skipSpaces rest with
      | '.' :: rest =>
          let (others, rest) ← namesWithin names rest
          return (name :: others, rest)
      | rest => return ([name], rest)

/-- Reads a key, with the spaces around it. -/
def key? (text : Text) : Option (List Text × Text) :=
  namesWithin (nestingLimit - 1) text

/-- Reads a comment, if there is one. -/
def skipComment : Text → Text
  | '#' :: rest => rest.dropWhile isPrintable
  | text => text

/-- The text after spaces, comments and line breaks, within a number of lines. -/
def skipLinesWithin : Nat → Text → Text
  | 0, text => text
  | lines + 1, text =>
      let rest := skipSpaces text
      match lineBreak? (skipComment rest) with
      | some rest => skipLinesWithin lines rest
      | none => rest

/-- The text after spaces, comments and line breaks. -/
def skipLines (text : Text) : Text :=
  skipLinesWithin (text.length + 1) text

/-- Reads the items of a list up to its closing bracket, within a number of items. -/
def listItems (item? : Text → Option (Value × Text)) : Nat → Text → Option (List Value × Text)
  | 0, _ => none
  | items + 1, text =>
      match skipLines text with
      | ']' :: rest => some ([], rest)
      | start => do
          let (item, rest) ← item? start
          match skipLines rest with
          | ',' :: rest =>
              let (others, rest) ← listItems item? items rest
              return (item :: others, rest)
          | ']' :: rest => return ([item], rest)
          | _ => none

/-- Reads the entries of a table up to its closing brace, within a number of entries. -/
def tableItems (item? : Text → Option (Value × Text)) :
    Nat → Entries → Text → Option (Entries × Text)
  | 0, _, _ => none
  | items + 1, entries, text => do
      let (key, rest) ← key? text
      let rest ← Text.dropPrefix? ['='] rest
      let (item, rest) ← item? (skipSpaces rest)
      let entries ← entries.assign key item
      match skipSpaces rest with
      | ',' :: rest => tableItems item? items entries rest
      | '\x7d' :: rest => return (entries, rest)
      | _ => none

/-- Reads a value that is not made of others. -/
def simple? (text : Text) : Option (Value × Text) :=
  match text with
  | '"' :: _ => (Quotation.double.text? text).map fun (content, rest) => (.text content, rest)
  | '\'' :: _ => (Quotation.single.text? text).map fun (content, rest) => (.text content, rest)
  | 't' :: 'r' :: 'u' :: 'e' :: rest => some (.boolean true, rest)
  | 'f' :: 'a' :: 'l' :: 's' :: 'e' :: rest => some (.boolean false, rest)
  | _ =>
      match Moment.read? text with
      | some (moment, rest) => some (.moment moment.render, rest)
      | none => Number.read? text

/-- Reads a value that holds others down to some depth. -/
def valueWithin : Nat → Text → Option (Value × Text)
  | depth + 1, '[' :: rest => do
      let (items, rest) ← listItems (valueWithin depth) (rest.length + 1) rest
      return (.list false items, rest)
  | depth + 1, '\x7b' :: rest =>
      match skipSpaces rest with
      | '\x7d' :: rest => some (.table .inline [], rest)
      | start => do
          let (entries, rest) ← tableItems (valueWithin depth) (rest.length + 1) [] start
          return (.table .inline entries, rest)
  | _, text => simple? text

/-- Reads a value. -/
def value? (text : Text) : Option (Value × Text) :=
  valueWithin (nestingLimit - 1) text

end ProjectTags.Toml
