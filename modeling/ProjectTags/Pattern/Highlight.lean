import ProjectTags.Pattern.Vim

/-!
# Highlighting

The pattern that marks in Vim what a query found. It says how to treat case, and a pair of quotes
around the pattern of the query is no part of it. Outside of text search a dot stands for any
character of an identifier. `Highlights` collects the patterns of the queries that are shown at
one time.
-/

namespace ProjectTags.Pattern

/-- What the query behind a pattern was like. -/
structure HighlightOptions where
  /-- The pattern is plain text. -/
  literal : Bool
  ignoreCase : Bool
  /-- The query searched text, where a dot is any character. -/
  textSearch : Bool
  deriving DecidableEq, Repr

/-- The text between a pair of one quote character. -/
def unquoted? (quote : Char) (pattern : Text) : Option Text :=
  match pattern with
  | [] => none
  | c :: rest =>
      if c = quote && !rest.isEmpty && rest.getLast? = some quote then some rest.dropLast else none

/-- Doubles every backslash except one in front of a double quote. -/
def escapeKeepingQuotes : Text → Text
  | '\\' :: '"' :: rest => '\\' :: escapeKeepingQuotes ('"' :: rest)
  | '\\' :: rest => '\\' :: '\\' :: escapeKeepingQuotes rest
  | c :: rest => c :: escapeKeepingQuotes rest
  | [] => []

/-- The switch that tells Vim how to treat case. -/
def caseSwitch (ignoreCase : Bool) : Text :=
  if ignoreCase then ['\\', 'c'] else ['\\', 'C']

/-- The pattern that marks the matches of a query. -/
def highlight (options : HighlightOptions) (pattern : Text) : Text :=
  let doubleQuoted := unquoted? '"' pattern
  let body := (doubleQuoted.or (unquoted? '\'' pattern)).getD pattern
  let switch := caseSwitch options.ignoreCase
  if options.literal then
    veryNomagic ++ switch ++
      (if doubleQuoted.isSome then escapeKeepingQuotes body else escapeLiteral body)
  else
    let carried := toVim .regular (switch ++ body)
    if options.textSearch then carried else Text.replaceChar '.' ['\\', 'w'] carried

/-- The patterns that are shown, oldest first. -/
structure Highlights where
  patterns : List Text
  deriving DecidableEq, Repr

namespace Highlights

/-- No patterns. -/
def empty : Highlights := ⟨[]⟩

/-- Adds a pattern after the others, or in their place. -/
def record (shown : Highlights) (pattern : Text) (append : Bool) : Highlights :=
  ⟨(if append then shown.patterns else []) ++ [pattern]⟩

end Highlights

end ProjectTags.Pattern
