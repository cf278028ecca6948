import ProjectTags.Command.Line
import ProjectTags.Command.Indexer
import ProjectTags.Path.Basic
import ProjectTags.Text.Decimal

/-!
# Queries

A query asks the search tool for what it knows from a tag database. The same query is put to the
database of a project and to those of the libraries that the project links to; for a library it
is quiet and reports absolute paths where the project's own would be relative.
-/

namespace ProjectTags

namespace Query

/-- What is looked for. -/
inductive Mode where
  | definition (pattern : Text)
  | reference (pattern : Text)
  /-- Symbols that are defined nowhere in the database. -/
  | symbol (pattern : Text)
  /-- Any text of the source files. -/
  | anyText (pattern : Text)
  /-- The definition or the references of a word, whichever fits the place it stands at. -/
  | fromHere (line : Nat) (file word : Text)
  /-- Everything that is defined in some files. -/
  | fileTags (files : List Text)
  deriving DecidableEq, Repr

namespace Mode

/-- The pattern that is looked for, if there is one. -/
def pattern? : Mode → Option Text
  | definition pattern | reference pattern | symbol pattern | anyText pattern => some pattern
  | fromHere _ _ word => some word
  | fileTags _ => none

/-- Whether any text is searched and not only names. -/
def isTextSearch : Mode → Bool
  | anyText _ => true
  | _ => false

/-- The arguments that stand for the mode. -/
def arguments : Mode → List Text
  | definition pattern => [['-', 'd'], ['-', 'e'], pattern]
  | reference pattern => [['-', 'r'], ['-', 'e'], pattern]
  | symbol pattern => [['-', 's'], ['-', 'e'], pattern]
  | anyText pattern => [['-', 'g'], ['-', 'e'], pattern]
  | fromHere line file word => ["--from-here".toList, Text.digits line ++ ':' :: file, word]
  | fileTags files => ['-', 'f'] :: files ++ [['-', 'q']]

end Mode

/-- How the paths of matches are written. -/
inductive PathStyle where
  | relative
  | absolute
  | shorter
  /-- Absolute for matches in libraries and relative for others. -/
  | absoluteInLibraries
  | through
  deriving DecidableEq, Repr

namespace PathStyle

/-- All styles. -/
def all : List PathStyle := [relative, absolute, shorter, absoluteInLibraries, through]

/-- The name of a style. -/
def name : PathStyle → Text
  | relative => "relative".toList
  | absolute => "absolute".toList
  | shorter => "shorter".toList
  | absoluteInLibraries => "abslib".toList
  | through => "through".toList

/-- The style of a given name, or what to say if there is none. -/
def ofName (name : Text) : Except Text PathStyle :=
  match all.find? fun style => style.name = name with
  | some style => .ok style
  | none => .error ("unknown path style '".toList ++ name ++ ['\''])

/-- The style for the matches of one database. -/
def inDatabase (style : PathStyle) (library : Bool) : PathStyle :=
  if library && style = absoluteInLibraries then absolute else style

end PathStyle

/-- How a query is put. -/
structure Options where
  pathStyle : Option PathStyle
  /-- The directory to which matches are confined. -/
  scope : Option Text
  /-- The pattern is plain text. -/
  literal : Bool
  ignoreCase : Bool
  /-- The patterns of earlier queries stay highlighted. -/
  append : Bool
  deriving DecidableEq, Repr

end Query

/-- A question to the search tool. -/
structure Query where
  /-- The search tool. -/
  program : Text
  /-- A configuration file in the place of the usual one. -/
  configuration : Option Text
  /-- The section of the configuration file. -/
  label : Text
  mode : Query.Mode
  options : Query.Options
  deriving DecidableEq, Repr

namespace Query

/-- A query with its scope taken from the current directory. -/
def scopedFrom (directory : Text) (query : Query) : Query :=
  { query with
    options := { query.options with
      scope := query.options.scope.map fun scope => Path.absolutize scope directory } }

/-- The arguments for the style of paths. -/
def styleArguments (options : Options) (library : Bool) : List Text :=
  match options.pathStyle with
  | none => []
  | some style => ["--path-style".toList, (style.inDatabase library).name]

/-- The arguments that only a query with a pattern has. -/
def patternArguments (query : Query) : List Text :=
  if query.mode.pattern?.isSome then
    (match query.options.scope with
      | none => []
      | some scope => ["--scope".toList, scope]) ++
      (if query.options.literal then ["--literal".toList] else []) ++
      (if query.options.ignoreCase then [['-', 'i']] else [])
  else []

/-- The arguments that stand for a query to one database. -/
def arguments (query : Query) (library : Bool) : List Text :=
  IndexerOptions.configurationArguments query.configuration ++
    ["--gtagslabel=".toList ++ query.label] ++
    query.mode.arguments ++
    styleArguments query.options library ++
    query.patternArguments ++
    ["--color=never".toList, "--result=ctags-mod".toList] ++
    (if library then [['-', 'q']] else [])

/-- The variable that names the root against which paths are reported. -/
def rootVariable : Text := "GTAGSROOT".toList

/-- The variable that names the database. -/
def databaseVariable : Text := "GTAGSDBPATH".toList

/-- The search tool answering a query from one database. -/
def commandLine (query : Query) (target : Target) (library : Bool) : CommandLine where
  program := query.program
  arguments := query.arguments library
  directory := none
  environment := [(rootVariable, target.root), (databaseVariable, target.database)]

end Query

end ProjectTags
