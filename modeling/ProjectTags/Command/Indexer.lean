import ProjectTags.Command.Line
import ProjectTags.Target

/-!
# Indexer command lines

The indexer runs in the root of a source tree and writes the database named by its last argument.
It either builds the whole database, from its own walk of the tree or from a list of files on
standard input, or brings a single file up to date.
-/

namespace ProjectTags

/-- How the indexer is run. -/
structure IndexerOptions where
  acceptDotfiles : Bool
  skipUnreadable : Bool
  /-- Which symbolic links to skip; the empty text stands for all of them. -/
  skipSymlink : Option Text
  /-- A configuration file in the place of the usual one. -/
  configuration : Option Text
  /-- The section of the configuration file that selects the parser. -/
  label : Text
  /-- Headers are read as C++. -/
  forceCpp : Bool
  deriving DecidableEq, Repr

namespace IndexerOptions

/-- The section that is selected unless another one is asked for. -/
def defaultLabel : Text := "default".toList

/-- The options that nothing was asked for. -/
def default : IndexerOptions := ⟨false, false, none, none, defaultLabel, true⟩

/-- The arguments for skipping symbolic links. -/
def symlinkArguments : Option Text → List Text
  | none => []
  | some [] => ["--skip-symlink".toList]
  | some kind => ["--skip-symlink=".toList ++ kind]

/-- The arguments for a configuration file. -/
def configurationArguments : Option Text → List Text
  | none => []
  | some file => ["--gtagsconf".toList, file]

/-- The arguments that stand for the options. -/
def arguments (options : IndexerOptions) : List Text :=
  (if options.acceptDotfiles then ["--accept-dotfiles".toList] else []) ++
    (if options.skipUnreadable then ["--skip-unreadable".toList] else []) ++
    symlinkArguments options.skipSymlink ++
    configurationArguments options.configuration ++
    ["--gtagslabel".toList, options.label]

/-- The variable that makes the indexer read headers as C++. -/
def cppVariable : Text := "GTAGSFORCECPP".toList

/-- The variables that stand for the options. -/
def environment (options : IndexerOptions) : List (Text × Text) :=
  if options.forceCpp then [(cppVariable, [])] else []

end IndexerOptions

namespace CommandLine

/-- The indexer building a whole database. -/
def build (program : Text) (target : Target) (options : IndexerOptions) (filesFromInput : Bool) :
    CommandLine where
  program := program
  arguments :=
    options.arguments ++ (if filesFromInput then ["-f-".toList] else []) ++ [target.database]
  directory := some target.root
  environment := options.environment

/-- The indexer bringing one file up to date. -/
def singleUpdate (program : Text) (target : Target) (file : Text) (options : IndexerOptions) :
    CommandLine where
  program := program
  arguments := options.arguments ++ ["--single-update".toList, file, target.database]
  directory := some target.root
  environment := options.environment

end CommandLine

end ProjectTags
