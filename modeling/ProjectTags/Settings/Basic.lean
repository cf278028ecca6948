import ProjectTags.Command.Indexer
import ProjectTags.Listing
import ProjectTags.Machine.Program
import ProjectTags.Path.Home

/-!
# Settings

What the user decides: where databases are kept and which entries mark a project, how the indexer
and the search tool are run, and how files are listed. What the tag store needs follows from the
settings and from the machine, which has the home directory and the directories for the data of
users.
-/

namespace ProjectTags

/-- Where databases are kept, and what marks a project. -/
structure PlacementSettings where
  /-- The directory below which databases are kept, if it is not that of the machine. -/
  cacheDirectory : Option Text
  /-- The names of the entries that mark the root of a project. -/
  rootMarkers : List Text
  deriving DecidableEq, Repr

namespace PlacementSettings

/-- The settings that nothing was said about: the directories of version control mark a root. -/
def default : PlacementSettings :=
  ⟨none, [".git".toList, ".hg".toList, ".svn".toList]⟩

end PlacementSettings

/-- How the indexer and the search tool are run. -/
structure IndexingSettings where
  acceptDotfiles : Bool
  skipUnreadable : Bool
  skipSymlink : Option Text
  /-- A configuration file in the place of the usual one, unless it is empty. -/
  configuration : Option Text
  label : Text
  /-- The roots of the libraries that every project links to. -/
  libraryPaths : List Text
  forceCpp : Bool
  indexer : Text
  queryProgram : Text
  deriving DecidableEq, Repr

namespace IndexingSettings

/-- The settings that nothing was said about. -/
def default : IndexingSettings where
  acceptDotfiles := false
  skipUnreadable := false
  skipSymlink := none
  configuration := none
  label := IndexerOptions.defaultLabel
  libraryPaths := []
  forceCpp := true
  indexer := "gtags".toList
  queryProgram := "global".toList

/-- The options for the indexer, with the home directory of the user. -/
def indexerOptions (settings : IndexingSettings) (home : Text) : IndexerOptions where
  acceptDotfiles := settings.acceptDotfiles
  skipUnreadable := settings.skipUnreadable
  skipSymlink := settings.skipSymlink
  configuration := (settings.configuration.filter (!·.isEmpty)).map (Path.expandHome home)
  label := settings.label
  forceCpp := settings.forceCpp

/-- The roots of libraries, with the home directory of the user. -/
def libraryRoots (settings : IndexingSettings) (home : Text) : List Text :=
  settings.libraryPaths.map (Path.expandHome home)

end IndexingSettings

/-- All that the user decides. -/
structure Settings where
  placement : PlacementSettings
  indexing : IndexingSettings
  listing : ListingSettings
  deriving DecidableEq, Repr

namespace Settings

/-- The settings that nothing was said about. -/
def default : Settings := ⟨.default, .default, .default⟩

/-- A directory for the data of users: the one that a variable names by an absolute path, or one in
the home directory. -/
def userDirectory (machine : Machine) (setting name : Text) : Text :=
  match machine.environmentValue setting with
  | some path => if Path.isAbsolute path then path else Path.join machine.home name
  | none => Path.join machine.home name

/-- The directory for data that can be made again. -/
def cacheHome (machine : Machine) : Text :=
  userDirectory machine "XDG_CACHE_HOME".toList ".cache".toList

/-- The directory for settings. -/
def configurationHome (machine : Machine) : Text :=
  userDirectory machine "XDG_CONFIG_HOME".toList ".config".toList

/-- The name that the files of the program have in the directories of the user. -/
def programName : Text := "tagdb".toList

/-- The directory that holds the directory of each database. -/
def databaseRoot (settings : Settings) (machine : Machine) : Text :=
  let cache := match settings.placement.cacheDirectory with
    | some path => Path.expandHome machine.home path
    | none => cacheHome machine
  Path.join (Path.join cache programName) "gtags".toList

/-- What is said besides the settings of a file, and stronger. -/
structure Override where
  cacheDirectory : Option Text
  configuration : Option Text
  label : Option Text
  /-- Roots of libraries besides the others. -/
  libraryPaths : List Text
  deriving DecidableEq, Repr

/-- The settings with what is said besides. -/
def override (settings : Settings) (stronger : Override) : Settings where
  placement := { settings.placement with
    cacheDirectory := stronger.cacheDirectory.or settings.placement.cacheDirectory }
  indexing := { settings.indexing with
    configuration := stronger.configuration.or settings.indexing.configuration
    label := stronger.label.getD settings.indexing.label
    libraryPaths := settings.indexing.libraryPaths ++ stronger.libraryPaths }
  listing := settings.listing

/-- What the environment says besides the settings. -/
def environmentOverride (machine : Machine) : Override :=
  ⟨machine.setting? "TAGDB_CACHE_DIR".toList, none, none, []⟩

end Settings

end ProjectTags
