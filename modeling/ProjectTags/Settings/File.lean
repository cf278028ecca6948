import ProjectTags.Settings.Document

/-!
# Settings files

A settings file is named by the user, or it is looked for: first where a variable says, then in the
current directory, then in the directory of the user for settings.
-/

namespace ProjectTags.Settings

/-- Why a settings file cannot be used. -/
inductive FileFault where
  | unreadable (path : Text)
  | malformed (path : Text)
  deriving DecidableEq, Repr

namespace FileFault

/-- What is said about a settings file that cannot be used. -/
def message : FileFault → Text
  | unreadable path => "Failed to read config file: ".toList ++ path
  | malformed path => "Failed to parse config file: ".toList ++ path

end FileFault

/-- The settings in a file. -/
def ofFile (machine : Machine) (path : Text) : Except FileFault Settings :=
  match machine.files.read machine.current path with
  | .error _ => .error (.unreadable path)
  | .ok content =>
      match Utf8.decode? content with
      | none => .error (.unreadable path)
      | some text =>
          match ofDocument? text with
          | none => .error (.malformed path)
          | some settings => .ok settings

/-- The name of a settings file in the current directory. -/
def localFile : Text := "tagdb.toml".toList

/-- The places of a settings file, the one that counts most first. -/
def usualFiles (machine : Machine) : List Text :=
  (machine.environmentValue "TAGDB_CONFIG".toList).toList ++
    [localFile,
      Path.join (Path.join (configurationHome machine) programName) "config.toml".toList]

/-- The settings in the first of the usual places that has a file, with its path. -/
def ofUsualFiles (machine : Machine) : Except FileFault (Option (Settings × Text)) :=
  match (usualFiles machine).find? machine.holds with
  | none => .ok none
  | some path => (ofFile machine path).map fun settings => some (settings, path)

end ProjectTags.Settings
