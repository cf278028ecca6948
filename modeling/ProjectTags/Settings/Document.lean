import ProjectTags.Settings.Basic
import ProjectTags.Toml.Document

/-!
# Settings as TOML

A settings document has a table for each of the three parts of the settings. A part may also be
given as the list of its values in a fixed order. What is missing has its default, and what has no
meaning is passed over; a value of the wrong kind makes the document unusable.
-/

namespace ProjectTags.Settings

open Toml (Value Entries)

/-- A text. -/
def text? : Value → Option Text
  | .text content => some content
  | _ => none

/-- A yes or no. -/
def flag? : Value → Option Bool
  | .boolean value => some value
  | _ => none

/-- A text for something that may be missing. -/
def textIfAny? (value : Value) : Option (Option Text) :=
  (text? value).map some

/-- Some texts. -/
def texts? : Value → Option (List Text)
  | .list _ items => items.mapM text?
  | _ => none

/-- The name under which a date counts as the only value of a table. -/
def momentKey : Text := "$__toml_private_datetime".toList

/-- Some texts by their names. -/
def namedTexts? : Value → Option (List (Text × Text))
  | .table _ entries => entries.mapM fun entry => (text? entry.2).map fun text => (entry.1, text)
  | .moment canonical => some [(momentKey, canonical)]
  | _ => none

/-- The values of a part by their names, which come in some order. -/
def part? (names : List String) : Value → Option Entries
  | .table _ entries => some entries
  | .list _ items => some ((names.map String.toList).zip items)
  | .moment canonical => some [(momentKey, .text canonical)]
  | _ => none

/-- The value of a name, or what stands for it if it is missing. -/
def get? {α : Type} (entries : Entries) (name : String) (missing : α) (read : Value → Option α) :
    Option α :=
  match entries.lookup name.toList with
  | none => some missing
  | some value => read value

/-- Where databases are kept, and what marks a project. -/
def placement? (value : Value) : Option PlacementSettings := do
  let default := PlacementSettings.default
  let entries ← part? ["cache_directory", "root_markers"] value
  return {
    cacheDirectory := ← get? entries "cache_directory" default.cacheDirectory textIfAny?
    rootMarkers := ← get? entries "root_markers" default.rootMarkers texts? }

/-- How the indexer and the search tool are run. -/
def indexing? (value : Value) : Option IndexingSettings := do
  let default := IndexingSettings.default
  let entries ← part? ["accept_dotfiles", "skip_unreadable", "skip_symlink", "gtagsconf",
    "gtagslabel", "lib_paths", "force_cpp", "indexer_program", "query_program"] value
  return {
    acceptDotfiles := ← get? entries "accept_dotfiles" default.acceptDotfiles flag?
    skipUnreadable := ← get? entries "skip_unreadable" default.skipUnreadable flag?
    skipSymlink := ← get? entries "skip_symlink" default.skipSymlink textIfAny?
    configuration := ← get? entries "gtagsconf" default.configuration textIfAny?
    label := ← get? entries "gtagslabel" default.label text?
    libraryPaths := ← get? entries "lib_paths" default.libraryPaths texts?
    forceCpp := ← get? entries "force_cpp" default.forceCpp flag?
    indexer := ← get? entries "indexer_program" default.indexer text?
    queryProgram := ← get? entries "query_program" default.queryProgram text? }

/-- The names of the values about listing files. -/
def listingNames : List String :=
  ["files_from_explorer", "files_cmd", "external_command", "use_version_control_tool",
    "recurse_submodules", "default_tool", "show_hidden", "follow_links", "wildignore_dirs",
    "wildignore_files"]

/-- How files are listed. -/
def listing? (value : Value) : Option ListingSettings := do
  let default := ListingSettings.default
  let entries ← part? listingNames value
  return {
    fromTools := ← get? entries "files_from_explorer" default.fromTools flag?
    commands := ← get? entries "files_cmd" default.commands namedTexts?
    externalCommand := ← get? entries "external_command" default.externalCommand textIfAny?
    useVersionControl :=
      ← get? entries "use_version_control_tool" default.useVersionControl flag?
    recurseSubmodules := ← get? entries "recurse_submodules" default.recurseSubmodules flag?
    tool := ← get? entries "default_tool" default.tool textIfAny?
    showHidden := ← get? entries "show_hidden" default.showHidden flag?
    followLinks := ← get? entries "follow_links" default.followLinks flag?
    ignoredDirectories := ← get? entries "wildignore_dirs" default.ignoredDirectories texts?
    ignoredFiles := ← get? entries "wildignore_files" default.ignoredFiles texts? }

/-- The settings that a document holds. -/
def ofDocument? (text : Text) : Option Settings := do
  let entries ← Toml.Document.read? text
  return {
    placement := ← get? entries "store" .default placement?
    indexing := ← get? entries "gtags" .default indexing?
    listing := ← get? entries "file_list" .default listing? }

end ProjectTags.Settings
