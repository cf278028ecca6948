import ProjectTags.Settings.Basic

/-!
# The settings template

A settings document to start from, with the defaults and with comments on what can be set.
-/

namespace ProjectTags.Settings

/-- The lines of the template. -/
def templateLines : List String :=
  ["# tagdb Configuration",
    "# Generated template - customize as needed",
    "",
    "[store]",
    "# Base cache directory (default: platform cache directory)",
    "# Databases are stored under <cache_directory>/tagdb/gtags",
    "# Env override: TAGDB_CACHE_DIR",
    "# cache_directory = \"~/.cache\"",
    "",
    "# Files or directories marking a project root",
    "root_markers = [\".git\", \".hg\", \".svn\"]",
    "",
    "[gtags]",
    "# Index dot files and dot directories",
    "accept_dotfiles = false",
    "",
    "# Ignore unreadable files instead of failing the build",
    "skip_unreadable = false",
    "",
    "# Skip symbolic links (\"\" = all, or \"f\", \"d\", \"a\")",
    "# skip_symlink = \"\"",
    "",
    "# Alternate configuration file and parser label",
    "# gtagsconf = \"/usr/local/share/gtags/gtags.conf\"",
    "gtagslabel = \"default\"",
    "",
    "# Library directories indexed alongside every project",
    "lib_paths = [",
    "    # \"/usr/include\",",
    "    # \"~/src/vendor-sdk\",",
    "]",
    "",
    "# Parse .h headers as C++",
    "force_cpp = true",
    "",
    "indexer_program = \"gtags\"",
    "query_program = \"global\"",
    "",
    "[file_list]",
    "# Build the file list from VCS or search tools.",
    "# When false, the command in files_cmd matching \".git\", \".hg\" or \"default\" is used.",
    "files_from_explorer = true",
    "",
    "# [file_list.files_cmd]",
    "# \".git\" = \"git ls-files --recurse-submodules\"",
    "# \".hg\" = \"hg files\"",
    "# \"default\" = \"rg --no-messages --files\"",
    "",
    "# Custom listing command, %s is replaced by the project root",
    "# external_command = \"fd --type f . %s\"",
    "",
    "use_version_control_tool = true",
    "recurse_submodules = false",
    "",
    "# Force one of \"rg\", \"ag\" or \"find\"",
    "# default_tool = \"rg\"",
    "",
    "show_hidden = false",
    "follow_links = false",
    "",
    "wildignore_dirs = [\".svn\", \".git\", \".hg\"]",
    "wildignore_files = [\"*.sw?\", \"~$*\", \"*.bak\", \"*.exe\", \"*.o\", \"*.so\", \"*.py[co]\"]",
    ""]

/-- A settings document with all defaults. -/
def template : Text :=
  Text.joinWith ['\n'] (templateLines.map String.toList)

/-- Why the template could not be written. -/
inductive TemplateFault where
  /-- The directory for it could not be made. -/
  | directory (path : Text)
  | file (path : Text)
  deriving DecidableEq, Repr

namespace TemplateFault

/-- What is said about a template that could not be written. -/
def message : TemplateFault → Text
  | directory path => "Failed to create config directory: ".toList ++ path
  | file path => "Failed to write config file: ".toList ++ path

end TemplateFault

/-- Writes the template to a file, and before it the directories that are missing. What was made
before a fault stays. -/
def writeTemplate (files : FileTree) (current : Location) (path : Text) :
    Except TemplateFault Unit × FileTree :=
  let above := Path.parent? path
  let (files, fault) := match above with
    | some directory => files.makeDirectories current directory
    | none => (files, none)
  if fault.isSome then (.error (.directory (above.getD [])), files)
  else
    match files.write current path (Utf8.encode template) with
    | .ok files => (.ok (), files)
    | .error _ => (.error (.file path), files)

end ProjectTags.Settings
