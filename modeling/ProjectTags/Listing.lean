import ProjectTags.Failure
import ProjectTags.Machine.FileTree
import ProjectTags.Text.Substitution

/-!
# File listings

The indexer can walk a source tree itself, or it reads the names of the files to index from the
output of a shell command. `Lister.command?` chooses that command for a root: one of the user's,
that of the version control system the root is under, or one of the listing tools on the machine.
-/

namespace ProjectTags

/-- What the user says about listing files. -/
structure ListingSettings where
  /-- The command is found from the tree and the tools; else it is one of `commands`. -/
  fromTools : Bool
  /-- Commands by the kind of tree. -/
  commands : List (Text × Text)
  /-- A command to use for every root. -/
  externalCommand : Option Text
  useVersionControl : Bool
  recurseSubmodules : Bool
  /-- The one listing tool to use. -/
  tool : Option Text
  showHidden : Bool
  followLinks : Bool
  ignoredDirectories : List Text
  ignoredFiles : List Text
  deriving DecidableEq, Repr

namespace ListingSettings

/-- The settings that nothing was said about. -/
def default : ListingSettings where
  fromTools := true
  commands := []
  externalCommand := none
  useVersionControl := true
  recurseSubmodules := false
  tool := none
  showHidden := false
  followLinks := false
  ignoredDirectories := [".svn".toList, ".git".toList, ".hg".toList]
  ignoredFiles := ["*.sw?".toList, "~$*".toList, "*.bak".toList, "*.exe".toList, "*.o".toList,
    "*.so".toList, "*.py[co]".toList]

/-- All patterns that are ignored, those for directories first. -/
def ignored (settings : ListingSettings) : List Text :=
  settings.ignoredDirectories ++ settings.ignoredFiles

/-- The ignored patterns that make a difference: hidden files need no pattern unless they are
shown. -/
def visibleIgnored (settings : ListingSettings) : List Text :=
  settings.ignored.filter fun pattern => settings.showHidden || pattern.head? != some '.'

end ListingSettings

/-- The settings together with the listing tools that the machine has. -/
structure Lister where
  settings : ListingSettings
  available : List Text
  deriving DecidableEq, Repr

namespace Lister

/-- The names of the listing tools, the preferred one first. -/
def tools : List Text := [['r', 'g'], ['a', 'g'], "find".toList]

/-- A lister, unless the settings ask for a tool that is unknown or that the machine has not. -/
def ofSettings (settings : ListingSettings) (available : List Text) : Except Failure Lister :=
  match settings.tool with
  | none => .ok ⟨settings, available⟩
  | some tool =>
      if !tools.elem tool then
        .error (.configuration ("unsupported default tool '".toList ++ tool ++
          "' (expected one of ".toList ++ Text.joinWith [',', ' '] tools ++ [')']))
      else if !available.elem tool then
        .error (.configuration ("executable '".toList ++ tool ++ "' can not be found".toList))
      else .ok ⟨settings, available⟩

/-- A text between double quotes, as one word of a shell command. -/
def shellWord (text : Text) : Text :=
  '"' :: text ++ ['"']

/-- A path and the paths above it, each made by going up from the one before. -/
def upwardWithin : Nat → Text → List Text
  | 0, path => [path]
  | levels + 1, path =>
      path :: (match Path.parent? path with
        | some above => upwardWithin levels above
        | none => [])

/-- A path and the paths above it. -/
def upward (path : Text) : List Text :=
  upwardWithin path.length path

/-- The command of the version control system whose directory is `.git`. -/
def gitCommand (settings : ListingSettings) (root : Text) : Text :=
  let ignored := (settings.ignored.filter (· != ".git".toList)).flatMap fun pattern =>
    " -x ".toList ++ shellWord pattern
  "git ls-files".toList ++
    (if settings.recurseSubmodules then " --recurse-submodules".toList else []) ++
    ' ' :: shellWord root ++ " && git ls-files --others --exclude-standard".toList ++ ignored ++
    ' ' :: shellWord root

/-- The command of the version control system whose directory is `.hg`. -/
def hgCommand (settings : ListingSettings) (root : Text) : Text :=
  let directories := (settings.ignoredDirectories.filter (· != ".hg".toList)).flatMap fun pattern =>
    " -X \"glob:**/".toList ++ pattern ++ "/**\"".toList
  let files := settings.ignoredFiles.flatMap fun pattern =>
    " -X \"glob:**/".toList ++ pattern ++ ['"']
  "hg files".toList ++ directories ++ files ++ ' ' :: shellWord root

/-- The command of the tool that searches fastest. -/
def rgCommand (settings : ListingSettings) (root : Text) : Text :=
  let ignored := settings.visibleIgnored.flatMap fun pattern =>
    " -g '!".toList ++ pattern ++ ['\'']
  "rg --no-messages --files --color never".toList ++ ignored ++
    (if settings.followLinks then " -L".toList else []) ++
    (if settings.showHidden then " --hidden".toList else []) ++
    (if root = ['.'] then [] else ' ' :: shellWord root)

/-- The command of the second choice. -/
def agCommand (settings : ListingSettings) (root : Text) : Text :=
  let ignored := settings.visibleIgnored.flatMap fun pattern =>
    " --ignore ".toList ++ shellWord pattern
  "ag --nocolor --silent".toList ++ ignored ++
    (if settings.followLinks then " -f".toList else []) ++
    (if settings.showHidden then " --hidden".toList else []) ++
    " -g \"\" ".toList ++ shellWord root

/-- The command of the tool that every machine has. -/
def findCommand (settings : ListingSettings) (root : Text) : Text :=
  let directories := settings.ignoredDirectories.flatMap fun pattern =>
    " -type d -name ".toList ++ shellWord pattern ++ " -prune -o".toList
  let files := settings.ignoredFiles.flatMap fun pattern =>
    " -type f -name ".toList ++ shellWord pattern ++ " -o".toList
  "find".toList ++ (if settings.followLinks then " -L".toList else []) ++ ' ' :: shellWord root ++
    " -name \".\" -o".toList ++ directories ++ files ++
    (if settings.showHidden then [] else " -name \".*\" -prune -o".toList) ++
    " -type f -print 2>/dev/null".toList

/-- Whether a tool is on the machine and no other one is asked for. -/
def uses (lister : Lister) (tool : Text) : Bool :=
  (lister.settings.tool = none || lister.settings.tool = some tool) && lister.available.elem tool

/-- The user's command for the kind of tree that a root is. -/
def configuredCommand? (lister : Lister) (isDirectory : Text → Bool) (root : Text) : Option Text :=
  let kind :=
    if isDirectory (Path.join root ".git".toList) then ".git".toList
    else if isDirectory (Path.join root ".hg".toList) then ".hg".toList
    else "default".toList
  lister.settings.commands.lookup kind

/-- Whether a directory of a given name is in a path or above it. -/
def isBelow (isDirectory : Text → Bool) (path name : Text) : Bool :=
  (upward path).any fun above => isDirectory (Path.join above name)

/-- The command of the preferred listing tool that may be used. -/
def toolCommand? (lister : Lister) (root : Text) : Option Text :=
  if lister.uses ['r', 'g'] then some (rgCommand lister.settings root)
  else if lister.uses ['a', 'g'] then some (agCommand lister.settings root)
  else if lister.uses "find".toList then some (findCommand lister.settings root)
  else none

/-- The command that lists the files below a root, if the indexer is not to walk the tree itself.
It depends on which paths are directories. -/
def command? (lister : Lister) (isDirectory : Text → Bool) (root : Text) : Option Text :=
  let settings := lister.settings
  if !settings.fromTools then lister.configuredCommand? isDirectory root
  else if !root.all (·.toNat < 128) then none
  else
    match settings.externalCommand with
    | some command => some (Text.replaceAll '%' ['s'] (shellWord root) command)
    | none =>
        if settings.useVersionControl && isBelow isDirectory root ".git".toList then
          some (gitCommand settings root)
        else if settings.useVersionControl && isBelow isDirectory root ".hg".toList then
          some (hgCommand settings root)
        else lister.toolCommand? root

end Lister

end ProjectTags
