import ProjectTags.Shell.Switch

/-!
# The current directory of a shell

The shell knows the path by which it came to its current directory, and goes from there by name:
two points lead back by one name of that path.
-/

namespace ProjectTags.Shell

/-- The path that another one leads to, name by name. Two slashes at its front are kept. -/
def pathFrom (directory path : Text) : Text :=
  let doubled := path.take 2 = ['/', '/'] && (path.drop 2).head? != some '/'
  let start := if Path.isAbsolute path then [] else
    (Text.pieces '/' directory).filter (!·.isEmpty)
  let names := (Text.pieces '/' path).foldl (fun names name =>
    if Path.isVoid name then names
    else if name = ['.', '.'] then names.dropLast
    else names ++ [name]) start
  (if doubled then ['/', '/'] else ['/']) ++ Text.joinWith ['/'] names

/-- Makes a place the current directory, with the path by which it is known. -/
def enterDirectory (location : Location) (path : Text) : Step Unit := do
  let before := (← getProcess).directory
  let publish (name value : Text) : Step Unit := do
    requireWritable name
    modifyProcess fun process => process.withVariable name (some ⟨some value, true, false⟩)
  modifyProcess fun process => { process with current := location, directory := path }
  publish "OLDPWD".toList before
  publish "PWD".toList path

/-- The directories in which a path that begins with a name is looked for. -/
def directoriesFor (process : Process) (path : Text) : List Text :=
  let first := path.takeWhile (· != '/')
  if Path.isAbsolute path || first = ['.'] || first = ['.', '.'] then []
  else
    match process.value? "CDPATH".toList with
    | some entries => Text.pieces ':' entries
    | none => []

/-- Goes to another directory. A hyphen stands for the one before. -/
def changeDirectory : Builtin := fun _ _ arguments => do
  let (switches, operands) ← readSwitches [('L', false), ('P', false)] arguments
  let physical := (switches.getLast?.map (·.1)) = some 'P'
  let process ← getProcess
  let back := operands.head? = some ['-']
  let wanted :=
    if back then (process.value? "OLDPWD".toList).getD []
    else
      match operands with
      | path :: _ => path
      | [] => (process.value? "HOME".toList).getD []
  let path := if wanted.isEmpty then ['.'] else wanted
  let state ← get
  let entry? := (directoriesFor process path).find? fun entry =>
    state.files.isDirectory process.current (if entry.isEmpty then path else entry ++ '/' :: path)
  let (path, shown) := match entry? with
    | some (c :: entry) => (c :: entry ++ '/' :: path, true)
    | _ => (path, back)
  let goal := if physical then path else pathFrom process.directory path
  match state.files.find process.current goal with
  | .ok (location, .directory) =>
      enterDirectory location (if physical then Path.absolute location else goal)
      if shown then say ((← getProcess).directory ++ ['\n'])
      return 0
  | _ => mistake ("can't cd to ".toList ++ wanted)

/-- Writes the path of the current directory. -/
def tellDirectory : Builtin := fun _ _ arguments => do
  let (switches, _) ← readSwitches [('L', false), ('P', false)] arguments
  let process ← getProcess
  let physical := (switches.getLast?.map (·.1)) = some 'P'
  say ((if physical then Path.absolute process.current else process.directory) ++ ['\n'])
  return 0

end ProjectTags.Shell
