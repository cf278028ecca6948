import ProjectTags.Cli.Run
import ProjectTags.Machine.Changes
import ProjectTags.Tool.Table

/-!
# The command line program

The outer layer: it gathers the words of the command line, the environment, the standard input and
the files that a run may ask for, has the run carried out on that machine, and then prints what is
to be printed and makes the changes to files. Programs are those that the library knows: its tools
and shell scripts.
-/

open ProjectTags

/-- The variables of the environment that a run may ask for. -/
def variableNames : List String :=
  ["HOME", "PATH", "XDG_CACHE_HOME", "XDG_CONFIG_HOME", "TAGDB_CACHE_DIR", "TAGDB_CONFIG"]

/-- The variables that are set. -/
def readEnvironment : IO (List (Text × Text)) := do
  let found ← variableNames.mapM fun name => do
    return (← IO.getEnv name).map fun value => (name.toList, value.toList)
  return found.reduceOption

/-- Adds to a machine what is at a path, if it is not known yet. -/
def addPath (machine : Machine) (path : Text) : IO Machine := do
  let absolute := Path.join machine.currentPath path
  if path.isEmpty || machine.holds path then return machine
  try
    let _ ← IO.FS.realPath (String.ofList absolute)
    let content ← try
        let bytes ← IO.FS.readBinFile (String.ofList absolute)
        pure (some bytes.toList)
      catch _ => pure none
    match content with
    | none => return { machine with files := (machine.files.makeDirectories [] absolute).1 }
    | some bytes =>
        let above := (Path.parent? absolute).getD []
        let files := (machine.files.makeDirectories [] above).1
        return { machine with files := files.put (Path.names absolute) (.file bytes true) }
  catch _ => return machine

/-- Adds to a machine what is at some paths. -/
def addPaths (machine : Machine) (paths : List Text) : IO Machine :=
  paths.foldlM addPath machine

/-- Makes a change to a file or directory. -/
def makeChange (change : FileTree.Change) : IO Unit := do
  let path := String.ofList ('/' :: change.name)
  match change with
  | .removed name =>
      try
        if name.getLast? = some '/' then IO.FS.removeDirAll path else IO.FS.removeFile path
      catch _ => pure ()
  | .added _ none | .changed _ none => IO.FS.createDirAll path
  | .added _ (some content) | .changed _ (some content) =>
      IO.FS.writeBinFile path ⟨content.toArray⟩

/-- Runs the program. -/
def main (arguments : List String) : IO UInt32 := do
  let words := arguments.map String.toList
  let current := Path.names (toString (← IO.currentDir)).toList
  let start : Machine := ⟨Tool.standardTree, current, ← readEnvironment⟩
  let files := (start.files.makeDirectories [] (Path.absolute current)).1
  let input ← if words.elem "remove".toList then (← IO.getStdin).getLine else pure ""
  let world (machine : Machine) : Cli.World := ⟨machine, Tool.programs, Tool.listers machine,
    input.toList⟩
  let machine := { start with files := files }
  let machine ← addPaths machine ((world machine).namedPaths words)
  let machine ← addPaths machine ((world machine).surveyed words)
  let report := (world machine).run words
  (machine.files.changes report.files []).forM makeChange
  IO.print (String.ofList report.output)
  if let some question := report.question then IO.eprint (String.ofList question)
  if let some error := report.error then IO.eprintln ("Error: " ++ String.ofList error)
  return UInt32.ofNat report.status
