import ProjectTags.Shell.Lookup
import ProjectTags.Shell.Signal

/-!
# Launching programs and control of the shell

A program gets the machine as the shell sees it, and its input and output are those of the shell. A
file that may be executed but is no program of the machine is taken for a script of the shell.

The commands that leave loops, functions and the shell, that carry out texts and files as part of
the script, and that put another program into the place of the shell, stand behind that.
-/

namespace ProjectTags.Shell

/-- The shell that runs scripts that name no program to read them. -/
def shellPath : Text := "/bin/sh".toList

/-- What a program is run with. -/
def callOf (state : State) (name : Text) (arguments : List Text) : Tool.Call :=
  let (input, seekable) := state.readable 0
  ⟨state.machine, name, arguments, input, seekable⟩

/-- Takes over what a program leaves behind, and gives how it ended. -/
def takeOver (result : Tool.Result) : Step ExitStatus := do
  modify fun state => { state.afterReading 0 result.rest with files := result.files }
  try
    result.written.forM fun (stream, bytes) => do
      let _ ← writeTo (if stream = .output then 1 else 2) bytes
    return result.status
  catch
    | .killed signal => return .signal signal
    | departure => throw departure

/-- Executes the file at a path. -/
def execute (engine : Engine) (path name : Text) (arguments : List Text) :
    Step (Except Fault ExitStatus) := do
  let state ← get
  let result :=
    match engine.launch path (callOf state name arguments) with
    | .error .noExecutable =>
        engine.launch shellPath (callOf state shellPath (path :: arguments))
    | result => result
  match result with
  | .ok result => return .ok (← takeOver result)
  | .error fault => return .error fault

/-- Executes the file at the first of some paths at which there is one that can be executed. -/
def executeFirst (engine : Engine) (name : Text) (arguments : List Text) :
    List Text → Fault → Step (Except Fault ExitStatus)
  | [], fault => return .error fault
  | path :: others, fault => do
      match ← execute engine path name arguments with
      | .ok status => return .ok status
      | .error .notFound | .error .notDirectory => executeFirst engine name arguments others fault
      | .error other => executeFirst engine name arguments others other

/-- The status of a program that could not be run. -/
def launchStatus (fault : Fault) : Nat :=
  if [Fault.notFound, .notDirectory, .nameTooLong, .tooManyLinks].elem fault then 127 else 126

/-- Executes a program in the place of the process. -/
def replaceProcess (engine : Engine) (paths : List Text) (name : Text) (arguments : List Text) :
    Step Unit := do
  match ← executeFirst engine name arguments paths .notFound with
  | .ok status => throw (.replaced status)
  | .error fault =>
      report (name ++ ": ".toList ++ launchMessage fault)
      setStatus (launchStatus fault)
      throw .exited

/-- Leaves loops, or goes on with the next turn of the last of them. -/
def leaveLoops (goesOn : Bool) : Builtin := fun _ _ arguments => do
  let count ← match arguments with
    | text :: _ => do
        let count ← readNumber text
        if count = 0 then noNumber text else pure count
    | [] => pure 1
  let count := min count (← getProcess).loops
  setStatus 0
  if count = 0 then return 0
  else throw (if goesOn then .again count else .leave count)

/-- Leaves a function or a script. -/
def leaveFunction : Builtin := fun _ _ arguments => do
  match arguments with
  | text :: _ => setStatus (← readNumber text)
  | [] => pure ()
  throw .returned

/-- Leaves the shell. -/
def exit : Builtin := fun _ _ arguments => do
  let process ← getProcess
  setStatus (← match arguments with
    | text :: _ => readNumber text
    | [] => pure (process.saved.getD process.status))
  throw .exited

/-- Carries out words as a text of the script. -/
def evaluateWords : Builtin := fun engine stance arguments => do
  if arguments.isEmpty then return 0
  else
    runText engine ⟨stance.tested, false⟩ (Text.joinWith [' '] arguments)
    return (← getProcess).status

/-- The path of a script that is named. -/
def scriptPath? (state : State) (name : Text) : Option Text :=
  if name.elem '/' then some name
  else
    let paths := state.process.searchPath.map fun entry => Machine.inEntry entry name
    paths.find? fun path => state.files.isFile state.process.current path

/-- Carries out a file as part of the script. -/
def includeFile : Builtin := fun engine _ arguments => do
  match ← operandsOf arguments with
  | [] => return 0
  | name :: _ =>
      let state ← get
      match scriptPath? state name with
      | none => mistake (name ++ ": not found".toList)
      | some path =>
          match state.files.read state.process.current path with
          | .error fault =>
              let cause := if fault = .notFound || fault = .notDirectory then
                "No such file".toList else fault.description
              mistake ("cannot open ".toList ++ path ++ ": ".toList ++ cause)
          | .ok content =>
              modifyProcess fun process => { process with commandName := some path }
              runFile engine (SingleByte.ofBytes content)
              return (← getProcess).status

/-- Puts a program into the place of the shell. -/
def replaceShell : Builtin := fun engine _ arguments => do
  match ← operandsOf arguments with
  | [] => return 0
  | name :: arguments =>
      let search := (← getProcess).searchPath
      let paths := if name.elem '/' then [name]
        else search.map fun entry => Machine.inEntry entry name
      replaceProcess engine paths name arguments
      return 0

end ProjectTags.Shell
