import ProjectTags.Shell.Evaluation

/-!
# The shell as a program

The arguments of the shell say which options are on and where the script comes from: the next word
behind the switch `-c`, a file, or the standard input. The shell ends with its script, and waits for
nothing, but what it left in the background still goes on.
-/

namespace ProjectTags.Shell

/-- How deep commands may be nested. -/
def runSteps : Nat := 20000

/-- The variables that every shell has. -/
def ownVariables : List (Text × Variable) :=
  [("IFS", " \t\n"), ("PATH", "/usr/local/sbin:/usr/local/bin:/usr/sbin:/usr/bin:/sbin:/bin"),
    ("PS1", "# "), ("PS2", "> "), ("PS4", "+ "), ("OPTIND", "1"), ("PPID", "4241")].map fun entry =>
      (entry.1.toList, ⟨some entry.2.toList, false, false⟩)

/-- The path by which the current directory is known: what the environment says, if that is so. -/
def startDirectory (machine : Machine) : Text :=
  match machine.environmentValue "PWD".toList with
  | some path =>
      match Path.isAbsolute path, machine.files.find machine.current path with
      | true, .ok (location, _) => if location = machine.current then path
          else Path.absolute machine.current
      | _, _ => Path.absolute machine.current
  | none => Path.absolute machine.current

/-- The process of a shell that has just been started. -/
def startProcess (call : Tool.Call) : Process :=
  let machine := call.machine
  let directory := startDirectory machine
  let process : Process :=
    { current := machine.current
      directory := directory
      assigned := ownVariables
      functions := []
      aliases := []
      options := []
      traps := []
      descriptors := [(0, 0), (1, 1), (2, 2)]
      arguments := []
      name := call.name
      commandName := none
      line := 0
      status := 0
      saved := none
      outputStatus := 0
      loops := 0
      locals := []
      calls := 0
      isMain := true
      lastJob := none
      optionIndex := 1
      optionPlace := none
      tracked := []
      outputFailed := false }
  let given := machine.environment.filter fun entry =>
    isName entry.1 && entry.1 != "IFS".toList && entry.1 != "OPTIND".toList
  let process := given.foldl (fun process (name, value) =>
    process.withVariable name (some ⟨some value, true, false⟩)) process
  process.withVariable "PWD".toList (some ⟨some directory, true, false⟩)

/-- A shell that has just been started. -/
def startState (call : Tool.Call) : State :=
  { process := startProcess call
    files := call.machine.files
    channels :=
      [(0, .pipe call.seekable call.input []), (1, .standard .output), (2, .standard .errors)]
    nextChannel := 3
    written := []
    texts := []
    nextText := 0
    jobs := []
    signals := []
    clock := 0 }

/-- Where a script comes from. -/
inductive Source where
  | text (script : Text)
  | file (path : Text)
  | input

/-- Switches the letters of one word of the arguments, and tells whether one asks for a text. -/
def startLetters (on : Bool) : Text → List Text → Step (Bool × List Text)
  | [], others => return (false, others)
  | 'c' :: letters, others => do
      let (_, others) ← startLetters on letters others
      return (true, others)
  | 'l' :: letters, others => startLetters on letters others
  | 'o' :: letters, others => do
      switchNamed on others.head?
      startLetters on letters others.tail
  | letter :: letters, others => do
      switchLetter on letter
      startLetters on letters others

/-- Switches options as the front of the arguments asks for it. -/
def startOptions : Nat → Bool → List Text → Step (Bool × List Text)
  | _, texted, ['-'] :: words => return (texted, words)
  | _, texted, ['-', '-'] :: words => return (texted, words)
  | steps + 1, texted, ('-' :: letters) :: words => do
      let (asked, words) ← startLetters true letters words
      startOptions steps (texted || asked) words
  | steps + 1, texted, ('+' :: letters) :: words => do
      let (asked, words) ← startLetters false letters words
      startOptions steps (texted || asked) words
  | _, texted, words => return (texted, words)

/-- Reads the arguments of the shell. -/
def readArguments (arguments : List Text) : Step Source := do
  let (texted, words) ← startOptions arguments.length false arguments
  let process ← getProcess
  match texted, process.has 's', words with
  | true, _, [] => mistake "-c requires an argument".toList
  | true, _, script :: words =>
      modifyProcess fun process => { process with
        name := words.headD process.name, arguments := words.tail }
      return .text script
  | false, false, path :: words =>
      modifyProcess fun process => { process with arguments := words }
      return .file path
  | false, _, words =>
      modifyProcess fun process => { process with arguments := words }
      switchOption true 's'
      return .input

/-- Carries out the script that the arguments name. -/
def runArguments (engine : Engine) (arguments : List Text) : Step Unit := do
  match ← readArguments arguments with
  | .text script => runText engine ⟨false, false⟩ script
  | .input =>
      let state ← get
      let script := SingleByte.ofBytes (state.readable 0).1
      set (state.afterReading 0 [])
      runFile engine script
  | .file path =>
      let state ← get
      match state.files.read state.process.current path with
      | .ok content =>
          modifyProcess fun process => { process with name := path }
          runFile engine (SingleByte.ofBytes content)
      | .error .isDirectory => return
      | .error fault =>
          let cause := if fault = .notFound || fault = .notDirectory then
            "No such file".toList else fault.description
          mistake ("cannot open ".toList ++ path ++ ": ".toList ++ cause)

/-- Runs the shell, with a way to launch other programs. -/
def start (launch : Tool.Runner) (call : Tool.Call) : Tool.Result :=
  let engine : Engine := ⟨launch, run launch runSteps⟩
  let whole : Step ExitStatus := do
    let status ← untilEnd engine (runArguments engine call.arguments)
    wakeJobs engine none jobSteps
    return status
  let (outcome, state) := whole.run (startState call)
  let status := match outcome with
    | .ok status => status
    | .error (.killed signal) => .signal signal
    | .error _ => .code (state.process.status % 256)
  let rest := match state.channels.lookup 0 with
    | some (.pipe _ content added) => content ++ added.reverse.flatten
    | _ => []
  ⟨state.written.reverse, status, state.files, rest⟩

end ProjectTags.Shell
