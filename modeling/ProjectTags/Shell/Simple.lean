import ProjectTags.Shell.Builtin
import ProjectTags.Shell.Redirection

/-!
# Simple commands

A simple command has words, assignments and redirections. Its words are expanded first, then its
redirections are done, then its assignments, which hold for that command alone unless it has no words
or is one of the special commands of the shell. A mistake in a special command ends the shell.
-/

namespace ProjectTags.Shell

/-- A command whose words are expanded. -/
structure Ready where
  words : List Text
  /-- Whether a mistake in it ends the shell. -/
  special : Bool
  /-- Whether it is one of the shell's own commands that may come before functions. -/
  isOwn : Bool
  /-- Whether functions are left out of account. -/
  withFunctions : Bool
  search? : Option (List Text)

/-- The commands whose words may be assignments. -/
def assigningCommands : List Text :=
  ["alias", "export", "local", "readonly"].map String.toList

/-- Expands a word of a command that assigns. -/
def expandAssigning (engine : Engine) (word : Word) : Step (List Text) := do
  match assignment? word with
  | some (name, value) => return [name ++ '=' :: (← expandValue engine value)]
  | none => expandWord engine word

/-- Expands the words of a command that are left. -/
def expandRest (engine : Engine) (assigning : Bool) : List Word → Step (List Text)
  | [] => return []
  | word :: others => do
      let arguments ← if assigning then expandAssigning engine word else expandWord engine word
      return arguments ++ (← expandRest engine assigning others)

/-- Expands words up to the first that gives an argument. The words behind come out too. -/
def expandFirst (engine : Engine) : List Word → Step (List Text × List Word)
  | [] => return ([], [])
  | word :: others => do
      match ← expandWord engine word with
      | [] => expandFirst engine others
      | arguments => return (arguments, others)

/-- What stands behind the word `command` and its switches: whether the usual programs are asked for,
and the arguments and words from the name on. There is nothing if no name is to be run. -/
def behindCommand (engine : Engine) (usual : Bool) :
    Nat → List Text → List Word → Step (Option (Bool × List Text × List Word))
  | 0, _, _ => return none
  | steps + 1, arguments, words => do
      let (arguments, words) ←
        if arguments.isEmpty then expandFirst engine words else pure (arguments, words)
      match arguments with
      | [] => return none
      | ['-', '-'] :: others =>
          let (others, words) ←
            if others.isEmpty then expandFirst engine words else pure (others, words)
          return if others.isEmpty then none else some (usual, others, words)
      | ('-' :: c :: letters) :: others =>
          if (c :: letters).all (· = 'p') then behindCommand engine true steps others words
          else return none
      | arguments => return some (usual, arguments, words)

/-- Expands the words of a command, of which some are expanded already. How the others are expanded
depends on what the first one stands for. -/
def makeReady (engine : Engine) (special? : Option Bool) (withFunctions : Bool)
    (search? : Option (List Text)) : Nat → List Text → List Word → Step Ready
  | 0, arguments, _ => return ⟨arguments, false, false, withFunctions, search?⟩
  | steps + 1, arguments, words => do
      let name := arguments.headD []
      let state ← get
      match lookUp state withFunctions (search?.getD state.process.searchPath) name with
      | .own isSpecial =>
          let special := special?.getD isSpecial
          let finish : Step Ready := do
            let rest ← expandRest engine (assigningCommands.elem name) words
            return ⟨arguments ++ rest, special, true, withFunctions, search?⟩
          if name = "command".toList then
            let before ← get
            match ← behindCommand engine false (arguments.length + words.length + 1) arguments.tail
                words with
            | some (usual, arguments, words) =>
                makeReady engine (some special) false (if usual then some usualPath else search?)
                  steps arguments words
            | none =>
                set before
                finish
          else finish
      | _ =>
          let rest ← expandRest engine false words
          return ⟨arguments ++ rest, special?.getD false, false, withFunctions, search?⟩

/-- Expands a text as between double quotes. -/
def expandString (engine : Engine) (text : Text) : Step Text := do
  let reading := readWord (innerReading (readingSteps text)) .hereText
  match reading.run (Cursor.start text 0 []) with
  | .ok ((word, _), _) => expandHereText engine word
  | .error _ => return text

/-- Writes a command that is about to be run to the errors of some descriptors, if the shell is to
do that. -/
def trace (engine : Engine) (descriptors : List (Nat × Nat)) (shown : List Text) : Step Unit := do
  let process ← getProcess
  if process.has 'x' then
    modifyProcess fun process => { process with options := process.options.filter (· != 'x') }
    let sign ← expandString engine ((process.value? "PS4".toList).getD [])
    modifyProcess fun process => { process with descriptors := descriptors }
    complain (sign ++ Text.joinWith [' '] shown ++ ['\n'])
    modifyProcess fun after => { after with
      descriptors := process.descriptors, options := process.options }

/-- Assigns to variables one after the other, and gives the assignments as they are shown. -/
def assignAll (engine : Engine) (isLocal exported : Bool) : List (Text × Word) → Step (List Text)
  | [] => return []
  | (name, word) :: others => do
      let value ← expandValue engine word
      if isLocal then makeLocal name
      setVariable name value
      if isLocal || exported then
        modifyProcess fun process =>
          process.withVariable name (some ⟨some value, true, false⟩)
      return (name ++ '=' :: value) :: (← assignAll engine isLocal exported others)

/-- Runs one of the shell's own commands. A mistake ends the shell if the command is special. -/
def runBuiltin (engine : Engine) (stance : Stance) (special : Bool) (name : Text)
    (builtin : Builtin) (arguments : List Text) : Step Unit := do
  try
    asCommand (some name) do
      let status ← builtin engine stance arguments
      if (← getProcess).outputFailed then
        modifyProcess fun process => { process with outputFailed := false }
        report (name ++ ": I/O error".toList)
        setStatus (if status = 0 then 1 else status)
      else setStatus status
  catch
    | .failed => if special then throw .failed
    | departure => throw departure

/-- How many functions may run within each other. -/
def callLimit : Nat := 1000

/-- Runs a function with some arguments. -/
def runFunction (engine : Engine) (stance : Stance) (body : Command) (arguments : List Text) :
    Step Unit := do
  let before ← getProcess
  if callLimit ≤ before.calls then
    mistake ("Maximum function recursion depth (".toList ++ Text.digits callLimit ++
      ") reached".toList)
  modifyProcess fun process => { process with
    arguments := arguments
    optionIndex := 1
    optionPlace := none
    loops := 0
    calls := process.calls + 1 }
  let restore : Step Unit := modifyProcess fun process => { process with
    arguments := before.arguments
    optionIndex := before.optionIndex
    optionPlace := before.optionPlace
    loops := before.loops
    calls := before.calls }
  try
    engine.run ⟨stance.tested, false⟩ body
    restore
  catch
    | .returned => restore
    | departure =>
        restore
        throw departure

/-- Whether something is to be done when a signal arrives or at the end. -/
def Process.hasTraps (process : Process) : Bool := process.traps.any (!·.2.isEmpty)

/-- Takes over how a program that the shell has waited for ended. -/
def settleStatus (status : ExitStatus) : Step Unit := do
  setStatus (statusNumber status)
  match status with
  | .signal number => complain (signalNotice number)
  | .code _ => return
  reapJobs

/-- How many milliseconds the words of the command `sleep` ask for. -/
def sleepTime (words : List Text) : Nat :=
  words.foldl (fun time word => time + Text.valueOf (word.takeWhile Text.isDigit) * 1000) 0

/-- Lets the time go by for which the words of a command ask. -/
def sleepFor (engine : Engine) (words : List Text) : Step Unit := do
  if words.head? = some "sleep".toList then
    let now := (← get).clock + sleepTime words.tail
    modify fun state => { state with clock := now }
    wakeJobs engine (some now) jobSteps

/-- Runs a program. -/
def runProgram (engine : Engine) (stance : Stance) (paths : List Text) (words : List Text) :
    Step Unit := do
  let name := words.headD []
  if !name.elem '/' then track name
  if stance.last && !(← getProcess).hasTraps then
    replaceProcess engine paths name words.tail
  else
    match ← executeFirst engine name words.tail paths .notFound with
    | .ok status =>
        sleepFor engine words
        settleStatus status
    | .error fault =>
        report (name ++ ": ".toList ++ launchMessage fault)
        setStatus (launchStatus fault)

/-- Runs a command whose redirections and assignments are done. -/
def runReady (engine : Engine) (stance : Stance) (ready : Ready) : Step Unit := do
  let name := ready.words.headD []
  match ready.isOwn, builtin? name with
  | true, some builtin =>
      runBuiltin engine stance ready.special name builtin ready.words.tail
  | _, _ =>
      let state ← get
      match lookUp state ready.withFunctions (ready.search?.getD state.process.searchPath) name with
      | .function body => runFunction engine stance body ready.words.tail
      | .program paths => runProgram engine stance paths ready.words
      | .own special =>
          match builtin? name with
          | some builtin => runBuiltin engine stance special name builtin ready.words.tail
          | none => return
      | .missing fault =>
          report (name ++ ": ".toList ++ launchMessage fault)
          setStatus 127

/-- Does redirections for the time of a step. A redirection that fails gives the status two, and ends
the shell if that is asked for. -/
def withRedirections (engine : Engine) (fatal lasting : Bool) (redirections : List Redirection)
    (step : Step Unit) : Step Unit := do
  let prepared ← redirections.mapM (prepareRedirection engine)
  let all : Step Unit := do
    if ← redirectAll prepared then step
    else
      setStatus 2
      if fatal then throw .failed
  if lasting then all else withDescriptors all

/-- Runs a simple command. -/
def runSimple (engine : Engine) (stance : Stance) (line : Nat)
    (assignments : List (Text × Word)) (words : List Word) (redirections : List Redirection) :
    Step Unit := do
  modifyProcess fun process => { process with line := line, outputStatus := 0 }
  let (first, others) ← expandFirst engine words
  let descriptors := (← getProcess).descriptors
  if first.isEmpty then
    withRedirections engine false false redirections do
      let shown ← assignAll engine false false assignments
      trace engine descriptors shown
      setStatus (← getProcess).outputStatus
  else
    let ready ← makeReady engine none true none (first.length + words.length + 1) first others
    let isLocal := !(ready.isOwn && ready.special)
    let replaces := ready.isOwn && ready.words.headD [] = "exec".toList
    let all : Step Unit :=
      withRedirections engine ready.special replaces redirections do
        let shown ← assignAll engine isLocal (replaces && 1 < ready.words.length) assignments
        trace engine descriptors (shown ++ ready.words)
        runReady engine stance ready
    if isLocal then withLocals all else all

end ProjectTags.Shell
