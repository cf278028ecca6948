import ProjectTags.Shell.Simple

/-!
# Running shell commands

`run` carries out a command. Commands hold other commands and call functions, so `run` counts down a
number of steps and leaves the rest undone when there are none left.
-/

namespace ProjectTags.Shell

/-- Carries out a command whose failure decides about other commands, and tells whether it
succeeds. -/
def asCondition (engine : Engine) (command : Command) : Step Bool := do
  engine.run ⟨true, false⟩ command
  return (← getProcess).status = 0

/-- How often loops go round at most. -/
def loopLimit : Nat := 10000000

/-- Carries out a turn of a loop, and tells whether the loop goes on. -/
def runTurn (turn : Step Bool) : Step Bool := do
  try turn
  catch
    | .leave loops => if loops ≤ 1 then return false else throw (.leave (loops - 1))
    | .again loops => if loops ≤ 1 then return true else throw (.again (loops - 1))
    | departure => throw departure

/-- Carries out something as the inside of a loop. -/
def inLoop (step : Step Unit) : Step Unit := do
  let before := (← getProcess).loops
  modifyProcess fun process => { process with loops := before + 1 }
  let restore : Step Unit := modifyProcess fun process => { process with loops := before }
  try
    step
    restore
  catch departure =>
    restore
    throw departure

/-- Repeats a command as long as a condition has a certain answer, up to a number of times. The
status is that of the last command that was repeated. -/
def repeatWhile (engine : Engine) (stance : Stance) (untilTrue : Bool) (condition body : Command) :
    Nat → Nat → Step Unit
  | 0, last => setStatus last
  | times + 1, last => do
      let goesOn ← runTurn do
        if (← asCondition engine condition) = untilTrue then
          setStatus last
          return false
        else
          engine.run ⟨stance.tested, false⟩ body
          return true
      if goesOn then
        repeatWhile engine stance untilTrue condition body times (← getProcess).status

/-- Carries out a command for each of some words. -/
def repeatFor (engine : Engine) (stance : Stance) (name : Text) (body : Command) :
    List Text → Step Unit
  | [] => return
  | word :: others => do
      setVariable name word
      let goesOn ← runTurn do
        engine.run ⟨stance.tested, false⟩ body
        return true
      if goesOn then repeatFor engine stance name body others

/-- Carries out a loop over words, by default over the arguments of the shell. -/
def runEach (engine : Engine) (stance : Stance) (name : Text) (items : Option (List Word))
    (body : Command) : Step Unit := do
  let words ← match items with
    | some items => expandWords engine items
    | none => pure (← getProcess).arguments
  if words.isEmpty then setStatus 0
  else inLoop (repeatFor engine stance name body words)

/-- Whether a text fits one of some patterns. -/
def fitsOne (engine : Engine) (text : Text) : List Word → Step Bool
  | [] => return false
  | word :: others => do
      if Glob.holds (← expandPattern engine word) text then return true
      else fitsOne engine text others

/-- Carries out a command of which nothing may be there, with the status zero then. -/
def runBody (engine : Engine) (stance : Stance) : Command → Step Unit
  | .nothing => setStatus 0
  | body => engine.run stance body

/-- Carries out the first branch with a pattern that a text fits. -/
def runBranch (engine : Engine) (stance : Stance) (text : Text) :
    List (List Word × Command) → Step Unit
  | [] => setStatus 0
  | (patterns, body) :: others => do
      if ← fitsOne engine text patterns then runBody engine stance body
      else runBranch engine stance text others

/-- Does redirections for good, in a copy of the shell. -/
def redirectCopy (prepared : List Prepared) : Step Unit := do
  if !(← redirectAll prepared) then
    setStatus 2
    throw .failed

/-- Carries out a command in a copy of the shell. If that is all that is left to do, no copy is
made. -/
def runSubshell (engine : Engine) (stance : Stance) (command : Command)
    (redirections : List Redirection) : Step Unit := do
  let prepared ← redirections.mapM (prepareRedirection engine)
  if stance.last && !(← getProcess).hasTraps then
    redirectCopy prepared
    engine.run ⟨stance.tested, true⟩ command
    throw .exited
  else
    settleStatus (← inChild engine do
      redirectCopy prepared
      engine.run ⟨stance.tested, true⟩ command)

/-- The words of a command that begins by sleeping, and what it does afterwards. -/
def splitSleep? : Command → Option (List Text × Command)
  | .simple _ [] words [] =>
      let texts := words.map writtenText
      if texts.head? = some "sleep".toList then some (texts.tail, .nothing) else none
  | .sequence first second =>
      (splitSleep? first).map fun (words, rest) => (words, .sequence rest second)
  | .both first second =>
      (splitSleep? first).map fun (words, rest) => (words, .both rest second)
  | .subshell line command redirections =>
      (splitSleep? command).map fun (words, rest) => (words, .subshell line rest redirections)
  | .redirected line command redirections =>
      (splitSleep? command).map fun (words, rest) => (words, .redirected line rest redirections)
  | _ => none

/-- Carries out a command in the background: at once, unless it begins by sleeping. -/
def runBackground (engine : Engine) (line : Nat) (command : Command)
    (redirections : List Redirection) : Step Unit := do
  let channel ← openChannel .nowhere
  let state ← get
  let number := ownNumber + 1 + state.jobs.length
  let process := { state.process with
    descriptors := (0, channel) :: state.process.descriptors.filter (·.1 != 0)
    status := 0 }
  modifyProcess fun process => { process with lastJob := some number }
  let whole (command : Command) : Command :=
    if redirections.isEmpty then command else .redirected line command redirections
  match splitSleep? command with
  | some (words, rest) =>
      let due := state.clock + sleepTime words
      modify fun state => state.withJob number (.asleep due process (whole rest))
  | none =>
      modify fun state => state.withJob number (.finished (.code 0) false)
      settleJob number (← inCopy engine process (engine.run ⟨false, true⟩ (whole command)))
  setStatus 0

/-- How much can be written to a command that does not read yet. -/
def conduitRoom : Nat := 1048576

/-- Makes what was written to a channel readable. -/
def turnAround (number : Nat) : Step Unit :=
  modify fun state =>
    match state.channels.lookup number with
    | some (.conduit _ added) => state.withChannel number (.pipe false added.reverse.flatten [])
    | _ => state

/-- Takes a channel away. -/
def closeChannel (number : Nat) : Step Unit :=
  modify fun state => { state with channels := state.channels.filter (·.1 != number) }

/-- Carries out commands of which each one reads what the one before it wrote. -/
def runPipe (engine : Engine) (stance : Stance) : Option Nat → List Command → Step Unit
  | _, [] => return
  | source, command :: others => do
      let enter : Step Unit := match source with
        | some channel => setDescriptor 0 (some channel)
        | none => return
      match others with
      | [] =>
          settleStatus (← inChild engine do
            enter
            engine.run ⟨stance.tested, true⟩ command)
          source.forM closeChannel
      | _ =>
          let channel ← openChannel (.conduit conduitRoom [])
          settleStatus (← inChild engine do
            enter
            setDescriptor 1 (some channel)
            engine.run ⟨stance.tested, true⟩ command)
          source.forM closeChannel
          turnAround channel
          runPipe engine stance (some channel) others

/-- Ends the shell after a failure, if it is to end then. -/
def endIfFailed (stance : Stance) : Step Unit := do
  let process ← getProcess
  if process.has 'e' && !stance.tested && process.status != 0 then throw .exited

/-- Sets the line of the command that runs. -/
def setLine (line : Nat) : Step Unit :=
  modifyProcess fun process => { process with line := line }

/-- Carries out a command by means of an engine for the commands in it. -/
def carryOut (engine : Engine) (stance : Stance) : Command → Step Unit
  | .nothing => return
  | .simple line assignments words redirections => do
      runSimple engine stance line assignments words redirections
      endIfFailed stance
  | .sequence first second => do
      engine.run ⟨stance.tested, false⟩ first
      engine.run stance second
  | .both first second => do
      if ← asCondition engine first then engine.run stance second
  | .either first second => do
      if !(← asCondition engine first) then engine.run stance second
  | .negated command => do
      let holds ← asCondition engine command
      setStatus (if holds then 1 else 0)
  | .pipe commands => do
      runPipe engine stance none commands
      endIfFailed stance
  | .choice condition yes no => do
      if ← asCondition engine condition then engine.run stance yes else runBody engine stance no
  | .loop untilTrue condition body =>
      inLoop (repeatWhile engine stance untilTrue condition body loopLimit 0)
  | .each line name items body => do
      setLine line
      runEach engine stance name items body
  | .branches line word branches => do
      setLine line
      runBranch engine stance (← expandText engine word) branches
  | .subshell line command redirections => do
      setLine line
      runSubshell engine stance command redirections
      endIfFailed stance
  | .background line command redirections => do
      setLine line
      runBackground engine line command redirections
  | .function name body => do
      modifyProcess fun process => { process with
        functions := (name, body) :: process.functions.filter (·.1 != name) }
      setStatus 0
  | .redirected line command redirections => do
      setLine line
      withRedirections engine false false redirections
        (engine.run ⟨stance.tested, false⟩ command)

/-- How many signals are taken care of at a time. -/
def signalSteps : Nat := 1000

/-- Carries out a command, within a number of steps. Signals are taken care of before it and after
it. -/
def run (launch : Tool.Runner) : Nat → Stance → Command → Step Unit
  | 0, _, _ => return
  | steps + 1, stance, command => do
      let engine : Engine := ⟨launch, run launch steps⟩
      if !(← get).signals.isEmpty then handleSignals engine signalSteps
      if !(← getProcess).has 'n' then carryOut engine stance command
      if !(← get).signals.isEmpty then handleSignals engine signalSteps

end ProjectTags.Shell
