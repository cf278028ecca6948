import ProjectTags.Shell.Parser
import ProjectTags.Shell.State

/-!
# Running scripts

A script is read and carried out command by command, so what stands before a mistake in it takes
effect. `runText` does that within the shell that runs. `inChild` carries something out in a copy
of the shell, of which nothing is left at its end but what was written.
-/

namespace ProjectTags.Shell

/-- Reads the next command of a script, which may use texts that are read with it. -/
def readNext (cursor : Cursor) : Step (Option Command × Bool × Cursor) := do
  let state ← get
  let cursor := { cursor with
    texts := [], next := state.nextText, aliases := state.process.aliases }
  match readCommand.run cursor with
  | .error wrong =>
      modifyProcess fun process => { process with line := wrong.line }
      mistake wrong.message
  | .ok ((command, ended), after) =>
      modify fun state => { state with
        texts := after.texts ++ state.texts, nextText := after.next }
      return (command, ended, after)

/-- Carries out the commands of a script from a place on. If there are none in all of the script,
the status is zero. -/
def runFrom (engine : Engine) (stance : Stance) (begun : Bool) : Nat → Cursor → Step Unit
  | 0, _ => return
  | steps + 1, cursor => do
      let (command, ended, after) ← readNext cursor
      match command with
      | none => if !begun then setStatus 0
      | some .nothing => runFrom engine stance begun steps after
      | some command =>
          engine.run { stance with last := stance.last && ended } command
          runFrom engine stance true steps after

/-- Carries out a script in the shell that runs. -/
def runText (engine : Engine) (stance : Stance) (script : Text) : Step Unit :=
  runFrom engine stance false (script.length + 2) (Cursor.start script 0 [])

/-- Carries out a script as a file of its own, which can be left by itself. -/
def runFile (engine : Engine) (script : Text) : Step Unit := do
  try runText engine ⟨false, false⟩ script
  catch
    | .returned => return
    | departure => throw departure

/-- Carries out what is to be done at the end of a process. The status of the process is kept
unless that says something else. -/
def runExitTrap (engine : Engine) : Step Unit := do
  let process ← getProcess
  match process.traps.lookup 0 with
  | none => return
  | some action =>
      modifyProcess fun process => { process with
        traps := process.traps.filter (·.1 != 0)
        saved := some process.status }
      try runText engine ⟨false, false⟩ action
      catch
        | .returned => pure ()
        | departure => throw departure
      setStatus process.status

/-- Whether a job no longer needs the number by which it is listed. -/
def Job.isOver (job : Job) : Bool :=
  match job.work with
  | .finished _ waitedFor => waitedFor
  | _ => false

/-- The state with one more command in the background, listed by the first number that is free. -/
def State.withJob (state : State) (number : Nat) (work : Work) : State :=
  let busy := (state.jobs.filter fun job => !job.2.isOver).filterMap (·.2.place)
  let place := (((List.range (busy.length + 1)).map (· + 1)).find? (!busy.elem ·)).getD 1
  { state with
    jobs := state.jobs.map (fun job =>
        if job.2.place = some place then (job.1, { job.2 with place := none }) else job) ++
      [(number, ⟨some place, work⟩)] }

/-- The first command in the background that wakes up in time. -/
def State.nextAwake? (state : State) (limit? : Option Nat) : Option (Nat × Nat × Process × Command) :=
  state.jobs.foldl (fun best job =>
    match job with
    | (number, ⟨_, .asleep due process command⟩) =>
        let inTime := match limit? with
          | some limit => due ≤ limit
          | none => true
        let earlier := match best with
          | some (_, other, _, _) => due < other
          | none => true
        if inTime && earlier then some (number, due, process, command) else best
    | _ => best) none

/-- Makes it known how a command in the background ended. -/
def settleJob (number : Nat) (status : ExitStatus) : Step Unit :=
  modify fun state => { state with
    jobs := state.jobs.map fun job =>
      if job.1 = number then (number, { job.2 with work := .finished status false }) else job }

/-- Carries something out up to the end of the process and gives how that ends. -/
def untilEnd (engine : Engine) (step : Step Unit) : Step ExitStatus := do
  let departure : Option Departure ← try
      step
      pure none
    catch departure => pure (some departure)
  match departure with
  | some (.killed signal) => return .signal signal
  | some (.replaced status) => return status
  | _ =>
      let ended : Option Departure ← try
          runExitTrap engine
          pure none
        catch departure => pure (some departure)
      match ended with
      | some (.killed signal) => return .signal signal
      | some (.replaced status) => return status
      | _ => return .code ((← getProcess).status % 256)

/-- Carries something out in a copy of the shell and gives how that ends. What is done at signals
is not copied, unless it is to ignore them. -/
def inCopy (engine : Engine) (process : Process) (step : Step Unit) : Step ExitStatus := do
  let before ← get
  set { before with
    jobs := []
    process := { process with
      isMain := false
      traps := process.traps.filter (·.2.isEmpty) } }
  let status ← untilEnd engine step
  modify fun state => { state with process := before.process, jobs := before.jobs }
  return status

/-- Carries out the commands in the background that wake up in time, one after the other. -/
def wakeJobs (engine : Engine) (limit? : Option Nat) : Nat → Step Unit
  | 0 => return
  | steps + 1 => do
      match (← get).nextAwake? limit? with
      | none => return
      | some (number, _, process, command) =>
          let status ← inCopy engine process (engine.run ⟨false, true⟩ command)
          settleJob number status
          wakeJobs engine limit? steps

/-- A bound for the number of commands in the background. -/
def jobSteps : Nat := 10000

/-- Carries something out in a copy of the shell, and with it what that leaves in the background.
It ends as the copy does. -/
def inChild (engine : Engine) (step : Step Unit) : Step ExitStatus := do
  let process ← getProcess
  let before := (← get).jobs
  modify fun state => { state with jobs := [] }
  let status ← inCopy engine process do
    try step
    catch departure =>
      wakeJobs engine none jobSteps
      throw departure
    wakeJobs engine none jobSteps
  modify fun state => { state with jobs := before }
  return status

/-- What is said about a program that a signal ended. -/
def signalNotice (number : Nat) : Text :=
  match number with
  | 1 => "Hangup\n".toList
  | 2 => []
  | 3 => "Quit\n".toList
  | 4 => "Illegal instruction\n".toList
  | 5 => "Trace/breakpoint trap\n".toList
  | 6 => "Aborted\n".toList
  | 7 => "Bus error\n".toList
  | 8 => "Floating point exception\n".toList
  | 9 => "Killed\n".toList
  | 10 => "User defined signal 1\n".toList
  | 11 => "Segmentation fault\n".toList
  | 12 => "User defined signal 2\n".toList
  | 14 => "Alarm clock\n".toList
  | 15 => "Terminated\n".toList
  | 16 => "Stack fault\n".toList
  | 24 => "CPU time limit exceeded\n".toList
  | 25 => "File size limit exceeded\n".toList
  | 26 => "Virtual timer expired\n".toList
  | 27 => "Profiling timer expired\n".toList
  | 29 => "I/O possible\n".toList
  | 30 => "Power failure\n".toList
  | 31 => "Bad system call\n".toList
  | _ => []

/-- Carries something out in a copy of the shell and gives what that writes. -/
def capture (engine : Engine) (step : Step Unit) : Step Bytes := do
  let number ← openChannel (.pipe false [] [])
  let status ← inChild engine do
    setDescriptor 1 (some number)
    step
  modifyProcess fun process => { process with outputStatus := statusNumber status }
  match status with
  | .signal signal => complain (signalNotice signal)
  | .code _ => pure ()
  let written := match (← get).channels.lookup number with
    | some (.pipe _ content added) => content ++ added.reverse.flatten
    | _ => []
  modify fun state => { state with channels := state.channels.filter (·.1 != number) }
  return written

end ProjectTags.Shell
