import ProjectTags.Shell.Script
import ProjectTags.Shell.Switch

/-!
# Signals

A script can send signals to its own shell and to commands in the background, and say what is done
when one arrives at the shell. The end of the shell counts as a signal of number zero, which only a
trap can notice.
-/

namespace ProjectTags.Shell

/-- How many signals there are, that of the end counted. -/
def signalCount : Nat := 65

/-- The names of the signals of the shell, by number. -/
def signalName (number : Nat) : Text :=
  if number = 0 then "EXIT".toList
  else if number = 16 || number = 32 || number = 33 then Text.digits number
  else if number < 32 then (ExitStatus.signalName? number).getD []
  else if number = 34 then "RTMIN".toList
  else if number = 64 then "RTMAX".toList
  else if number < 50 then "RTMIN+".toList ++ Text.digits (number - 34)
  else "RTMAX-".toList ++ Text.digits (64 - number)

/-- The number of a signal that is given by its number. -/
def numberedSignal? (text : Text) : Option Nat :=
  if !text.isEmpty && text.all Text.isDigit && Text.valueOf text < signalCount then
    some (Text.valueOf text)
  else none

/-- The number of a signal by its number or its name, for names from a number on. -/
def signalNumber? (least : Nat) (name : Text) : Option Nat :=
  match numberedSignal? name with
  | some number => some number
  | none =>
      (List.range signalCount).find? fun number =>
        least ≤ number && (signalName number).map Char.toLower = name.map Char.toLower

/-- Whether a signal that nobody asked for changes nothing. -/
def isHarmless (signal : Nat) : Bool :=
  [0, 17, 18, 19, 20, 21, 22, 23, 28].elem signal

/-- What a signal does to the shell itself. Something that is to be done has to wait for the end
of the command that runs. -/
def receive (signal : Nat) : Step Unit := do
  match signal, (← getProcess).traps.lookup signal with
  | 0, _ | 19, _ => return
  | 9, _ => throw (.killed 9)
  | signal, some action =>
      if !action.isEmpty then
        modify fun state => { state with
          signals := (state.signals.filter (· != signal) ++ [signal]).mergeSort (· ≤ ·) }
  | signal, none => if !isHarmless signal then throw (.killed signal)

/-- Carries out what is to be done at a signal. The status stays what it was. -/
def runTrap (engine : Engine) (action : Text) : Step Unit := do
  let process ← getProcess
  let status := process.saved.getD process.status
  modifyProcess fun process => { process with saved := some status }
  try runText engine ⟨false, false⟩ action
  catch
    | .returned =>
        modifyProcess fun after => { after with saved := process.saved }
        throw .returned
    | departure => throw departure
  modifyProcess fun after => { after with saved := process.saved, status := status }

/-- Takes care of the signals that have arrived at the shell itself, at most so many. -/
def handleSignals (engine : Engine) : Nat → Step Unit
  | 0 => return
  | steps + 1 => do
      let state ← get
      match state.process.isMain, state.signals with
      | true, signal :: others =>
          set { state with signals := others }
          match state.process.traps.lookup signal with
          | some action => if !action.isEmpty then runTrap engine action
          | none => receive signal
          handleSignals engine steps
      | _, _ => return

/-- Sends a signal to a process and tells whether there is one. -/
def sendSignal (signal number : Nat) : Step Bool := do
  let state ← get
  if number = ownNumber then
    if state.process.isMain then receive signal
    else if signal != 0 then
      set { state with signals := state.signals ++ [signal] }
    return true
  else
    match state.jobs.lookup number with
    | some ⟨_, .asleep _ _ _⟩ =>
        if !(isHarmless signal || signal = 2 || signal = 3) then
          settleJob number (.signal signal)
        return true
    | some ⟨_, .finished _ waitedFor⟩ => return !waitedFor
    | none => return false

/-- The number of the command in the background that a name stands for: the last one, the one before
it, or that with a number in the list. -/
def jobNumber (text : Text) : Step Nat := do
  let listed := (← get).jobs.filter fun job => job.2.place.isSome
  let found? := match text.drop 1 with
    | [] | ['%'] | ['+'] => listed.getLast?
    | ['-'] => listed.dropLast.getLast?
    | name =>
        if name.all Text.isDigit then
          listed.find? fun job => job.2.place = some (Text.valueOf name)
        else none
  match found? with
  | some (number, _) => return number
  | none => mistake ("No such job: ".toList ++ text)

/-- The number of the process that a text names. -/
def processNumber (text : Text) : Step Nat :=
  match text with
  | '%' :: _ => jobNumber text
  | '-' :: digits => readNumber digits
  | text => readNumber text

/-- Sends a signal to processes one after the other. -/
def sendAll (signal : Nat) : List Text → Step Nat
  | [] => return 0
  | text :: others => do
      let found ← sendSignal signal (← processNumber text)
      if !found then report "No such process\n".toList
      let status ← sendAll signal others
      return if found then status else 1

/-- What is said about wrong arguments of `kill`. -/
def killUsage {α : Type} : Step α :=
  mistake ("Usage: kill [-s sigspec | -signum | -sigspec] [pid | job]... or\n".toList ++
    "kill -l [exitstatus]".toList)

/-- Lists the signals, or names one by its number or the status of what it ended. -/
def listSignals : List Text → Step Nat
  | [] => do
      say ('0' :: '\n' ::
        (List.range (signalCount - 1)).flatMap fun number => signalName (number + 1) ++ ['\n'])
      return 0
  | text :: _ => do
      let number ← readNumber text
      let number := if 128 < number then number - 128 else number
      if 0 < number && number < signalCount then
        say (signalName number ++ ['\n'])
        return 0
      else mistake ("invalid signal number or exit status: ".toList ++ text)

/-- Sends a signal to processes, or lists the signals. -/
def kill : Builtin := fun _ _ arguments => do
  let letters : Letters := [('l', false), ('s', true)]
  match arguments with
  | [] => killUsage
  | ('-' :: name) :: numbers =>
      match signalNumber? 1 name with
      | some signal => if numbers.isEmpty then killUsage else sendAll signal numbers
      | none =>
          let (switches, numbers) ← readSwitches letters arguments
          let signals ← switches.filterMapM fun switch => do
            if switch.1 = 's' then
              match signalNumber? 1 switch.2 with
              | some signal => return some signal
              | none => mistake ("invalid signal number or name: ".toList ++ switch.2)
            else return none
          let listed := switches.any (·.1 = 'l')
          match signals.getLast? with
          | some signal => if listed || numbers.isEmpty then killUsage else sendAll signal numbers
          | none =>
              if listed then listSignals numbers
              else if numbers.isEmpty then killUsage
              else sendAll 15 numbers
  | numbers => sendAll 15 numbers

/-- Says what is done when some signals arrive, or that it is the usual again. -/
def setTraps (action? : Option Text) : List Text → Step Nat
  | [] => return 0
  | name :: others => do
      match signalNumber? 0 name with
      | some number =>
          modifyProcess fun process => { process with
            traps := (action?.map (number, ·)).toList ++ process.traps.filter (·.1 != number) }
          setTraps action? others
      | none =>
          complain ("trap: ".toList ++ name ++ ": bad trap\n".toList)
          return 1

/-- Says what is done when signals arrive, or lists that. -/
def trap : Builtin := fun _ _ arguments => do
  match ← operandsOf arguments with
  | [] =>
      let traps := (← getProcess).traps
      (List.range signalCount).forM fun number =>
        match traps.lookup number with
        | some action =>
            say ("trap -- ".toList ++ quotedText action ++ ' ' :: signalName number ++ ['\n'])
        | none => return
      return 0
  | [name] => setTraps none [name]
  | first :: names =>
      if (numberedSignal? first).isSome then setTraps none (first :: names)
      else setTraps (if first = ['-'] then none else some first) names

end ProjectTags.Shell
