import ProjectTags.Shell.Syntax
import ProjectTags.Text.Integer
import ProjectTags.Tool.Basic

/-!
# The state of a shell

What a shell works on. A `Process` is what the shell copies when it makes a copy of itself: its
variables, its descriptors and so on. The `State` adds what the copies share: the files, the
channels behind the descriptors and what was written. A `Departure` is a way in which control
leaves a command before its end.
-/

namespace ProjectTags.Shell

/-- A variable. It may be known without having a value. -/
structure Variable where
  value : Option Text
  /-- Whether programs see it. -/
  exported : Bool
  readOnly : Bool

/-- Where a descriptor leads to. -/
inductive Channel where
  /-- What the shell was given to write to. -/
  | standard (stream : Stream)
  /-- Bytes that can be read, and those written since, the last ones first. What was read too much
  may be given back or not. -/
  | pipe (seekable : Bool) (content : Bytes) (added : List Bytes)
  /-- Bytes that are read only once all of them are written, the last ones first. There is room for
  so many more. -/
  | conduit (room : Nat) (added : List Bytes)
  /-- A file at some position; what is appended always goes to its end. -/
  | file (location : Location) (position : Nat) (append : Bool)
  | nowhere

/-- The part of a shell that a copy of it gets. -/
structure Process where
  current : Location
  /-- The path of the current directory. -/
  directory : Text
  assigned : List (Text × Variable)
  functions : List (Text × Command)
  aliases : List (Text × Text)
  /-- The letters of the options that are on. -/
  options : List Char
  /-- What is done when a signal arrives; zero stands for the end of the shell. -/
  traps : List (Nat × Text)
  /-- The channels of the descriptors, by number. -/
  descriptors : List (Nat × Nat)
  arguments : List Text
  /-- The name by which the shell was started, for its messages. -/
  name : Text
  /-- The command of the shell that runs, for its messages. -/
  commandName : Option Text
  /-- The line of the command that runs. -/
  line : Nat
  /-- The status of the last command. -/
  status : Nat
  /-- The status that counts where none is said, while something is done at a signal or at the
  end. -/
  saved : Option Nat
  /-- The status of the last command whose output was taken over. -/
  outputStatus : Nat
  /-- How many loops the command that runs is in. -/
  loops : Nat
  /-- The variables of the functions that run, as they were before, innermost function first. -/
  locals : List (List (Text × Option Variable))
  /-- How many functions run. -/
  calls : Nat
  /-- Whether this is the shell itself and not a copy of it. -/
  isMain : Bool
  /-- The number of the last command in the background. -/
  lastJob : Option Nat
  /-- The argument at which options are looked for next, counted from one. -/
  optionIndex : Nat
  /-- The letter of the argument before at which that goes on. -/
  optionPlace : Option Nat
  /-- The programs that were found on the search path, last one first. -/
  tracked : List Text
  /-- Whether something could not be written. -/
  outputFailed : Bool

/-- What has become of a command in the background. -/
inductive Work where
  /-- It sleeps for some milliseconds before it goes on. -/
  | asleep (due : Nat) (process : Process) (command : Command)
  /-- It has ended, and it may have been waited for. -/
  | finished (status : ExitStatus) (waitedFor : Bool)

/-- A command in the background. -/
structure Job where
  /-- The number by which it is listed, until its end was made known. -/
  place : Option Nat
  work : Work

/-- A running shell. -/
structure State where
  process : Process
  files : FileTree
  channels : List (Nat × Channel)
  /-- The next number of a channel. -/
  nextChannel : Nat
  /-- What was written to the standard streams, last first. -/
  written : List (Stream × Bytes)
  /-- The texts of the scripts that were read, by number. -/
  texts : List (Nat × Word)
  nextText : Nat
  jobs : List (Nat × Job)
  /-- Signals that have arrived at the shell itself. -/
  signals : List Nat
  /-- How many milliseconds have gone by in sleep. -/
  clock : Nat

/-- A way in which control leaves a command. -/
inductive Departure where
  /-- The process ends with the status that it has. -/
  | exited
  /-- The same, after a mistake that some commands survive. -/
  | failed
  | killed (signal : Nat)
  /-- The process has become another program, which has ended. -/
  | replaced (status : ExitStatus)
  /-- Some loops are left. -/
  | leave (loops : Nat)
  /-- Some loops but the last are left, and that one goes on. -/
  | again (loops : Nat)
  /-- A function or a script is left. -/
  | returned
  deriving DecidableEq, Repr

/-- A step of a shell. -/
abbrev Step := ExceptT Departure (StateM State)

/-- What a command is to the one around it. -/
structure Stance where
  /-- Whether its failure is looked at and does not end the shell. -/
  tested : Bool
  /-- Whether the process ends with it. -/
  last : Bool

/-- What the shell carries out commands with. -/
structure Engine where
  launch : Tool.Runner
  run : Stance → Command → Step Unit

/-- The number of the process of the shell, by which a script can end itself. -/
def ownNumber : Nat := 4242

/-- The process that runs. -/
def getProcess : Step Process := return (← get).process

/-- Changes the process that runs. -/
def modifyProcess (change : Process → Process) : Step Unit :=
  modify fun state => { state with process := change state.process }

/-- Sets the status of the last command. -/
def setStatus (status : Nat) : Step Unit :=
  modifyProcess fun process => { process with status := status }

/-- The status number of an ending. -/
def statusNumber : ExitStatus → Nat
  | .code number => number
  | .signal number => 128 + number

/-- Whether an option is on. -/
def Process.has (process : Process) (option : Char) : Bool := process.options.elem option

namespace Process

/-- The value of a variable. -/
def value? (process : Process) (name : Text) : Option Text :=
  (process.assigned.lookup name).bind (·.value)

/-- The characters at which values are split into words. -/
def separators (process : Process) : Text :=
  (process.value? "IFS".toList).getD [' ', '\t', '\n']

/-- The process with a variable put in the place of what it was. -/
def withVariable (process : Process) (name : Text) (new? : Option Variable) : Process :=
  { process with
    assigned :=
      match new? with
      | none => process.assigned.filter (·.1 != name)
      | some v =>
          if process.assigned.any (·.1 = name) then
            process.assigned.map fun entry => if entry.1 = name then (name, v) else entry
          else process.assigned ++ [(name, v)] }

/-- The place of a name among so many, by which the names of programs' variables are ordered. -/
def rankOf (places : Nat) (name : Text) : Nat :=
  name.foldl (fun rank c => rank + c.toNat) (16 * ((name.head?.map Char.toNat).getD 0)) % places

/-- The variables that programs see. -/
def environment (process : Process) : List (Text × Text) :=
  (process.assigned.filterMap fun (name, v) =>
    if v.exported then v.value.map (name, ·) else none).mergeSort fun first second =>
      rankOf 39 first.1 ≤ rankOf 39 second.1

end Process

namespace State

/-- The machine as a program of the shell finds it. -/
def machine (state : State) : Machine :=
  ⟨state.files, state.process.current, state.process.environment⟩

/-- The channel of a descriptor, with its number. -/
def channel? (state : State) (descriptor : Nat) : Option (Nat × Channel) := do
  let number ← state.process.descriptors.lookup descriptor
  let channel ← state.channels.lookup number
  return (number, channel)

/-- The state with another channel under a number. -/
def withChannel (state : State) (number : Nat) (channel : Channel) : State :=
  { state with channels := (number, channel) :: state.channels.filter (·.1 != number) }

/-- The content of a file with some bytes written over it from a position on. -/
def overwritten (content : Bytes) (position : Nat) (bytes : Bytes) : Bytes :=
  content.take position ++ List.replicate (position - content.length) 0 ++ bytes ++
    content.drop (position + bytes.length)

/-- The state with some bytes written to a descriptor, if that is open. -/
def writeTo? (state : State) (descriptor : Nat) (bytes : Bytes) : Option State := do
  let (number, channel) ← state.channel? descriptor
  match channel with
  | .standard stream => return { state with written := (stream, bytes) :: state.written }
  | .pipe seekable content added =>
      return state.withChannel number (.pipe seekable content (bytes :: added))
  | .conduit room added =>
      return state.withChannel number (.conduit (room - bytes.length) (bytes :: added))
  | .nowhere => return state
  | .file location position append =>
      match state.files.node? location with
      | some (.file content executable) =>
          let position := if append then content.length else position
          let node := Node.file (overwritten content position bytes) executable
          let state := { state with files := state.files.put location node }
          return state.withChannel number (.file location (position + bytes.length) append)
      | _ => return state

/-- What can be read from a descriptor, and whether it can be given back. -/
def readable (state : State) (descriptor : Nat) : Bytes × Bool :=
  match state.channel? descriptor with
  | some (_, .pipe seekable content []) => (content, seekable)
  | some (_, .pipe seekable content added) => (content ++ added.reverse.flatten, seekable)
  | some (_, .file location position _) =>
      match state.files.node? location with
      | some (.file content _) => (content.drop position, true)
      | _ => ([], true)
  | _ => ([], false)

/-- The state after reading from a descriptor, with what is left there. -/
def afterReading (state : State) (descriptor : Nat) (rest : Bytes) : State :=
  match state.channel? descriptor with
  | some (number, .pipe seekable _ _) => state.withChannel number (.pipe seekable rest [])
  | some (number, .file location position append) =>
      match state.files.node? location with
      | some (.file content _) =>
          let position := if content.length ≤ position then position
            else content.length - rest.length
          state.withChannel number (.file location position append)
      | _ => state
  | _ => state

/-- The state with a new channel, and its number. -/
def opening (state : State) (channel : Channel) : Nat × State :=
  (state.nextChannel,
    { state with
      channels := (state.nextChannel, channel) :: state.channels
      nextChannel := state.nextChannel + 1 })

end State

/-- Opens a channel. -/
def openChannel (channel : Channel) : Step Nat :=
  modifyGet fun state => state.opening channel

/-- Makes a descriptor lead to a channel, or closes it. -/
def setDescriptor (descriptor : Nat) (channel? : Option Nat) : Step Unit :=
  modifyProcess fun process => { process with
    descriptors := (channel?.map (descriptor, ·)).toList ++
      process.descriptors.filter (·.1 != descriptor) }

/-- Whether what is written to a descriptor finds no room any more, as nobody reads it. -/
def State.isFull (state : State) (descriptor : Nat) : Bool :=
  match state.channel? descriptor with
  | some (_, .conduit 0 _) => true
  | _ => false

/-- Writes to a descriptor, and tells whether it is open. Who writes what nobody reads is ended by a
signal. -/
def writeTo (descriptor : Nat) (bytes : Bytes) : Step Bool := do
  if bytes.isEmpty then return true
  let state ← get
  if state.isFull descriptor then throw (.killed 13)
  match state.writeTo? descriptor bytes with
  | some state => set state; return true
  | none => return false

/-- Writes a text to the standard errors. -/
def complain (text : Text) : Step Unit := do
  let _ ← writeTo 2 (SingleByte.toBytes text)

/-- The beginning of the shell's messages, with the line of the command that runs. -/
def Process.place (process : Process) : Text :=
  process.name ++ ": ".toList ++ Text.digits process.line ++ ": ".toList

/-- Writes a message about the command that runs to the standard errors. -/
def report (message : Text) : Step Unit := do
  let process ← getProcess
  let command := match process.commandName with
    | some name => name ++ ": ".toList
    | none => []
  complain (process.place ++ command ++ message ++ ['\n'])

/-- Gives up with a message. -/
def mistake {α : Type} (message : Text) : Step α := do
  report message
  setStatus 2
  throw .failed

/-- Gives up over a text that is no number. -/
def noNumber {α : Type} (text : Text) : Step α :=
  mistake ("Illegal number: ".toList ++ text)

/-- The number that a text stands for, which may not be too great. -/
def readNumber (text : Text) : Step Nat :=
  match Text.decimalInteger? text with
  | some (.ofNat number) => if number < 2147483648 then return number else noNumber text
  | _ => noNumber text

/-- The variable of a name, which may be unknown. -/
def Process.find? (process : Process) (name : Text) : Option Variable :=
  process.assigned.lookup name

/-- Refuses a name that no variable can have, and to change a variable that may only be read. -/
def requireWritable (name : Text) : Step Unit := do
  if !isName name then mistake (name ++ ": bad variable name".toList)
  match (← getProcess).find? name with
  | some ⟨_, _, true⟩ => mistake (name ++ ": is read only".toList)
  | _ => return

/-- The process in which options are looked for from an argument on. -/
def Process.atOption (process : Process) (value : Text) : Process :=
  let index := match Text.decimalInteger? value with
    | some (.ofNat number) => max 1 number
    | _ => 1
  { process with optionIndex := index, optionPlace := none }

/-- Gives a variable a value. -/
def setVariable (name value : Text) : Step Unit := do
  requireWritable name
  modifyProcess fun process =>
    let exported := match process.find? name with
      | some v => v.exported
      | none => false
    let process := process.withVariable name
      (some ⟨some value, exported || process.has 'a', false⟩)
    if name = "OPTIND".toList then process.atOption value
    else if name = "PATH".toList then { process with tracked := [] }
    else process

/-- Takes a variable away. -/
def unsetVariable (name : Text) : Step Unit := do
  requireWritable name
  modifyProcess fun process => process.withVariable name none

/-- The name under which the options of the shell are remembered like a variable. -/
def optionsName : Text := ['-']

/-- Remembers a variable of the function that runs as it is, or the options. -/
def makeLocal (name : Text) : Step Unit :=
  modifyProcess fun process =>
    match process.locals with
    | [] => process
    | innermost :: others =>
        let before := if name = optionsName then some ⟨some process.options, false, false⟩
          else process.find? name
        { process with locals := ((name, before) :: innermost) :: others }

/-- Gives a variable or the options back what they were. -/
def Process.restored (process : Process) (name : Text) (before : Option Variable) : Process :=
  if name = optionsName then
    { process with options := (before.bind (·.value)).getD [] }
  else process.withVariable name before

/-- Carries out something with variables of its own, and gives them back what they were. -/
def withLocals {α : Type} (step : Step α) : Step α := do
  modifyProcess fun process => { process with locals := [] :: process.locals }
  let restore : Step Unit := modifyProcess fun process =>
    match process.locals with
    | [] => process
    | innermost :: others =>
        innermost.foldl (fun process entry => process.restored entry.1 entry.2)
          { process with locals := others }
  try
    let value ← step
    restore
    return value
  catch departure =>
    restore
    throw departure

/-- Carries out something with descriptors of its own. -/
def withDescriptors {α : Type} (step : Step α) : Step α := do
  let before := (← getProcess).descriptors
  let restore : Step Unit := modifyProcess fun process => { process with descriptors := before }
  try
    let value ← step
    restore
    return value
  catch departure =>
    restore
    throw departure

/-- Carries out something as the command of a name, for messages. -/
def asCommand {α : Type} (name : Option Text) (step : Step α) : Step α := do
  let before := (← getProcess).commandName
  modifyProcess fun process => { process with commandName := name }
  let restore : Step Unit := modifyProcess fun process => { process with commandName := before }
  try
    let value ← step
    restore
    return value
  catch departure =>
    restore
    throw departure

end ProjectTags.Shell
