import ProjectTags.Machine.Search
import ProjectTags.Shell.Cursor
import ProjectTags.Shell.Switch

/-!
# Finding commands

What the first word of a command stands for: a function, a command of the shell itself, or a program
on the search path. The shell can tell about that without running the command. Words that stand for
other texts when a script is read are kept here too.
-/

namespace ProjectTags.Shell

/-- What a name of a command stands for. -/
inductive Found where
  | own (special : Bool)
  | function (body : Command)
  /-- The paths at which the program may be, the first one to be tried first. -/
  | program (paths : List Text)
  | missing (fault : Fault)

/-- The directories in which programs are looked for. -/
def Process.searchPath (process : Process) : List Text :=
  Machine.entriesOf ((process.value? "PATH".toList).getD [])

/-- The directories in which the usual programs are. -/
def usualPath : List Text :=
  Machine.entriesOf "/usr/local/sbin:/usr/local/bin:/usr/sbin:/usr/bin:/sbin:/bin".toList

/-- The paths at which a program of a name may be, from the first file on that may be executed. -/
def programPaths (state : State) : List Text → Text → Fault → Except Fault (List Text)
  | [], _, fault => .error fault
  | entry :: others, name, fault =>
      let path := Machine.inEntry entry name
      match state.files.find state.process.current path with
      | .ok (_, .file _ true) =>
          .ok (path :: others.map fun entry => Machine.inEntry entry name)
      | .ok _ => programPaths state others name .permissionDenied
      | .error .notFound | .error .notDirectory => programPaths state others name fault
      | .error other => programPaths state others name other

/-- What a name stands for, where functions may be left out of account. -/
def lookUp (state : State) (withFunctions : Bool) (search : List Text) (name : Text) : Found :=
  if name.elem '/' then .program [name]
  else
    match withFunctions, state.process.functions.lookup name with
    | true, some body => .function body
    | _, _ =>
        if specialCommands.elem name then .own true
        else if regularCommands.elem name then .own false
        else
          match programPaths state search name .notFound with
          | .ok paths => .program paths
          | .error fault => .missing fault

/-- What is said about a program that cannot be run. -/
def launchMessage (fault : Fault) : Text :=
  if fault = .notFound || fault = .notDirectory then "not found".toList else fault.description

/-- Remembers that a program was found on the search path. -/
def track (name : Text) : Step Unit :=
  modifyProcess fun process =>
    if process.tracked.elem name then process
    else { process with tracked := process.tracked ++ [name] }

/-- Tells what a name stands for, in words or only by what would be run. -/
def describe (verbose : Bool) (search? : Option (List Text)) (name : Text) : Step Nat := do
  let state ← get
  let process := state.process
  let tell (words brief : Text) : Step Nat := do
    say ((if verbose then name ++ words else brief) ++ ['\n'])
    return 0
  if reservedWords.elem name then tell " is a shell keyword".toList name
  else
    match process.aliases.lookup name with
    | some text =>
        tell (" is an alias for ".toList ++ text)
          ("alias ".toList ++ name ++ '=' :: quotedText text)
    | none =>
        match lookUp state true (search?.getD process.searchPath) name with
        | .function _ => tell " is a shell function".toList name
        | .own true => tell " is a special shell builtin".toList name
        | .own false => tell " is a shell builtin".toList name
        | .program (path :: _) =>
            if path.elem '/' && name = path && !state.machine.holds path then
              if verbose then say (name ++ ": not found\n".toList)
              return 127
            else
              let tracked := if search?.isNone && process.tracked.elem name then
                " is a tracked alias for ".toList else " is ".toList
              tell (tracked ++ path) path
        | _ => do
            if verbose then say (name ++ ": not found\n".toList)
            return 127

/-- Does something for each of some words, and gives the greatest status. -/
def greatestStatus (step : Text → Step Nat) : List Text → Step Nat
  | [] => return 0
  | word :: others => do
      let status ← step word
      return max status (← greatestStatus step others)

/-- Tells what names stand for. -/
def type : Builtin := fun _ _ names => greatestStatus (describe true none) names

/-- Tells what a name stands for, where the switches of `command` ask for that. -/
def describeCommand : Builtin := fun _ _ arguments => do
  let (switches, names) ← readSwitches [('p', false), ('v', false), ('V', false)] arguments
  let search? := if switches.any (·.1 = 'p') then some usualPath else none
  match (switches.filter (·.1 != 'p')).getLast?, names with
  | some (letter, _), name :: _ => describe (letter = 'V') search? name
  | _, _ => return 0

/-- Writes what a word stands for in scripts. -/
def sayAlias (entry : Text × Text) : Step Unit :=
  say (entry.1 ++ '=' :: quotedText entry.2 ++ ['\n'])

/-- Makes words stand for other texts in scripts, or tells for what they stand. -/
def nameShort : Builtin := fun _ _ words => do
  if words.isEmpty then
    let aliases := (← getProcess).aliases.mergeSort fun first second =>
      Process.rankOf 39 first.1 ≤ Process.rankOf 39 second.1
    aliases.forM sayAlias
    return 0
  else
    greatestStatus (fun word => do
      match Text.splitAt? '=' (word.drop 1) with
      | some (name, text) =>
          let name := word.take 1 ++ name
          modifyProcess fun process => { process with
            aliases :=
              if process.aliases.any (·.1 = name) then
                process.aliases.map fun entry => if entry.1 = name then (name, text) else entry
              else process.aliases ++ [(name, text)] }
          return 0
      | none =>
          match (← getProcess).aliases.lookup word with
          | some text => sayAlias (word, text); return 0
          | none =>
              complain ("alias: ".toList ++ word ++ " not found\n".toList)
              return 1) words

/-- Makes words stand for themselves again. -/
def unalias : Builtin := fun _ _ arguments => do
  let (switches, words) ← readSwitches [('a', false)] arguments
  if !switches.isEmpty then
    modifyProcess fun process => { process with aliases := [] }
    return 0
  else
    greatestStatus (fun word => do
      if (← getProcess).aliases.any (·.1 = word) then
        modifyProcess fun process => { process with
          aliases := process.aliases.filter (·.1 != word) }
        return 0
      else
        complain ("unalias: ".toList ++ word ++ " not found\n".toList)
        return 1) words

end ProjectTags.Shell
