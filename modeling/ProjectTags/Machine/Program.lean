import ProjectTags.Command.Line
import ProjectTags.Machine.FileTree
import ProjectTags.Text.Decimal

/-!
# Programs

The machine as a program finds it, and what a program leaves behind. What the programs of a
machine do is not part of the library's rules: those are stated for any `Programs`, a function
from a command line and an input to an outcome. A program may change files even if it fails.
-/

namespace ProjectTags

/-- The files of a machine, the current directory and the environment. -/
structure Machine where
  files : FileTree
  current : Location
  environment : List (Text × Text)

namespace Machine

/-- Whether something stands at a path. -/
def holds (machine : Machine) (path : Text) : Bool :=
  machine.files.holds machine.current path

/-- Whether a path leads to a directory. -/
def isDirectory (machine : Machine) (path : Text) : Bool :=
  machine.files.isDirectory machine.current path

/-- The path of the current directory, or the root if it is no longer there. -/
def currentPath (machine : Machine) : Text :=
  match machine.files.node? machine.current with
  | some .directory => Path.absolute machine.current
  | _ => ['/']

/-- The value of a variable of the environment. -/
def environmentValue (machine : Machine) (name : Text) : Option Text :=
  machine.environment.lookup name

/-- The value of a variable if it has one that is not empty. -/
def setting? (machine : Machine) (name : Text) : Option Text :=
  (machine.environmentValue name).filter (!·.isEmpty)

/-- The home directory of the user. -/
def home (machine : Machine) : Text :=
  (machine.setting? "HOME".toList).getD "/root".toList

/-- The machine with a variable set. -/
def setVariable (machine : Machine) (name value : Text) : Machine :=
  { machine with
    environment := (name, value) :: machine.environment.filter (·.1 != name) }

end Machine

/-- How a program ended. -/
inductive ExitStatus where
  | code (number : Nat)
  | signal (number : Nat)
  deriving DecidableEq, Repr

namespace ExitStatus

/-- Whether a program ended without reporting an error. -/
def isSuccess : ExitStatus → Bool
  | code 0 => true
  | _ => false

/-- The names of the signals, from the first one on. -/
def signalNames : List Text :=
  ["HUP", "INT", "QUIT", "ILL", "TRAP", "ABRT", "BUS", "FPE", "KILL", "USR1", "SEGV", "USR2",
    "PIPE", "ALRM", "TERM", "STKFLT", "CHLD", "CONT", "STOP", "TSTP", "TTIN", "TTOU", "URG",
    "XCPU", "XFSZ", "VTALRM", "PROF", "WINCH", "IO", "PWR", "SYS"].map String.toList

/-- The name of a signal. -/
def signalName? (number : Nat) : Option Text :=
  if number = 0 then none else signalNames[number - 1]?

/-- The text of a status. -/
def message : ExitStatus → Text
  | code number => "exit status: ".toList ++ Text.digits number
  | signal number =>
      "signal: ".toList ++ Text.digits number ++
        match signalName? number with
        | some name => " (SIG".toList ++ name ++ [')']
        | none => []

end ExitStatus

/-- What a program wrote and how it ended. -/
structure Finished where
  output : Bytes
  errors : Bytes
  status : ExitStatus
  deriving DecidableEq, Repr

/-- The programs of a machine: what running a command line with some standard input comes to, and
the files afterwards. A fault means that no program was started. -/
abbrev Programs := Machine → CommandLine → Bytes → Except Fault (Finished × FileTree)

end ProjectTags
