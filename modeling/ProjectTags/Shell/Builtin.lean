import ProjectTags.Shell.Control
import ProjectTags.Shell.Directory
import ProjectTags.Shell.Job
import ProjectTags.Shell.Parameter
import ProjectTags.Shell.Options
import ProjectTags.Shell.Switch
import ProjectTags.Text.Formatted
import ProjectTags.Tool.Condition

/-!
# The shell's own commands

The commands by which a shell writes texts itself, and all that it carries out itself, by name.
-/

namespace ProjectTags.Shell

/-- Writes words with a blank between them, up to the first escape that ends all output. -/
def echoWords (ending : Text) : List Text → Text
  | [] => ending
  | word :: others =>
      let (text, stopped) := Text.unescape false word
      if stopped then text
      else if others.isEmpty then text ++ ending
      else text ++ ' ' :: echoWords ending others

/-- Writes words on one line, without its end if the first word asks for that. -/
def echo : Builtin := fun _ _ arguments => do
  say (match arguments with
    | ['-', 'n'] :: words => echoWords [] words
    | words => echoWords ['\n'] words)
  return 0

/-- Writes arguments by a format. -/
def printf : Builtin := fun _ _ arguments => do
  match ← operandsOf arguments with
  | [] => mistake "usage: printf format [arg ...]".toList
  | format :: arguments =>
      let formatted := Text.formatAll false format arguments
      formatted.complaints.forM report
      say formatted.written
      match formatted.ending with
      | .refused message => mistake message
      | _ => return if formatted.complaints.isEmpty then 0 else 1

/-- Decides a condition. -/
def test (bracketed : Bool) : Builtin := fun _ _ words => do
  match Condition.decideAs (← get).machine bracketed words with
  | .ok true => return 0
  | .ok false => return 1
  | .error trouble => mistake trouble.message

/-- Does nothing, with a status. -/
def idle (status : Nat) : Builtin := fun _ _ _ => return status

/-- The command of a name. -/
def builtin? (name : Text) : Option Builtin :=
  match String.ofList name with
  | "." => some includeFile
  | ":" => some (idle 0)
  | "[" => some (test true)
  | "alias" => some nameShort
  | "break" => some (leaveLoops false)
  | "cd" => some changeDirectory
  | "chdir" => some changeDirectory
  | "command" => some describeCommand
  | "continue" => some (leaveLoops true)
  | "echo" => some echo
  | "eval" => some evaluateWords
  | "exec" => some replaceShell
  | "exit" => some exit
  | "export" => some (mark false)
  | "false" => some (idle 1)
  | "getopts" => some getopts
  | "kill" => some kill
  | "local" => some localize
  | "printf" => some printf
  | "pwd" => some tellDirectory
  | "readonly" => some (mark true)
  | "return" => some leaveFunction
  | "set" => some configure
  | "shift" => some shift
  | "test" => some (test false)
  | "times" => some tellTimes
  | "trap" => some trap
  | "true" => some (idle 0)
  | "type" => some type
  | "unalias" => some unalias
  | "unset" => some unset
  | "wait" => some wait
  | _ => none

end ProjectTags.Shell
