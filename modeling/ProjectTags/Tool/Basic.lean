import ProjectTags.Machine.Program
import ProjectTags.Text.Utf8

/-!
# Tools

The small programs that every machine has. A tool gets its arguments and its standard input on a
machine, and leaves behind what it wrote, its status, the files, and what it did not read of its
input. All texts are texts of single bytes.
-/

namespace ProjectTags

/-- Where a program writes to. -/
inductive Stream where
  | output
  | errors
  deriving DecidableEq, Repr

/-- What a program is run with. -/
structure Tool.Call where
  machine : Machine
  /-- The name by which the program was called. -/
  name : Text
  arguments : List Text
  input : Bytes
  /-- Whether what a program read too much of its input can be given back, as with a file. -/
  seekable : Bool

/-- What a program leaves behind. -/
structure Tool.Result where
  /-- What was written, in order. -/
  written : List (Stream × Bytes)
  status : ExitStatus
  files : FileTree
  /-- What is left of the input. -/
  rest : Bytes

/-- What a tool does. -/
abbrev Tool := Tool.Call → Tool.Result

/-- What executing the file at a path comes to. A fault means that no program was started. -/
abbrev Tool.Runner := Text → Tool.Call → Except Fault Tool.Result

namespace Tool

namespace Result

/-- The bytes that were written to a stream. -/
def bytesOn (stream : Stream) (result : Result) : Bytes :=
  (result.written.filter (·.1 = stream)).flatMap (·.2)

/-- The result with another status. -/
def withStatus (result : Result) (status : Nat) : Result :=
  { result with status := .code status }

/-- The status as a number, that of a signal above all others. -/
def statusNumber (result : Result) : Nat :=
  match result.status with
  | .code number => number
  | .signal number => 128 + number

/-- What two runs leave behind, the second on the files and the input of the first. The greater
status counts. -/
def followedBy (first second : Result) : Result :=
  ⟨first.written ++ second.written, .code (max first.statusNumber second.statusNumber),
    second.files, second.rest⟩

/-- The result with some bytes written before anything else. -/
def precededBy (bytes : Bytes) (result : Result) : Result :=
  if bytes.isEmpty then result
  else { result with written := (.output, bytes) :: result.written }

end Result

namespace Call

/-- Nothing but a status. -/
def ends (call : Call) (status : Nat) : Result :=
  ⟨[], .code status, call.machine.files, call.input⟩

/-- Some bytes of output and success. -/
def writes (call : Call) (bytes : Bytes) : Result :=
  ⟨if bytes.isEmpty then [] else [(.output, bytes)], .code 0, call.machine.files, call.input⟩

/-- A text of output and success. -/
def prints (call : Call) (text : Text) : Result :=
  call.writes (SingleByte.toBytes text)

/-- A message on a line of its own and a status. -/
def tells (call : Call) (status : Nat) (message : Text) : Result :=
  ⟨[(.errors, SingleByte.toBytes (message ++ ['\n']))], .code status, call.machine.files,
    call.input⟩

/-- A message behind the name of the program and a status. -/
def fails (call : Call) (status : Nat) (message : Text) : Result :=
  call.tells status (call.name ++ ": ".toList ++ message)

/-- The call on a machine with other files. -/
def withFiles (call : Call) (files : FileTree) : Call :=
  { call with machine := { call.machine with files := files } }

/-- The call after a first part of its work, which left a result behind. -/
def after (call : Call) (result : Result) : Call :=
  { call.withFiles result.files with input := result.rest }

end Call

/-- Runs a tool's work on each of some operands, one after the other. -/
def onEach {α : Type} (work : Call → α → Result) : List α → Call → Result
  | [], call => call.ends 0
  | operand :: others, call =>
      let first := work call operand
      first.followedBy (onEach work others (call.after first))

end Tool

end ProjectTags
