import ProjectTags.Text.Lines
import ProjectTags.Tool.Switch

/-!
# Input of tools

How tools read their operands, each of which is a file or the standard input.
-/

namespace ProjectTags.Tool

/-- A line with its end. -/
def ended (line : Text) : Text := line ++ ['\n']

/-- The lines of some bytes. -/
def linesOf (bytes : Bytes) : List Text := (Bytes.lines bytes).map SingleByte.ofBytes

/-- What is said about an operand that a tool cannot work on. -/
def trouble (action operand : Text) (fault : Fault) : Text :=
  action ++ operand ++ ": ".toList ++ fault.description

/-- An operand between quotes. -/
def inQuotes (operand : Text) : Text := '\'' :: operand ++ ['\'']

namespace Call

/-- The bytes of an operand, a hyphen standing for the standard input, and the call after reading
them. -/
def read (call : Call) (operand : Text) : Except Fault (Bytes × Call) :=
  if operand = ['-'] || operand = "/dev/stdin".toList then
    .ok (call.input, { call with input := [] })
  else do
    let content ← call.machine.files.read call.machine.current operand
    return (content, call)

/-- The call with nothing left of its input. -/
def drained (call : Call) : Call := { call with input := [] }

end Call

/-- The contents of operands, with what was said about those that cannot be read. -/
structure Gathered where
  inputs : List (Text × Bytes)
  complaints : List (Stream × Bytes)
  after : Call

namespace Gathered

/-- All bytes one after the other. -/
def bytes (gathered : Gathered) : Bytes := gathered.inputs.flatMap (·.2)

/-- The result of a tool that has written a text. -/
def finish (gathered : Gathered) (status : Nat) (text : Text) : Result :=
  let result := gathered.after.prints text
  { result with
    written := gathered.complaints ++ result.written
    status := .code status }

/-- The status of a tool that could read all its operands or not. -/
def status (gathered : Gathered) (failure : Nat) : Nat :=
  if gathered.complaints.isEmpty then 0 else failure

end Gathered

/-- Reads operands one after the other, by default the standard input. A message about those that
cannot be read is made by a given function. -/
def gatherWith (message : Text → Fault → Text) (call : Call) (operands : List Text) : Gathered :=
  let operands := if operands.isEmpty then [['-']] else operands
  operands.foldl (fun gathered operand =>
    match gathered.after.read operand with
    | .ok (bytes, after) =>
        { gathered with inputs := gathered.inputs ++ [(operand, bytes)], after := after }
    | .error fault =>
        let said := call.name ++ ": ".toList ++ message operand fault ++ ['\n']
        { gathered with
          complaints := gathered.complaints ++ [(.errors, SingleByte.toBytes said)] })
    ⟨[], [], call⟩

/-- Reads operands one after the other, by default the standard input. -/
def gather (call : Call) (operands : List Text) : Gathered :=
  gatherWith (trouble []) call operands

/-- The number of a text of digits. -/
def count? (text : Text) : Option Nat :=
  if text.isEmpty || !text.all Text.isDigit then none else some (Text.valueOf text)

/-- Whether the last line of some bytes is ended. -/
def endsLine (bytes : Bytes) : Bool :=
  bytes.isEmpty || bytes.getLast? = some Bytes.lineBreak

/-- The lines of a text, each with its end if it has one. -/
def linesWithEnds (bytes : Bytes) : List Text :=
  let lines := linesOf bytes
  if endsLine bytes then lines.map ended
  else lines.dropLast.map ended ++ [lines.getLastD []]

end ProjectTags.Tool
