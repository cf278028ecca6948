import ProjectTags.Tool.Input

/-!
# Showing files

Tools that write files as they are, or their first or last lines.
-/

namespace ProjectTags.Tool.Show

/-- Writes files one after the other. -/
def cat : Tool := fun call =>
  call.given 1 "u" "" [] fun given =>
    onEach (fun call operand =>
      match call.read operand with
      | .ok (bytes, after) => after.writes bytes
      | .error fault => call.fails 1 (trouble [] operand fault))
      (if given.operands.isEmpty then [['-']] else given.operands) call

/-- How much of a file is asked for. -/
structure Portion where
  ofBytes : Bool
  count : Nat
  /-- Whether a sign turns the count around: for the front all but so many, for the end all from so
  many on. -/
  turned : Bool

/-- The portion that a switch asks for by its value. -/
def portion? (ofBytes : Bool) (sign : Char) (value : Text) : Option Portion :=
  match value with
  | c :: rest =>
      if c = sign then (count? rest).map (⟨ofBytes, ·, true⟩)
      else if c = '-' || c = '+' then (count? rest).map (⟨ofBytes, ·, false⟩)
      else (count? value).map (⟨ofBytes, ·, false⟩)
  | [] => none

/-- The portion that some switches ask for, by default ten lines. -/
def givenPortion (sign : Char) (given : Given) : Except Text Portion :=
  match given.last? ['n', 'c'] with
  | some letter =>
      let value := (given.value? letter).getD []
      match portion? (letter = 'c') sign value with
      | some portion => .ok portion
      | none => .error ("invalid number of ".toList ++
          (if letter = 'c' then "bytes" else "lines").toList ++ ": '".toList ++ value ++ ['\''])
  | none => .ok ⟨false, 10, false⟩

/-- The bytes behind so many line breaks. -/
def dropLines : Nat → Bytes → Bytes
  | 0, bytes => bytes
  | count + 1, bytes => dropLines count ((bytes.dropWhile (· != Bytes.lineBreak)).drop 1)

/-- How many lines some bytes have, the last one counted even if it is not ended. -/
def lineCount (bytes : Bytes) : Nat := (Bytes.lines bytes).length

/-- The front of some bytes. -/
def frontOf (portion : Portion) (bytes : Bytes) : Bytes :=
  if portion.ofBytes then
    bytes.take (if portion.turned then bytes.length - portion.count else portion.count)
  else
    let count := if portion.turned then lineCount bytes - portion.count else portion.count
    bytes.take (bytes.length - (dropLines count bytes).length)

/-- The end of some bytes. -/
def endOf (portion : Portion) (bytes : Bytes) : Bytes :=
  if portion.ofBytes then
    bytes.drop (if portion.turned then portion.count - 1 else bytes.length - portion.count)
  else
    dropLines (if portion.turned then portion.count - 1 else lineCount bytes - portion.count) bytes

/-- Writes a part of each operand, with headings if there are several. -/
def showParts (call : Call) (given : Given) (keepsRest : Bool) (part : Bytes → Bytes) : Result :=
  let operands := if given.operands.isEmpty then [['-']] else given.operands
  let headed := !given.has 'q' && (1 < operands.length || given.has 'v')
  let one (call : Call) (entry : Text × Nat) : Result :=
    let (operand, index) := entry
    match call.read operand with
    | .error fault =>
        call.fails 1 (if fault = .isDirectory then trouble "error reading '".toList
            (operand ++ ['\'']) fault
          else trouble "cannot open '".toList (operand ++ "' for reading".toList) fault)
    | .ok (bytes, after) =>
        let name := if operand = ['-'] then "standard input".toList else operand
        let heading := if headed then
          (if index = 0 then [] else ['\n']) ++ "==> ".toList ++ name ++ " <==\n".toList else []
        let shown := part bytes
        let result := after.writes (SingleByte.toBytes heading ++ shown)
        if operand = ['-'] && keepsRest && call.seekable then
          { result with rest := call.input.drop shown.length }
        else result
  onEach one operands.zipIdx call

/-- The arguments of a tool, with numbers of lines behind a sign alone written with their letter. -/
def withLetter (call : Call) : Call :=
  match call.arguments with
  | ('-' :: c :: digits) :: others =>
      if Text.isDigit c && digits.all Text.isDigit then
        { call with arguments := "-n".toList :: (c :: digits) :: others }
      else call
  | ('+' :: c :: digits) :: others =>
      if Text.isDigit c && digits.all Text.isDigit && call.name = "tail".toList then
        { call with arguments := "-n".toList :: ('+' :: c :: digits) :: others }
      else call
  | _ => call

/-- Writes the first lines of files, or their first bytes. -/
def head : Tool := fun call =>
  (withLetter call).given 1 "qvz" "nc" [("lines", 'n'), ("bytes", 'c'), ("quiet", 'q'),
      ("silent", 'q'), ("verbose", 'v')] fun given =>
    match givenPortion '-' given with
    | .error message => call.fails 1 message
    | .ok portion => showParts call given true (frontOf portion)

/-- Writes the last lines of files, or their last bytes. -/
def tail : Tool := fun call =>
  (withLetter call).given 1 "qvzfF" "ncs" [("lines", 'n'), ("bytes", 'c'), ("quiet", 'q'),
      ("silent", 'q'), ("verbose", 'v'), ("follow", 'f')] fun given =>
    match givenPortion '+' given with
    | .error message => call.fails 1 message
    | .ok portion => showParts call given false (endOf portion)

end ProjectTags.Tool.Show
