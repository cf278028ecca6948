import ProjectTags.Tool.Input

/-!
# Columns of lines

The tool `cut` writes chosen fields or characters of lines. The tool `awk` writes fields of lines
with texts between them, which is the one kind of its programs that is known here.
-/

namespace ProjectTags.Tool.Cut

/-- A run of places, counted from one, perhaps without an end. -/
structure Run where
  first : Nat
  last : Option Nat

/-- Reads a run of places. -/
def run? (text : Text) : Option Run :=
  match Text.splitAt? '-' text with
  | none => if !text.isEmpty && text.all Text.isDigit then
      some ⟨Text.valueOf text, some (Text.valueOf text)⟩ else none
  | some (first, last) =>
      if (first.isEmpty && last.isEmpty) || !(first ++ last).all Text.isDigit then none
      else some ⟨if first.isEmpty then 1 else Text.valueOf first,
        if last.isEmpty then none else some (Text.valueOf last)⟩

/-- Whether a place is in one of some runs. -/
def inRuns (runs : List Run) (place : Nat) : Bool :=
  runs.any fun run => run.first ≤ place && (run.last.map fun last => decide (place ≤ last)).getD true

/-- Reads a list of runs. -/
def readRuns (text : Text) : Except Text (List Run) := do
  let runs ← (Text.pieces ',' text).mapM fun piece =>
    match run? piece with
    | some run => pure run
    | none => throw ("invalid field value '".toList ++ piece ++ ['\''])
  if runs.any (·.first = 0) then throw "fields are numbered from 1".toList
  else if runs.any fun run => (run.last.map fun last => decide (last < run.first)).getD false then
    throw "invalid decreasing range".toList
  else return runs

/-- The elements at chosen places, counted from one. -/
def choose {α : Type} (runs : List Run) (elements : List α) : List α :=
  (elements.zipIdx.filter fun entry => inRuns runs (entry.2 + 1)).map (·.1)

/-- The chosen fields of a line. A line without a separator is kept. -/
def cutFields (runs : List Run) (separator : Char) (line : Text) : Text :=
  if line.elem separator then
    Text.joinWith [separator] (choose runs (Text.pieces separator line))
  else line

/-- Writes chosen parts of lines. -/
def tool : Tool := fun call =>
  call.given 1 "" "cdf" [("delimiter", 'd'), ("fields", 'f'), ("characters", 'c')] fun given =>
    match given.last? ['c', 'f'], (given.value? 'd').getD ['\t'] with
    | none, _ => call.misused 1 "you must specify a list of bytes, characters, or fields".toList
    | some letter, [separator] =>
        match readRuns ((given.value? letter).getD []) with
        | .error message => call.misused 1 message
        | .ok runs =>
            let gathered := gather call given.operands
            let cut (line : Text) : Text :=
              if letter = 'f' then cutFields runs separator line else choose runs line
            gathered.finish (gathered.status 1)
              ((gathered.inputs.flatMap fun input => linesOf input.2).flatMap fun line =>
                ended (cut line))
    | some _, _ => call.misused 1 "the delimiter must be a single character".toList

end ProjectTags.Tool.Cut

namespace ProjectTags.Tool.Record

/-- A part of what is written for a line. -/
inductive Part where
  | text (text : Text)
  /-- A field, counted from one; number zero is the whole line. -/
  | field (number : Nat)
  deriving DecidableEq, Repr

/-- The parts of a list between the quotes of a program, a comma standing for a blank. -/
def fieldParts? (code : Text) : Option (List Part) :=
  let spaced := code.flatMap fun c => if c = '$' || c = ',' then [' ', c] else [c]
  ((Text.pieces ' ' spaced).filter (!·.isEmpty)).mapM fun word =>
    match word with
    | [','] => some (.text [' '])
    | '$' :: digits =>
        if !digits.isEmpty && digits.all Text.isDigit then some (.field (Text.valueOf digits))
        else none
    | _ => none

/-- Reads a program: a list of fields and quoted texts behind the word for writing. -/
def readProgram (program : Text) : Option (List Part) := do
  let inner ← Text.dropPrefix? ['\x7b'] (Text.trim program)
  if inner.getLast? != some '\x7d' then none
  else
    let items ← Text.dropPrefix? "print".toList (Text.trim inner.dropLast)
    let parts ← (Text.pieces '"' items).zipIdx.mapM fun (piece, index) =>
      if index % 2 = 0 then fieldParts? piece else some [.text piece]
    return if parts.flatten.isEmpty then [.field 0] else parts.flatten

/-- What is written for a line. -/
def written (parts : List Part) (separator? : Option Char) (line : Text) : Text :=
  let fields := match separator? with
    | some separator => Text.pieces separator line
    | none => (Text.pieces ' ' (Text.replaceChar '\t' [' '] line)).filter (!·.isEmpty)
  parts.flatMap fun
    | .text text => text
    | .field 0 => line
    | .field (number + 1) => (fields[number]?).getD []

/-- Writes fields of lines. -/
def awk : Tool := fun call =>
  call.leading 2 "" "F" [] fun given =>
    match given.operands with
    | [] => call.misused 2 "missing program".toList
    | program :: operands =>
        match readProgram program with
        | none => call.fails 2 "syntax error at source line 1".toList
        | some parts =>
            let gathered := gather call operands
            let separator? := (given.value? 'F').bind List.head?
            gathered.finish (gathered.status 2)
              ((gathered.inputs.flatMap fun input => linesOf input.2).flatMap fun line =>
                ended (written parts separator? line))

end ProjectTags.Tool.Record
