import ProjectTags.Tool.Files
import ProjectTags.Tool.Find.Expression
import ProjectTags.Tool.Launch

/-!
# Walks through trees of files

The tool `find` walks from some starting points through all places at and below them, and decides
an expression at each. An expression may keep the walk from going below a directory, end it, change
files and run programs.
-/

namespace ProjectTags.Tool.Find

/-- A place that a walk comes to. -/
structure Place where
  path : Text
  /-- The last name of the path. -/
  baseName : Text
  /-- The path from the starting point on. -/
  inner : Text
  depth : Nat
  location : Location
  node : Node

/-- How far a walk has come. -/
structure Progression where
  call : Call
  /-- What was written, the last first. -/
  written : List (Stream × Bytes)
  /-- Programs that are to run with many places at once, with these, the last first. -/
  batches : List (List Text × List Text)
  pruned : Bool
  quit : Bool
  status : Nat

/-- A step of a walk. -/
abbrev Visit := StateM Progression

/-- Writes a text. -/
def write (text : Text) : Visit Unit :=
  modify fun walk =>
    { walk with written := (.output, SingleByte.toBytes text) :: walk.written }

/-- Tells what is wrong. -/
def complain (message : Text) : Visit Unit :=
  modify fun walk =>
    { walk with
      written := (.errors,
        SingleByte.toBytes (walk.call.name ++ ": ".toList ++ message ++ ['\n'])) :: walk.written
      status := 1 }

/-- Runs a program, and tells whether it succeeded. -/
def runProgram (runner : Runner) (words : List Text) : Visit Bool := do
  let walk ← get
  match words with
  | [] => return false
  | program :: arguments =>
      match runNamed runner walk.call program arguments with
      | .ok result =>
          set { walk with
            call := { walk.call.after result with name := walk.call.name }
            written := result.written.reverse ++ walk.written }
          return result.status.isSuccess
      | .error fault =>
          let status := walk.status
          complain (trouble [] (inQuotes program) fault)
          modify fun walk => { walk with status := status }
          return false

/-- A word with the path in the place of each pair of braces. -/
def withPath (path : Text) : Text → Text
  | '\x7b' :: '\x7d' :: rest => path ++ withPath path rest
  | c :: rest => c :: withPath path rest
  | [] => []

/-- The size of what stands at a place. -/
def sizeOf : Node → Nat
  | .file content _ => content.length
  | .directory => 4096

/-- The rights of what stands at a place. -/
def rightsOf : Node → Nat
  | .file _ false => 0o644
  | _ => 0o755

/-- The letter for the kind of a place. -/
def kindOf (place : Place) : Char :=
  match place.node with
  | .directory => 'd'
  | .file _ _ => if place.location = FileTree.nullDevice then 'c' else 'f'

/-- The path without its last name. -/
def above (path : Text) : Text :=
  if path.elem '/' then (Text.dropWhileEnd (· != '/') path).dropLast else ['.']

/-- What a directive of a format is for a place. -/
def directive (place : Place) : Char → Text
  | 'p' => place.path
  | 'f' => place.baseName
  | 'h' => above place.path
  | 'P' => place.inner
  | 'd' => Text.digits place.depth
  | 's' => Text.digits (sizeOf place.node)
  | 'y' => [kindOf place]
  | 'm' => Nat.toDigits 8 (rightsOf place.node)
  | '%' => ['%']
  | c => ['%', c]

/-- A format with its directives and escapes carried out. -/
def formatted (place : Place) : Text → Text
  | '%' :: c :: rest => directive place c ++ formatted place rest
  | '\\' :: 'n' :: rest => '\n' :: formatted place rest
  | '\\' :: 't' :: rest => '\t' :: formatted place rest
  | '\\' :: '0' :: rest => '\x00' :: formatted place rest
  | '\\' :: '\\' :: rest => '\\' :: formatted place rest
  | c :: rest => c :: formatted place rest
  | [] => []

/-- The small letters of a text if case does not matter. -/
def cased (folded : Bool) (text : Text) : Text :=
  if folded then Text.toLowerAscii text else text

/-- Takes a place away, unless it is the starting point `.` or a directory that holds something. -/
def remove (place : Place) : Visit Bool := do
  let walk ← get
  let files := walk.call.machine.files
  if place.path = ['.'] then return true
  else if place.node = .directory && !(files.children place.location).isEmpty then
    complain (trouble "cannot delete ".toList (inQuotes place.path) .notEmpty)
    return false
  else
    set { walk with call := walk.call.withFiles (files.prune place.location) }
    return true

/-- Decides an expression at a place. -/
def decideAt (runner : Runner) (place : Place) : Expression → Visit Bool
  | .always holds => return holds
  | .name folded pattern =>
      return Glob.holds (cased folded pattern) (cased folded place.baseName)
  | .path folded pattern =>
      return Glob.holds (cased folded pattern) (cased folded place.path)
  | .kind letters => return letters.elem (kindOf place)
  | .empty => do
      let walk ← get
      return match place.node with
        | .file content _ => content.isEmpty
        | .directory => (walk.call.machine.files.children place.location).isEmpty
  | .executable => return match place.node with
      | .file _ executable => executable
      | .directory => true
  | .size unit comparison => return comparison.holds ((sizeOf place.node + unit - 1) / unit)
  | .rights sign bits =>
      let own := rightsOf place.node
      return match sign with
        | none => own = bits
        | some '-' => own &&& bits = bits
        | some _ => bits = 0 || own &&& bits != 0
  | .prune => do
      modify fun walk => { walk with pruned := true }
      return true
  | .quit => do
      modify fun walk => { walk with quit := true }
      return true
  | .delete => remove place
  | .print stop => do
      write (place.path ++ [stop])
      return true
  | .format text => do
      write (formatted place text)
      return true
  | .execute words false => runProgram runner (words.map (withPath place.path))
  | .execute words true => do
      modify fun walk =>
        { walk with batches :=
            if walk.batches.any (·.1 = words) then
              walk.batches.map fun batch =>
                if batch.1 = words then (words, place.path :: batch.2) else batch
            else walk.batches ++ [(words, [place.path])] }
      return true
  | .not expression => return !(← decideAt runner place expression)
  | .and first second => do
      let holds ← decideAt runner place first
      if holds && !(← get).quit then decideAt runner place second else return false
  | .or first second => do
      let holds ← decideAt runner place first
      if holds || (← get).quit then return holds else decideAt runner place second
  | .list first second => do
      let holds ← decideAt runner place first
      if (← get).quit then return holds else decideAt runner place second

/-- Visits a place and what is below it, within a number of levels. -/
def walkFrom (runner : Runner) (expression : Expression) (bounds : Bounds) :
    Nat → Place → Visit Unit
  | 0, _ => return
  | levels + 1, place => do
      let visit : Visit Unit := do
        modify fun walk => { walk with pruned := false }
        if bounds.least ≤ place.depth then
          let _ ← decideAt runner place expression
      if (← get).quit then return
      if !bounds.insideFirst then visit
      let walk ← get
      let entered := place.node = .directory && !walk.quit &&
        (bounds.insideFirst || !walk.pruned) &&
        (match bounds.most with
          | some most => place.depth < most
          | none => true)
      if entered && (walk.call.machine.files.node? place.location).isNone then
        complain (trouble [] (inQuotes place.path) .notFound)
      else if entered then
        (walk.call.machine.files.children place.location).forM fun name => do
          let location := place.location ++ [name]
          match (← get).call.machine.files.node? location with
          | some node =>
              let inner := if place.inner.isEmpty then name else place.inner ++ '/' :: name
              walkFrom runner expression bounds levels
                ⟨Files.below place.path name, name, inner, place.depth + 1, location, node⟩
          | none => pure ()
      if bounds.insideFirst && !(← get).quit then visit

/-- Visits all places at and below a starting point. -/
def walkPoint (runner : Runner) (expression : Expression) (bounds : Bounds) (point : Text) :
    Visit Unit := do
  let machine := (← get).call.machine
  if (← get).quit then return
  match machine.files.find machine.current point with
  | .error fault => complain (trouble [] (inQuotes point) fault)
  | .ok (location, node) =>
      walkFrom runner expression bounds (machine.files.entries.length + 1)
        ⟨point, Files.lastName point, [], 0, location, node⟩

/-- Runs the programs that were to run with many places at once. -/
def runBatches (runner : Runner) : Visit Unit := do
  (← get).batches.forM fun (words, paths) => do
    let success ← runProgram runner (words ++ paths.reverse)
    if !success then modify fun walk => { walk with status := 1 }

/-- The starting points in front of an expression. -/
def startingPoints : List Text → List Text × List Text
  | [] => ([], [])
  | argument :: others =>
      if (argument.head? = some '-' && argument.length != 1) ||
          argument = ['('] || argument = ['!'] || argument = [','] || argument = [')'] then
        ([], argument :: others)
      else
        let (points, rest) := startingPoints others
        (argument :: points, rest)

/-- What is said about an expression that cannot be read. A path that is there behind a test may be a
pattern that the shell has expanded. -/
def refusal (call : Call) (message : Text) (latest? : Option Text) : Result :=
  let hint := match latest? with
    | some latest => '\n' :: call.name ++ ": possible unquoted pattern after predicate \x60".toList ++
        latest ++ "'?".toList
    | none => []
  call.fails 1 (message ++ hint)

/-- Finds files. -/
def tool (runner : Runner) : Tool := fun call =>
  let arguments := call.arguments.dropWhile fun argument =>
    ["-H", "-L", "-P"].any (·.toList = argument)
  let (points, rest) := startingPoints arguments
  let points := if points.isEmpty then [['.']] else points
  match readExpression rest with
  | .error message => refusal call message (hintFor call message rest)
  | .ok (expression, bounds) =>
      let whole : Visit Unit := do
        points.forM (walkPoint runner expression.completed bounds)
        runBatches runner
      let (_, walk) := whole.run ⟨call, [], [], false, false, 0⟩
      ⟨walk.written.reverse, .code walk.status, walk.call.machine.files, walk.call.input⟩
where
  /-- The test in front of a path that stands at a wrong place. -/
  hintFor (call : Call) (message : Text) (words : List Text) : Option Text :=
    match Text.dropPrefix? "paths must precede expression: \x60".toList message with
    | some path =>
        let path := path.dropLast
        if call.machine.holds path then
          ((words.takeWhile (· != path)).filter fun word => word.head? = some '-').getLast?
        else none
    | none => none

end ProjectTags.Tool.Find
