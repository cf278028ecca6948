import ProjectTags.Tool.Files

/-!
# Names and paths

Tools that take paths apart, list the names in directories, and tell where the caller is.
-/

namespace ProjectTags.Tool.Names

/-- A name without an ending that it has, unless that is all of it. -/
def withoutEnding (ending name : Text) : Text :=
  if Text.endsWith ending name && ending != name then name.take (name.length - ending.length)
  else name

/-- Writes the last names of paths, without an ending that they have. -/
def basename : Tool := fun call =>
  let known : Known := ⟨['a', 'z'], ['s'], [("multiple".toList, 'a'), ("suffix".toList, 's')], true⟩
  match readGiven known call.arguments with
  | .error message => call.misused 1 message
  | .ok given =>
      let several := given.has 'a' || given.has 's'
      let ending := (given.value? 's').getD []
      match several, given.operands with
      | _, [] => call.misused 1 "missing operand".toList
      | true, paths =>
          call.prints (paths.flatMap fun path => ended (withoutEnding ending (Files.lastName path)))
      | false, [path] => call.prints (ended (Files.lastName path))
      | false, [path, ending] => call.prints (ended (withoutEnding ending (Files.lastName path)))
      | false, _ :: _ :: extra :: _ =>
          call.misused 1 ("extra operand ".toList ++ inQuotes extra)

/-- A path without its last name. -/
def parent (path : Text) : Text :=
  let body := Text.dropWhileEnd (· = '/') path
  if body.isEmpty then if path.isEmpty then ['.'] else ['/']
  else if !body.elem '/' then ['.']
  else
    match Text.dropWhileEnd (· = '/') (Text.dropWhileEnd (· != '/') body) with
    | [] => ['/']
    | above => above

/-- Writes paths without their last names. -/
def dirname : Tool := fun call =>
  call.given 1 "z" "" [] fun given =>
    if given.operands.isEmpty then call.misused 1 "missing operand".toList
    else call.prints (given.operands.flatMap fun path => ended (parent path))

/-- Writes the path of the current directory. -/
def pwd : Tool := fun call => call.prints (ended call.machine.currentPath)

/-- The names in a directory, in order. -/
def namesIn (files : FileTree) (location : Location) : List Text :=
  (files.children location).mergeSort Utf8.precedes

/-- A name with the sign for what it stands for. -/
def marked (given : Given) (files : FileTree) (location : Location) (name : Text) : Text :=
  if given.has 'F' || given.has 'p' then
    match files.node? location with
    | some .directory => name ++ ['/']
    | some (.file _ true) => if given.has 'F' then name ++ ['*'] else name
    | _ => name
  else name

/-- The listing of a directory. -/
def listing (given : Given) (files : FileTree) (location : Location) : Text :=
  let names := (namesIn files location).filter fun name =>
    given.has 'a' || given.has 'A' || name.head? != some '.'
  let names := if given.has 'a' then ['.'] :: ['.', '.'] :: names else names
  let names := if given.has 'r' then names.reverse else names
  let shown := names.map fun name => marked given files (location ++ [name]) name
  if given.has 'm' then
    if shown.isEmpty then [] else ended (Text.joinWith ", ".toList shown)
  else shown.flatMap ended

/-- The listings of a directory and of those below it, within a number of levels. -/
def listings (given : Given) (files : FileTree) : Nat → Text → Location → Text
  | 0, _, _ => []
  | levels + 1, path, location =>
      let names := (namesIn files location).filter fun name =>
        (given.has 'a' || given.has 'A' || name.head? != some '.') &&
          files.node? (location ++ [name]) = some .directory
      path ++ [':', '\n'] ++ listing given files location ++ names.flatMap fun name =>
        '\n' :: listings given files levels (Files.below path name) (location ++ [name])

/-- Lists names, one a line. -/
def ls : Tool := fun call =>
  call.given 2 "aACdFpRr1mtSUXQ\x01ghiklnoqsuxLH" "IwT" [("all", 'a'), ("almost-all", 'A'),
      ("directory", 'd'), ("recursive", 'R'), ("reverse", 'r'), ("classify", 'F'),
      ("color", '\x01')] fun given =>
    let files := call.machine.files
    let operands := (if given.operands.isEmpty then [['.']] else given.operands).mergeSort
      Utf8.precedes
    let found := operands.map fun operand => (operand, files.find call.machine.current operand)
    let complaints := found.flatMap fun (operand, outcome) =>
      match outcome with
      | .error fault => call.name ++ ": ".toList ++
          ended (trouble "cannot access ".toList (inQuotes operand) fault)
      | .ok _ => []
    let isShownAlone (node : Node) : Bool := node != .directory || given.has 'd'
    let alone := found.filterMap fun (operand, outcome) =>
      match outcome with
      | .ok (location, node) =>
          if isShownAlone node then some (marked given files location operand) else none
      | .error _ => none
    let directories := found.filterMap fun (operand, outcome) =>
      match outcome with
      | .ok (location, .directory) => if given.has 'd' then none else some (operand, location)
      | _ => none
    let headed := 1 < operands.length
    let parts := directories.map fun (operand, location) =>
      if given.has 'R' then listings given files (files.entries.length + 1) operand location
      else (if headed then operand ++ [':', '\n'] else []) ++ listing given files location
    let front := alone.flatMap ended
    let text := Text.joinWith ['\n'] ((if alone.isEmpty then [] else [front]) ++ parts)
    { call.prints text with
      written := (if complaints.isEmpty then [] else
        [(Stream.errors, SingleByte.toBytes complaints)]) ++ (call.prints text).written
      status := .code (if complaints.isEmpty then 0 else 2) }

end ProjectTags.Tool.Names
