import ProjectTags.Tool.Input

/-!
# Tools on files

Tools that make and move files and directories.
-/

namespace ProjectTags.Tool.Files

/-- The last name of a path. -/
def lastName (path : Text) : Text :=
  match ((Text.pieces '/' path).filter (!·.isEmpty)).getLast? with
  | some name => name
  | none => if path.isEmpty then [] else ['/']

/-- A name below a path. -/
def below (path name : Text) : Text :=
  if path.getLast? = some '/' then path ++ name else path ++ '/' :: name

/-- The result of a tool that has changed files. -/
def changed (call : Call) (files : FileTree) : Result := (call.withFiles files).ends 0

/-- Makes files that are not there. -/
def touch : Tool := fun call =>
  call.given 1 "acmfh" "drt" [("no-create", 'c'), ("date", 'd'), ("reference", 'r')] fun given =>
    if given.operands.isEmpty then call.misused 1 "missing file operand".toList
    else
      onEach (fun call operand =>
        if call.machine.holds operand || given.has 'c' then call.ends 0
        else
          match call.machine.files.write call.machine.current operand [] with
          | .ok files => changed call files
          | .error fault => call.fails 1
              (trouble "cannot touch ".toList (inQuotes operand)
                (if fault = .isDirectory then .notFound else fault))) given.operands call

/-- Makes directories. -/
def mkdir : Tool := fun call =>
  call.given 1 "pvZ" "m" [("parents", 'p'), ("mode", 'm'), ("verbose", 'v')] fun given =>
    if given.operands.isEmpty then call.misused 1 "missing operand".toList
    else
      onEach (fun call operand =>
        let (files, fault) :=
          if given.has 'p' then call.machine.files.makeDirectories call.machine.current operand
          else
            match call.machine.files.makeDirectory call.machine.current operand with
            | .ok files => (files, none)
            | .error fault => (call.machine.files, some fault)
        match fault with
        | some fault =>
            (call.withFiles files).fails 1
              (trouble "cannot create directory ".toList (inQuotes operand) fault)
        | none =>
            let result := changed call files
            if given.has 'v' then
              result.precededBy (SingleByte.toBytes (call.name ++ ": created directory ".toList ++
                ended (inQuotes operand)))
            else result) given.operands call

/-- The place of something that is put at a path, or under its own name in a directory. -/
def placeAt (call : Call) (intoDirectory : Bool) (source target : Text) : Text :=
  if intoDirectory && call.machine.isDirectory target then below target (lastName source)
  else target

/-- The tree with what is at and below one location put at another one instead. -/
def moved (files : FileTree) (source target : Location) : FileTree :=
  if target = source then files
  else ⟨(files.prune target).entries.map fun entry =>
    if source.isPrefixOf entry.1 then (target ++ entry.1.drop source.length, entry.2) else entry⟩

/-- The sources and the target among operands, of which the target may be named by a switch. -/
def sourcesAndTarget (given : Given) : List Text × Option Text :=
  match given.value? 't' with
  | some target => (given.operands, some target)
  | none => (given.operands.dropLast, given.operands.getLast?)

/-- Does something from each source to a target, which has to be a directory if there are several
sources. -/
def toTarget (call : Call) (given : Given) (work : Text → Call → Text → Result) : Result :=
  match sourcesAndTarget given with
  | ([], none) => call.misused 1 "missing file operand".toList
  | ([], some source) =>
      call.misused 1 ("missing destination file operand after ".toList ++ inQuotes source)
  | (_, none) => call.misused 1 "missing file operand".toList
  | (sources, some target) =>
      if (1 < sources.length || given.has 't') && !call.machine.isDirectory target then
        let fault : Fault := if call.machine.holds target then .notDirectory else .notFound
        call.fails 1 ("target ".toList ++ inQuotes target ++ ": ".toList ++ fault.description)
      else onEach (work target) sources call

/-- Moves files and directories. -/
def mv : Tool := fun call =>
  call.given 1 "fnvuTi" "t" [("force", 'f'), ("no-clobber", 'n'), ("verbose", 'v'),
      ("target-directory", 't'), ("no-target-directory", 'T')] fun given =>
    toTarget call given fun target call source =>
      let files := call.machine.files
      let place := placeAt call (!given.has 'T') source target
      let both := inQuotes source ++ " to ".toList ++ inQuotes place
      let said (result : Result) : Result :=
        if given.has 'v' then
          result.precededBy (SingleByte.toBytes ("renamed ".toList ++ inQuotes source ++
            " -> ".toList ++ ended (inQuotes place)))
        else result
      match files.find call.machine.current source with
      | .error fault => call.fails 1 (trouble "cannot stat ".toList (inQuotes source) fault)
      | .ok (location, node) =>
          match files.locate call.machine.current (FileTree.withoutEndSlashes place) with
          | .error fault => call.fails 1 (trouble "cannot move ".toList both fault)
          | .ok found =>
              let isDirectory := node = .directory
              match files.node? found with
              | some .directory =>
                  if found = location then
                    call.fails 1 (inQuotes source ++ " and ".toList ++ inQuotes place ++
                      " are the same file".toList)
                  else if !isDirectory then
                    call.fails 1 ("cannot overwrite directory ".toList ++ inQuotes place ++
                      " with non-directory".toList)
                  else if location.isPrefixOf found then
                    call.fails 1 ("cannot move ".toList ++ inQuotes source ++
                      " to a subdirectory of itself, ".toList ++ inQuotes place)
                  else if (files.children found).isEmpty then
                    said (changed call (moved files location found))
                  else call.fails 1 (trouble "cannot move ".toList both .notEmpty)
              | some (.file _ _) =>
                  if found = location then
                    call.fails 1 (inQuotes source ++ " and ".toList ++ inQuotes place ++
                      " are the same file".toList)
                  else if given.has 'n' then call.ends 0
                  else if isDirectory then
                    call.fails 1 ("cannot overwrite non-directory ".toList ++ inQuotes place ++
                      " with directory ".toList ++ inQuotes source)
                  else said (changed call (moved files location found))
              | none =>
                  if location.isPrefixOf found then
                    call.fails 1 ("cannot move ".toList ++ inQuotes source ++
                      " to a subdirectory of itself, ".toList ++ inQuotes place)
                  else if place.getLast? = some '/' && !isDirectory then
                    call.fails 1 (trouble "cannot move ".toList both .notDirectory)
                  else said (changed call (moved files location found))

end ProjectTags.Tool.Files
