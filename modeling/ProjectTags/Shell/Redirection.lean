import ProjectTags.Shell.Expansion

/-!
# Redirections

Where a command reads from and writes to. A redirection opens its file even if nothing is written
to it. The targets of all redirections of a command are expanded before the first one is done.
-/

namespace ProjectTags.Shell

/-- The descriptor that a path of a device stands for. -/
def deviceDescriptor? (path : Text) : Option Nat :=
  match String.ofList path with
  | "/dev/stdin" => some 0
  | "/dev/stdout" => some 1
  | "/dev/stderr" => some 2
  | _ =>
      match Text.dropPrefix? "/dev/fd/".toList path with
      | some [digit] => if Text.isDigit digit then some (digit.toNat - 48) else none
      | _ => none

/-- What the shell says about a file that it cannot open. -/
def openingMessage (creating : Bool) (path : Text) (fault : Fault) : Text :=
  let cause :=
    if fault = .notFound || fault = .notDirectory then
      if creating then "Directory nonexistent".toList else "No such file".toList
    else fault.description
  "cannot ".toList ++ (if creating then "create ".toList else "open ".toList) ++ path ++
    ": ".toList ++ cause

/-- The channel of a descriptor that is open. -/
def channelOf (descriptor shown : Nat) : Step Nat := do
  match (← getProcess).descriptors.lookup descriptor with
  | some channel => return channel
  | none => mistake (Text.digits shown ++ ": Bad file descriptor".toList)

/-- Opens the file at a path for reading. -/
def openToRead (path : Text) : Step Nat := do
  let state ← get
  match state.files.find state.process.current path with
  | .ok (location, _) =>
      openChannel (if location = FileTree.nullDevice then .nowhere else .file location 0 false)
  | .error fault => mistake (openingMessage false path fault)

/-- Opens the file at a path for writing. What it holds may be kept, and it may be refused to lose
that. -/
def openToWrite (path : Text) (keep append careful : Bool) : Step Nat := do
  let state ← get
  let files := state.files
  let current := state.process.current
  let opened (location : Location) (files : FileTree) : Step Nat := do
    set { state with files := files }
    openChannel (.file location 0 append)
  let refuse (fault : Fault) : Step Nat := mistake (openingMessage true path fault)
  match files.find current path with
  | .ok (_, .directory) => refuse .isDirectory
  | .ok (location, .file content executable) =>
      if location = FileTree.nullDevice then openChannel .nowhere
      else if careful && state.process.has 'C' then refuse .alreadyExists
      else
        let node := Node.file (if keep then content else []) executable
        opened location (files.put location node)
  | .error .notFound =>
      match files.write current path [], files.locate current path with
      | .ok files, .ok location => opened location files
      | .error fault, _ => refuse fault
      | _, .error fault => refuse fault
  | .error fault => refuse fault

/-- A redirection whose target is expanded. -/
structure Prepared where
  descriptor : Nat
  direction : Direction
  target : Text

/-- Expands the target of a redirection. -/
def prepareRedirection (engine : Engine) : Redirection → Step Prepared
  | .mk descriptor (.hereText number) _ => do
      let word := ((← get).texts.lookup number).getD []
      return ⟨descriptor, .hereText number, ← expandHereText engine word⟩
  | .mk descriptor direction target => do
      return ⟨descriptor, direction, ← expandText engine target⟩

/-- Carries out a redirection. -/
def redirect (prepared : Prepared) : Step Unit := do
  let path := prepared.target
  match prepared.direction, deviceDescriptor? path with
  | .hereText _, _ => do
      let channel ← openChannel (.pipe false (SingleByte.toBytes path) [])
      setDescriptor prepared.descriptor (some channel)
  | .duplicate, _ =>
      match path with
      | ['-'] => setDescriptor prepared.descriptor none
      | [digit] =>
          if Text.isDigit digit then
            let source := digit.toNat - 48
            setDescriptor prepared.descriptor (some (← channelOf source source))
          else mistake "Syntax error: Bad fd number".toList
      | _ => mistake "Syntax error: Bad fd number".toList
  | _, some source => setDescriptor prepared.descriptor (some (← channelOf source source))
  | .read, none => setDescriptor prepared.descriptor (some (← openToRead path))
  | .write, none =>
      setDescriptor prepared.descriptor (some (← openToWrite path false false true))
  | .overwrite, none =>
      setDescriptor prepared.descriptor (some (← openToWrite path false false false))
  | .append, none =>
      setDescriptor prepared.descriptor (some (← openToWrite path true true false))
  | .readWrite, none =>
      setDescriptor prepared.descriptor (some (← openToWrite path true false false))

/-- Carries out redirections up to the first that cannot be done, and tells whether all could. -/
def redirectAll : List Prepared → Step Bool
  | [] => return true
  | prepared :: others => do
      let done : Bool ← try
          redirect prepared
          pure true
        catch
          | .failed => pure false
          | departure => throw departure
      if done then redirectAll others else return false

end ProjectTags.Shell
