import ProjectTags.Machine.Program

/-!
# Finding programs

A program is named by a path, or by a name alone that is looked for in the directories of the
search path. A file that may be executed is a program of the machine, or a script that names on
its first line the program that reads it. That one may be a script again, down to some depth.
-/

namespace ProjectTags.Machine

/-- The content of a file that may be executed, at a path. -/
def executable (machine : Machine) (path : Text) : Except Fault Bytes := do
  match ← machine.files.find machine.current path with
  | (_, .file content true) => return content
  | _ => throw .permissionDenied

/-- The entries of a search path. -/
def entriesOf (search : Text) : List Text := Text.pieces ':' search

/-- The directories in which programs are searched for. -/
def searchPath (machine : Machine) : List Text :=
  entriesOf ((machine.environmentValue "PATH".toList).getD "/bin:/usr/bin".toList)

/-- The path of a name in a directory of the search path. An entry without text is the current
directory. -/
def inEntry (entry name : Text) : Text :=
  if entry.isEmpty then name else entry ++ '/' :: name

/-- The directory that an entry of the search path is for listing tools, which know the home
directory by a tilde. -/
def toolDirectory (machine : Machine) (entry : Text) : Text :=
  match machine.setting? "HOME".toList, entry with
  | some home, ['~'] => home
  | some home, '~' :: '/' :: rest => Path.join home (rest.dropWhile (· = '/'))
  | _, _ => entry

/-- Whether there is a listing tool of a name. -/
def offers (machine : Machine) (name : Text) : Bool :=
  machine.searchPath.any fun entry =>
    match machine.executable (Path.join (machine.toolDirectory entry) name) with
    | .ok _ => true
    | .error _ => false

/-- What programs of the machine begin with. -/
def binaryMark : Bytes := [0x7F, 0x45, 0x4C, 0x46]

/-- How many bytes of a file are looked at to see how it is executed. -/
def headLength : Nat := 256

/-- Whether a byte is a blank or a tab. -/
def isBlankByte (b : UInt8) : Bool := b = 32 || b = 9

/-- Some bytes without the blanks and tabs at their end. -/
def withoutEndBlanks (bytes : Bytes) : Bytes :=
  (bytes.reverse.dropWhile isBlankByte).reverse

/-- The bytes of the first line of a script, behind its mark. A line that is cut off counts only
if the name of the interpreter ends in it. -/
def scriptLine? (content : Bytes) : Option Bytes :=
  match content.take headLength with
  | 0x23 :: 0x21 :: rest =>
      let line := rest.takeWhile (· != 10)
      if line.length < rest.length then some (withoutEndBlanks line)
      else if content.length < headLength then some line
      else
        let line := line.dropLast
        if ((line.dropWhile isBlankByte).any isBlankByte) then some (withoutEndBlanks line) else none
  | _ => none

/-- The interpreter that the first line of a script names, with an argument for it. -/
def interpreter? (content : Bytes) : Option (Bytes × Option Bytes) := do
  let line ← scriptLine? content
  let line := line.dropWhile isBlankByte
  let name := line.takeWhile fun b => !(isBlankByte b || b = 0)
  let argument := ((line.drop name.length).takeWhile (· != 0)).dropWhile isBlankByte
  if name.isEmpty then none
  else some (name, if argument.isEmpty then none else some argument)

/-- A program that is ready to run: its file, the name it is called by and its arguments. -/
structure Loaded where
  image : Bytes
  name : Text
  arguments : List Text

/-- Loads the program at a path, in the place of a script its interpreter, down to a number of
scripts. The words of a script's first line are read as texts by a given function. -/
def loadWithin (machine : Machine) (ofBytes : Bytes → Text) :
    Nat → Text → Text → List Text → Except Fault Loaded
  | 0, _, _, _ => .error .tooManyLinks
  | depth + 1, path, name, arguments => do
      let content ← machine.executable path
      if binaryMark.isPrefixOf content then return ⟨content, name, arguments⟩
      match interpreter? content with
      | none => throw .noExecutable
      | some (reader, argument) =>
          let reader := ofBytes reader
          machine.loadWithin ofBytes depth reader reader
            ((argument.map ofBytes).toList ++ path :: arguments)

/-- The deepest that scripts may be interpreters of scripts. -/
def scriptDepth : Nat := 6

/-- Loads the program at a path. -/
def load (machine : Machine) (ofBytes : Bytes → Text) (path name : Text)
    (arguments : List Text) : Except Fault Loaded :=
  machine.loadWithin ofBytes scriptDepth path name arguments

/-- Tries a name in directories, one after the other, until one is decided. A file that may not be
executed is passed over, but decides how it is reported that there is no other. -/
def tryEntries {α : Type} (attempt : Text → Except Fault α) (name : Text) :
    List Text → Fault → Bool → Except Fault α
  | [], fault, denied => .error (if denied then .permissionDenied else fault)
  | entry :: others, _, denied =>
      match attempt (inEntry entry name) with
      | .error .permissionDenied => tryEntries attempt name others .permissionDenied true
      | .error .notFound => tryEntries attempt name others .notFound denied
      | .error .notDirectory => tryEntries attempt name others .notDirectory denied
      | decided => decided

/-- Tries a path, or a name in the directories of the search path. -/
def trySearch {α : Type} (machine : Machine) (attempt : Text → Except Fault α) (name : Text) :
    Except Fault α :=
  if name.isEmpty then .error .notFound
  else if name.elem '/' then attempt name
  else if FileTree.longestName < name.length then .error .nameTooLong
  else tryEntries attempt name machine.searchPath .notFound false

end ProjectTags.Machine
