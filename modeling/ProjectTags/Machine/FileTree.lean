import ProjectTags.Machine.Fault
import ProjectTags.Path.Basic
import ProjectTags.Text.Utf8

/-!
# File trees

A file tree gives every location below the root a directory or a file. A location is the list of
names that leads to it. A path is looked up name by name from the root or from the current
directory, and each step asks that the place it starts from is a directory; so a path goes through
a missing directory or a file only as far as the fault that reports it.
-/

namespace ProjectTags

/-- What stands at a location. -/
inductive Node where
  | directory
  | file (content : Bytes) (executable : Bool)
  deriving DecidableEq, Repr

/-- The names that lead from the root to a place. -/
abbrev Location := List Text

/-- The directories and files of a machine. The root is a directory and has no entry. -/
structure FileTree where
  entries : List (Location × Node)

namespace FileTree

/-- A tree that holds nothing but its root. -/
def empty : FileTree := ⟨[]⟩

/-- What stands at a location. -/
def node? (tree : FileTree) (location : Location) : Option Node :=
  if location = [] then some .directory else tree.entries.lookup location

/-- Puts something at a location, in the place of what is there. -/
def put (tree : FileTree) (location : Location) (node : Node) : FileTree :=
  if tree.entries.any (·.1 = location) then
    ⟨tree.entries.map fun entry => if entry.1 = location then (location, node) else entry⟩
  else ⟨tree.entries ++ [(location, node)]⟩

/-- Takes away a location and everything below it. -/
def prune (tree : FileTree) (location : Location) : FileTree :=
  ⟨tree.entries.filter fun entry => !location.isPrefixOf entry.1⟩

/-- The place to which everything may be written and that keeps nothing. -/
def nullDevice : Location := ["dev".toList, "null".toList]

/-- The names directly below a location, in the order in which they were put there. -/
def children (tree : FileTree) (location : Location) : List Text :=
  tree.entries.filterMap fun entry =>
    if entry.1.dropLast = location then entry.1.getLast? else none

/-- The longest name that a file may have, in bytes. -/
def longestName : Nat := 255

/-- The longest path that is looked up, in bytes. -/
def longestPath : Nat := 4095

/-- Goes from a directory by one name. The place reached may hold nothing. -/
def enter (tree : FileTree) (place : Location) (name : Text) : Except Fault Location :=
  match tree.node? place with
  | none => .error .notFound
  | some (.file _ _) => .error .notDirectory
  | some .directory =>
      if longestName < Utf8.length name then .error .nameTooLong
      else .ok (Path.descend place name)

/-- Goes from the current directory by some names. From one that is no longer there only `.` and
`..` still lead somewhere. -/
def depart (tree : FileTree) (current : Location) : List Text → Except Fault Location
  | [] => .ok current
  | name :: names =>
      if tree.node? current = some .directory then (name :: names).foldlM tree.enter current
      else if Path.isVoid name then tree.depart current names
      else if name = ['.', '.'] then names.foldlM tree.enter current.dropLast
      else .error .notFound

/-- Where a path leads from a current directory. Every place on the way is a directory, the last
one may hold nothing. -/
def locate (tree : FileTree) (current : Location) (path : Text) : Except Fault Location :=
  if path = [] then .error .notFound
  else if path.elem '\x00' then .error .zeroInPath
  else if longestPath < Utf8.length path then .error .nameTooLong
  else if Path.isAbsolute path then (Text.pieces '/' path).foldlM tree.enter []
  else tree.depart current (Text.pieces '/' path)

/-- The location and the node of a path at which something stands. The current directory is found
by `.` even if it is no longer there. -/
def find (tree : FileTree) (current : Location) (path : Text) : Except Fault (Location × Node) := do
  let location ← tree.locate current path
  if !Path.isAbsolute path && (Text.pieces '/' path).all Path.isVoid then
    return (location, .directory)
  else
    match tree.node? location with
    | some node => return (location, node)
    | none => throw .notFound

/-- Whether something stands at a path. -/
def holds (tree : FileTree) (current : Location) (path : Text) : Bool :=
  match tree.find current path with
  | .ok _ => true
  | .error _ => false

/-- Whether a path leads to a directory. -/
def isDirectory (tree : FileTree) (current : Location) (path : Text) : Bool :=
  match tree.find current path with
  | .ok (_, .directory) => true
  | _ => false

/-- Whether a path leads to a file. -/
def isFile (tree : FileTree) (current : Location) (path : Text) : Bool :=
  match tree.find current path with
  | .ok (_, .file _ _) => true
  | _ => false

/-- The bytes of the file at a path. -/
def read (tree : FileTree) (current : Location) (path : Text) : Except Fault Bytes := do
  match ← tree.find current path with
  | (_, .file content _) => return content
  | (_, .directory) => throw .isDirectory

/-- A path without the slashes at its end, a path of slashes alone excepted. -/
def withoutEndSlashes (path : Text) : Text :=
  match Text.dropWhileEnd (· = '/') path with
  | [] => path
  | rest => rest

/-- The name in which a path ends. It is empty for the root alone. -/
def lastName (path : Text) : Text :=
  (Text.pieces '/' (withoutEndSlashes path)).getLastD []

/-- Whether a path ends in the name of a place below another one, where something can be made. -/
def endsInName (path : Text) : Bool :=
  !Path.isVoid (lastName path) && lastName path != ['.', '.']

/-- Makes a directory at a path at which nothing stands. -/
def makeDirectory (tree : FileTree) (current : Location) (path : Text) : Except Fault FileTree := do
  let location ← tree.locate current (withoutEndSlashes path)
  if !endsInName path || (tree.node? location).isSome then throw .alreadyExists
  else return tree.put location .directory

/-- Makes a directory at a path and before it those above it that are missing, within a number of
levels. A directory that is there already is kept, and what was made before a fault stays. -/
def makeDirectoriesWithin (current : Location) : Nat → Text → FileTree → FileTree × Option Fault
  | 0, _, tree => (tree, some .notFound)
  | levels + 1, path, tree =>
      if path = [] then (tree, none)
      else
        match tree.makeDirectory current path, Path.parent? path with
        | .ok made, _ => (made, none)
        | .error .notFound, some above =>
            match makeDirectoriesWithin current levels above tree with
            | (prepared, some fault) => (prepared, some fault)
            | (prepared, none) =>
                match prepared.makeDirectory current path with
                | .ok made => (made, none)
                | .error fault =>
                    (prepared, if prepared.isDirectory current path then none else some fault)
        | .error fault, _ => (tree, if tree.isDirectory current path then none else some fault)

/-- Makes a directory at a path and before it those above it that are missing. -/
def makeDirectories (tree : FileTree) (current : Location) (path : Text) :
    FileTree × Option Fault :=
  makeDirectoriesWithin current (path.length + 1) path tree

/-- Writes the whole content of a file at a path, making the file if there is none. -/
def write (tree : FileTree) (current : Location) (path : Text) (content : Bytes) :
    Except Fault FileTree := do
  let location ← tree.locate current (withoutEndSlashes path)
  let asDirectory := path.getLast? = some '/'
  if !endsInName path then throw .isDirectory
  else
    match tree.node? location with
    | some .directory => throw .isDirectory
    | some (.file _ executable) =>
        if asDirectory then throw .notDirectory
        else return tree.put location (.file content executable)
    | none =>
        if asDirectory then throw .isDirectory else return tree.put location (.file content false)

/-- Takes away everything below a location, which itself stays. -/
def clear (tree : FileTree) (location : Location) : FileTree :=
  ⟨tree.entries.filter fun entry => !(location.isPrefixOf entry.1 && entry.1 != location)⟩

/-- Takes away the directory at a path, in which nothing is. The last name of the path has to be
the name of the directory: `.` and `..` are none. -/
def removeEmpty (tree : FileTree) (current : Location) (path : Text) : Except Fault FileTree := do
  let location ← tree.locate current (withoutEndSlashes path)
  let name := lastName path
  if name = [] then throw .busy
  else if name = ['.'] then throw .invalidArgument
  else if name = ['.', '.'] then throw .notEmpty
  else
    match tree.node? location with
    | none => throw .notFound
    | some (.file _ _) => throw .notDirectory
    | some .directory =>
        if (tree.children location).isEmpty then return tree.prune location else throw .notEmpty

/-- Takes away the directory at a path with everything in it, what is in it first. A path that
leads nowhere once that is gone is no fault. What was taken away before a fault stays away. -/
def removeDirectory (tree : FileTree) (current : Location) (path : Text) :
    FileTree × Option Fault :=
  match tree.find current path with
  | .error fault => (tree, some fault)
  | .ok (_, .file _ _) => (tree, some .notDirectory)
  | .ok (location, .directory) =>
      let emptied := tree.clear location
      match emptied.removeEmpty current path with
      | .ok removed => (removed, none)
      | .error .notFound => (emptied, none)
      | .error fault => (emptied, some fault)

end FileTree

end ProjectTags
