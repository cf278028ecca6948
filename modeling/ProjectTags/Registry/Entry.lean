import ProjectTags.Failure
import ProjectTags.Machine.FileTree
import ProjectTags.Target
import ProjectTags.Text.Blank
import ProjectTags.Text.Lines

/-!
# Library registries

The database directory of a project holds a registry of the libraries that the project links to:
a file with one line for each library, its root and its database with a tab between them. Blank
lines count as lines and are passed over. A line that is no entry, or no text at all, is a failure
of its own and does not hide the lines after it.
-/

namespace ProjectTags.Registry

/-- The name of the registry file. -/
def fileName : Text := "GTAGSLIBPATH".toList

/-- The registry of a database. -/
def path (database : Text) : Text :=
  Path.join database fileName

/-- Reads the line of a given number as an entry; both parts are there and neither is empty. -/
def parseEntry (line : Text) (lineNumber : Nat) : Except Failure Target :=
  match Text.splitAt? '\t' line with
  | some (root, database) =>
      if root.isEmpty || database.isEmpty then .error (.malformedEntry lineNumber line)
      else .ok ⟨root, database⟩
  | none => .error (.malformedEntry lineNumber line)

/-- The line of an entry, with its end. -/
def renderEntry (entry : Target) : Text :=
  entry.root ++ '\t' :: entry.database ++ ['\n']

/-- The content of a registry with given entries. -/
def render (entries : List Target) : Bytes :=
  Utf8.encode (entries.flatMap renderEntry)

/-- What the lines from a given number on say. A line that is no text does not count. -/
def parseLines (registry : Text) : Nat → List Bytes → List (Except Failure Target)
  | _, [] => []
  | number, bytes :: others =>
      match Utf8.decode? bytes with
      | none => .error (.fileSystem registry .invalidUtf8) :: parseLines registry number others
      | some text =>
          let line := Text.trimRight text
          if line.isEmpty then parseLines registry (number + 1) others
          else parseEntry line number :: parseLines registry (number + 1) others

/-- What a registry with a given content says, line by line. -/
def parse (registry : Text) (content : Bytes) : List (Except Failure Target) :=
  parseLines registry 1 (Bytes.lines content)

/-- The entries of a registry up to the first that satisfies a condition, and the failures of the
lines before it. -/
def search (condition : Target → Bool) :
    List (Except Failure Target) → Option Target × List Failure
  | [] => (none, [])
  | .ok entry :: others => if condition entry then (some entry, []) else search condition others
  | .error failure :: others =>
      let (found, failures) := search condition others
      (found, failure :: failures)

/-- The entries of a registry, and the failures of the lines that are none. -/
def split (records : List (Except Failure Target)) : List Target × List Failure :=
  (records.filterMap fun | .ok entry => some entry | .error _ => none,
    records.filterMap fun | .ok _ => none | .error failure => some failure)

/-- What the registry of a database says; one that is not there says nothing. -/
def read (tree : FileTree) (current : Location) (database : Text) :
    Except Failure (List (Except Failure Target)) :=
  match tree.read current (path database) with
  | .ok content => .ok (parse (path database) content)
  | .error .notFound => .ok []
  | .error fault => .error (.fileSystem (path database) fault)

/-- The result of writing a registry: the files afterwards, and the entries written or the failure
that stopped it. -/
structure Written where
  tree : FileTree
  outcome : Except Failure (List Target)

/-- Writes the registry of a database, with the entries whose root is there, and makes the
directory of the database before. -/
def write (tree : FileTree) (current : Location) (database : Text) (entries : List Target) :
    Written :=
  let registry := path database
  let directory := (Path.parent? registry).getD []
  match tree.makeDirectories current directory with
  | (prepared, some fault) => ⟨prepared, .error (.fileSystem directory fault)⟩
  | (prepared, none) =>
      let present := entries.filter fun entry => prepared.holds current entry.root
      match prepared.write current registry (render present) with
      | .ok written => ⟨written, .ok present⟩
      | .error fault => ⟨prepared, .error (.fileSystem registry fault)⟩

end ProjectTags.Registry
