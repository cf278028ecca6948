import ProjectTags.Machine.FileTree

/-!
# Changes of file trees

What is different below a directory between two file trees, in the order of the names by their
bytes.
-/

namespace ProjectTags.FileTree

/-- What became of an entry. The name is relative to the directory that is looked at and ends in a
slash for directories, which have no content. -/
inductive Change where
  | removed (name : Text)
  | added (name : Text) (content : Option Bytes)
  | changed (name : Text) (content : Option Bytes)
  deriving DecidableEq, Repr

namespace Change

/-- The name of the entry. -/
def name : Change → Text
  | removed name | added name _ | changed name _ => name

end Change

/-- The entries below a directory by their relative names. -/
def contents (tree : FileTree) (directory : Location) : List (Text × Option Bytes) :=
  tree.entries.filterMap fun entry =>
    if directory.isPrefixOf entry.1 && entry.1 != directory then
      let name := Path.ofNames (entry.1.drop directory.length)
      match entry.2 with
      | .directory => some (name ++ ['/'], none)
      | .file content _ => some (name, some content)
    else none

/-- What is different below a directory. -/
def changes (before after : FileTree) (directory : Location) : List Change :=
  let old := before.contents directory
  let new := after.contents directory
  let gone := (old.filter fun entry => (new.lookup entry.1).isNone).map fun entry =>
    Change.removed entry.1
  let come := new.filterMap fun entry =>
    match old.lookup entry.1 with
    | none => some (.added entry.1 entry.2)
    | some content => if content = entry.2 then none else some (.changed entry.1 entry.2)
  (gone ++ come).mergeSort fun first second =>
    Utf8.precedes first.name second.name

end ProjectTags.FileTree
