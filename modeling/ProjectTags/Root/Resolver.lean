import ProjectTags.Database
import ProjectTags.Registry.Entry
import ProjectTags.Root.Search

/-!
# Resolving files

A resolver says to which project a file belongs and where the database of that project is. It
remembers the last root that it found by a marker. As long as files lie under that root, going by
the text of their paths, it asks for no markers; another file sends it on a new search, and only a
search that succeeds changes what it remembers. A file that is under no marker at all belongs to
the root of the working directory, or to the working directory itself.
-/

namespace ProjectTags

namespace Root

/-- What is known about the project of a file. -/
structure Resolved where
  root : Text
  database : Text
  /-- Whether the database is there. -/
  indexed : Bool
  deriving DecidableEq, Repr

/-- What a resolver goes by. -/
structure Rules where
  markers : List Text
  /-- The directory for all databases. -/
  databases : Text
  /-- The directory that relative paths are taken from, if it is not the current one. -/
  workingDirectory : Option Text
  deriving DecidableEq, Repr

/-- A resolver with the last root that it found by a marker. -/
structure Resolver where
  rules : Rules
  remembered : Option Text
  deriving DecidableEq, Repr

namespace Resolver

/-- A resolver that remembers nothing. -/
def fresh (rules : Rules) : Resolver := ⟨rules, none⟩

/-- The directory that relative paths are taken from. -/
def base (resolver : Resolver) (current : Text) : Text :=
  resolver.rules.workingDirectory.getD current

/-- A path taken from the working directory, in normal form. -/
def absolute (resolver : Resolver) (current file : Text) : Text :=
  Path.absolutize file (resolver.base current)

/-- The database of a root. -/
def databaseOf (resolver : Resolver) (root : Text) : Text :=
  Database.location resolver.rules.databases root

/-- The remembered root, if the text of a path begins with it. -/
def rememberedFor? (resolver : Resolver) (path : Text) : Option Text :=
  resolver.remembered.filter fun root => Path.hasTextPrefix path root

/-- Remembers a root if one was found. -/
def remember (resolver : Resolver) (found : Option Text) : Resolver :=
  { resolver with remembered := found.or resolver.remembered }

/-- The nearest root of the directory of a file, by its markers. -/
def searchFrom (resolver : Resolver) (present : Text → Bool) (current path : Text) :
    Probed (Option Text) :=
  nearest present resolver.rules.markers current ((Path.parent? path).getD path)

/-- The root of a file, and the resolver that remembers it. -/
def rootOf (resolver : Resolver) (present : Text → Bool) (current file : Text) :
    Probed (Text × Resolver) := do
  let path := resolver.absolute current file
  match resolver.rememberedFor? path with
  | some root => return (root, resolver)
  | none =>
      match ← resolver.searchFrom present current path with
      | some root => return (root, resolver.remember (some root))
      | none =>
          match ← nearest present resolver.rules.markers current (resolver.base current) with
          | some root => return (root, resolver.remember (some root))
          | none => return (resolver.base current, resolver)

/-- What is known about the project of a file, and the resolver afterwards. -/
def resolve (resolver : Resolver) (present : Text → Bool) (current file : Text) :
    Probed (Resolved × Resolver) := do
  let (root, after) ← resolver.rootOf present current file
  let database := resolver.databaseOf root
  let indexed ← Probed.ask present (Path.join database Database.indexFile)
  return (⟨root, database, indexed⟩, after)

/-- Whether a file is under a root with a marker, and the resolver afterwards. -/
def isUnderMarker (resolver : Resolver) (present : Text → Bool) (current file : Text) :
    Probed (Bool × Resolver) := do
  let path := resolver.absolute current file
  match resolver.rememberedFor? path with
  | some _ => return (true, resolver)
  | none =>
      let found ← resolver.searchFrom present current path
      return (found.isSome, resolver.remember found)

end Resolver

end Root

end ProjectTags
