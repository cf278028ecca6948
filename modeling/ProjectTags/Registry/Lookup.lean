import ProjectTags.Log
import ProjectTags.Query.Session
import ProjectTags.Root.Resolver

/-!
# Looking up libraries

Which databases a file and a query have to do with, going by the library registry of a project.
Lines of the registry that are no entries are told about and passed over.
-/

namespace ProjectTags

namespace Registry

/-- The entries of the registry of a database. -/
def validEntries (machine : Machine) (database : Text) :
    Except Failure (List Target) × List Event :=
  match read machine.files machine.current database with
  | .error failure => (.error failure, [])
  | .ok records =>
      let (entries, failures) := split records
      (.ok entries, failures.map (.lineSkipped (path database)))

/-- The first entry of the registry of a database whose root begins the text of a path. -/
def firstMatch (machine : Machine) (database file : Text) :
    Except Failure (Option Target) × List Event :=
  match read machine.files machine.current database with
  | .error failure => (.error failure, [])
  | .ok records =>
      let (found, failures) := search (fun entry => Path.hasTextPrefix file entry.root) records
      (.ok found, failures.map (.lineSkipped (path database)))

end Registry

namespace Root.Resolver

/-- The root and the database that a file belongs to: those of the project if the file is under
its root, else those of the first library it is under, else those of the project. -/
def across (resolver : Resolver) (machine : Machine) (current file : Text) (primary : Target) :
    Except Failure Target × List Event :=
  let path := resolver.absolute current file
  if Path.hasTextPrefix path primary.root then (.ok primary, [])
  else
    let (found, events) := Registry.firstMatch machine primary.database path
    (found.map (·.getD primary), events)

end Root.Resolver

end ProjectTags
