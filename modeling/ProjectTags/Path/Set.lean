import ProjectTags.Path.Basic

/-!
# Sets of paths

Paths that are there, each in one of its spellings.
-/

namespace ProjectTags.Path

/-- Some paths. -/
abbrev Paths := List Text

namespace Paths

/-- Whether a path is one of them, in any spelling. -/
def holds (paths : Paths) (path : Text) : Bool :=
  paths.any fun other => same path other

/-- The paths with one more, unless it is one of them. -/
def add (paths : Paths) (path : Text) : Paths :=
  if paths.holds path then paths else paths ++ [path]

/-- The paths without one of them. -/
def remove (paths : Paths) (path : Text) : Paths :=
  paths.filter fun other => !same path other

/-- Whether a path is a directory or below it, by their components. -/
def isWithin (directory path : Text) : Bool :=
  let outer := components directory
  let inner := components path
  outer.absolute == inner.absolute && outer.names.isPrefixOf inner.names

/-- The paths without a directory and all that is below it. -/
def prune (paths : Paths) (directory : Text) : Paths :=
  paths.filter fun path => !isWithin directory path

end Paths

end ProjectTags.Path
