import ProjectTags.Failure

/-!
# The log

What is told to the user while work is going on. An event has a level, a fixed message and fields
that name what it is about.
-/

namespace ProjectTags

/-- How much an event matters. -/
inductive Level where
  | info
  | warning
  | error
  deriving DecidableEq, Repr

namespace Level

/-- The name of a level. -/
def name : Level → Text
  | info => "INFO".toList
  | warning => "WARN".toList
  | error => "ERROR".toList

end Level

/-- Something that is told to the user. -/
inductive Event where
  | storeReady (databases : Text) (libraries : Nat)
  | building (root database : Text)
  | built (database : Text)
  | buildingLibrary (root : Text)
  | libraryFailed (root : Text) (failure : Failure)
  | removed (database : Text)
  | lineSkipped (registry : Text) (failure : Failure)
  | libraryQueryFailed (database : Text) (failure : Failure)
  | queryWarnings (command errors : Text)
  | jobSkipped (job reason : Text)
  | jobFinished (job outcome : Text)
  | removalCancelled (path : Text)
  | jobFailed (job : Text) (failure : Failure)
  | jobBroken (job text : Text)
  deriving DecidableEq, Repr

namespace Event

/-- The level of an event. -/
def level : Event → Level
  | storeReady _ _ | building _ _ | built _ | buildingLibrary _ | removed _ | jobSkipped _ _
  | jobFinished _ _ | removalCancelled _ => .info
  | lineSkipped _ _ | libraryQueryFailed _ _ | queryWarnings _ _ => .warning
  | libraryFailed _ _ | jobFailed _ _ | jobBroken _ _ => .error

/-- The message of an event. -/
def message : Event → Text
  | storeReady _ _ => "Tag store ready".toList
  | building _ _ => "Building tag database".toList
  | built _ => "Tag database generated successfully".toList
  | buildingLibrary _ => "Building library tag database".toList
  | libraryFailed _ _ => "Library build failed".toList
  | removed _ => "Removed tag database".toList
  | lineSkipped _ _ => "Skipping registry line".toList
  | libraryQueryFailed _ _ => "Library query failed".toList
  | queryWarnings _ _ => "Query reported warnings".toList
  | jobSkipped _ _ => "Update job skipped".toList
  | jobFinished _ _ => "Update job finished".toList
  | removalCancelled _ => "Removal cancelled".toList
  | jobFailed _ _ => "Update job failed".toList
  | jobBroken _ _ => "Update job panicked".toList

/-- The fields of an event with their names. -/
def fields : Event → List (Text × Text)
  | storeReady databases libraries =>
      [("db_root".toList, databases), ("libraries".toList, Text.digits libraries)]
  | building root database => [("root".toList, root), (['d', 'b'], database)]
  | built database => [(['d', 'b'], database)]
  | buildingLibrary root => [("library".toList, root)]
  | libraryFailed root failure =>
      [("library".toList, root), ("error".toList, failure.message)]
  | removed database => [(['d', 'b'], database)]
  | lineSkipped registry failure =>
      [("registry".toList, registry), ("error".toList, failure.message)]
  | libraryQueryFailed database failure =>
      [(['d', 'b'], database), ("error".toList, failure.message)]
  | queryWarnings command errors => [("command".toList, command), ("stderr".toList, errors)]
  | jobSkipped job reason => [("job".toList, job), ("reason".toList, reason)]
  | jobFinished job outcome => [("job".toList, job), ("outcome".toList, outcome)]
  | removalCancelled path => [("path".toList, path)]
  | jobFailed job failure => [("job".toList, job), ("error".toList, failure.message)]
  | jobBroken job text => [("job".toList, job), ("panic".toList, text)]

end Event

end ProjectTags
