import ProjectTags.Text.Basic

/-!
# Targets

A source tree together with the directory of its tag database. Projects and the libraries they
link to are both targets.
-/

namespace ProjectTags

/-- A source tree and its database. -/
structure Target where
  root : Text
  database : Text
  deriving DecidableEq, Repr

end ProjectTags
