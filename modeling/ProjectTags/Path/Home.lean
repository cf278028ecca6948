import ProjectTags.Path.Basic

/-!
# The home directory

A leading tilde stands for the home directory of the user.
-/

namespace ProjectTags.Path

/-- The path with a leading `~`, `~/` or `~\` taken from the home directory. -/
def expandHome (home path : Text) : Text :=
  match path with
  | ['~'] => home
  | '~' :: '/' :: rest => join home rest
  | '~' :: '\\' :: rest => join home rest
  | _ => path

end ProjectTags.Path
