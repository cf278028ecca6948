import ProjectTags.Settings.Basic

/-!
# Checking settings

Settings that could not be used are refused before anything is done with them.
-/

namespace ProjectTags.Settings

/-- A reason to refuse settings. -/
inductive Objection where
  /-- An entry without a name cannot mark a root. -/
  | emptyMarker
  /-- The indexer needs the name of a section. -/
  | emptyLabel
  /-- The listing tool that is asked for cannot be used. -/
  | listing (failure : Failure)
  deriving DecidableEq, Repr

namespace Objection

/-- What is said about an objection, and behind it what caused it. -/
def messages : Objection → List Text
  | emptyMarker => ["root_markers must not contain empty entries".toList]
  | emptyLabel => ["gtagslabel must not be empty".toList]
  | listing failure => ["Invalid [file_list] configuration".toList, failure.message]

/-- What is said about an objection. -/
def message (objection : Objection) : Text :=
  objection.messages.headD []

end Objection

/-- The first objection to settings on a machine that has some listing tools. -/
def objection? (settings : Settings) (available : List Text) : Option Objection :=
  if settings.placement.rootMarkers.any (·.isEmpty) then some .emptyMarker
  else if settings.indexing.label.isEmpty then some .emptyLabel
  else
    match Lister.ofSettings settings.listing available with
    | .ok _ => none
    | .error failure => some (.listing failure)

end ProjectTags.Settings
