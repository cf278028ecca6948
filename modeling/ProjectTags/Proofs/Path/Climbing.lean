import Mathlib.Data.List.DropRight
import Mathlib.Data.List.Induction
import ProjectTags.Proofs.Path.Normal

/-!
# Relative paths from two directories

A relative path climbs some directories and then goes down by some names, whatever the directory
that it is taken from. So from two directories it leads to the same place exactly if these agree
once they have lost as many names at their ends as the path climbs directories.
-/

namespace ProjectTags.Path

/-- How many directories a path climbs, and by which names it then goes down. -/
structure Way where
  climbed : Nat
  down : List Text
  deriving DecidableEq, Repr

namespace Way

/-- The way with one more name. Going up takes back a name, and climbs where there is none. -/
def onward (way : Way) (name : Text) : Way :=
  if name = [] || name = ['.'] then way
  else if name = ['.', '.'] then
    if way.down = [] then ⟨way.climbed + 1, []⟩ else ⟨way.climbed, way.down.dropLast⟩
  else ⟨way.climbed, way.down ++ [name]⟩

/-- The way of a relative path. -/
def ofPath (path : Text) : Way :=
  (Text.pieces '/' path).foldl onward ⟨0, []⟩

/-- Where a way leads to from a directory. -/
def leadsTo (way : Way) (directory : List Text) : List Text :=
  directory.rdrop way.climbed ++ way.down

theorem rdrop_succ (directory : List Text) (count : Nat) :
    directory.rdrop (count + 1) = (directory.rdrop count).dropLast := by
  simp only [List.rdrop, List.dropLast_eq_take, List.take_take, List.length_take]
  congr 1
  omega

theorem leadsTo_onward (way : Way) (directory : List Text) (name : Text) :
    (way.onward name).leadsTo directory = descend (way.leadsTo directory) name := by
  unfold onward descend leadsTo
  by_cases stays : (name = [] || name = ['.']) = true
  · rw [if_pos stays, if_pos stays]
  · rw [if_neg stays, if_neg stays]
    by_cases up : name = ['.', '.']
    · rw [if_pos up, if_pos up]
      by_cases bare : way.down = []
      · simp [bare, rdrop_succ]
      · simp [bare, List.dropLast_append_of_ne_nil]
    · rw [if_neg up, if_neg up, List.append_assoc]

theorem foldl_descend (pieces directory : List Text) (way : Way) :
    pieces.foldl descend (way.leadsTo directory) = (pieces.foldl onward way).leadsTo directory := by
  induction pieces generalizing way with
  | nil => rfl
  | cons piece others ih =>
      rw [List.foldl_cons, List.foldl_cons, ← leadsTo_onward, ih]

end Way

variable {first second path : Text}

/-- Between an absolute base and a relative path there is one slash. -/
theorem exists_join {base : Text} (rooted : isAbsolute base = true)
    (relative : isAbsolute path = false) :
    ∃ start, (base = start ∨ base = start ++ ['/']) ∧ join base path = start ++ '/' :: path := by
  rcases exists_of_isAbsolute rooted with ⟨rest, nonempty⟩
  unfold join
  rw [if_neg (by simp [relative])]
  split
  · next closed =>
      have last : base.getLast? = some '/' := by simpa [nonempty] using closed
      rcases List.getLast?_eq_some_iff.mp last with ⟨start, split⟩
      exact ⟨start, Or.inr split, by simp [split]⟩
  · exact ⟨base, Or.inl rfl, rfl⟩

theorem names_append_slash (base path : Text) :
    names (base ++ '/' :: path) = (Text.pieces '/' path).foldl descend (names base) := by
  rw [names, names, Text.pieces_append_cons, List.foldl_append]

/-- The names of a relative path that is taken from a base. -/
theorem names_join {base : Text} (rooted : isAbsolute base = true)
    (relative : isAbsolute path = false) :
    names (join base path) = (Way.ofPath path).leadsTo (names base) := by
  rcases exists_join rooted relative with ⟨start, split, joined⟩
  have same : names base = names start := by
    rcases split with rfl | rfl
    · rfl
    · simp [names_append_slash, Text.pieces, descend]
  have stays : (⟨0, []⟩ : Way).leadsTo (names start) = names start := by simp [Way.leadsTo]
  rw [joined, names_append_slash, same, Way.ofPath, ← Way.foldl_descend, stays]

theorem absolute_injective {names others : List Text} (ordinary : ∀ name ∈ names, IsOrdinary name)
    (otherOrdinary : ∀ name ∈ others, IsOrdinary name) :
    absolute names = absolute others ↔ names = others := by
  constructor
  · intro same
    rw [← names_absolute ordinary, same, names_absolute otherOrdinary]
  · rintro rfl
    rfl

/-- A path leads to the same place from two directories if it is absolute, or if the directories
agree without as many of their last names as it climbs. -/
theorem absolutize_eq_iff (rooted : isAbsolute first = true)
    (otherRooted : isAbsolute second = true) (path : Text) :
    absolutize path first = absolutize path second ↔
      isAbsolute path = true ∨
        (names first).rdrop (Way.ofPath path).climbed =
          (names second).rdrop (Way.ofPath path).climbed := by
  cases relative : isAbsolute path with
  | true => simp [absolutize_of_isAbsolute relative]
  | false =>
      rw [absolutize, absolutize, normalize_of_isAbsolute (isAbsolute_join rooted path),
        normalize_of_isAbsolute (isAbsolute_join otherRooted path),
        absolute_injective (names_ordinary _) (names_ordinary _), names_join rooted relative,
        names_join otherRooted relative]
      simp [Way.leadsTo]

end ProjectTags.Path
