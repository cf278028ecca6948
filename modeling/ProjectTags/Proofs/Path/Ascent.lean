import Mathlib.Data.List.Induction
import ProjectTags.Proofs.Path.LastName

/-!
# Going up from a path in normal form

Going up takes the last name off a path, until only the root is left. So the directories at and
above a path in normal form are a chain: each is followed by its parent, and the root comes last.
Their texts get shorter and shorter, and each begins the text of the path.
-/

namespace ProjectTags

theorem Text.joinWith_concat {parts : List Text} (nonempty : parts ≠ []) (separator last : Text) :
    Text.joinWith separator (parts ++ [last]) =
      Text.joinWith separator parts ++ separator ++ last := by
  induction parts with
  | nil => exact absurd rfl nonempty
  | cons part others ih =>
      cases others with
      | nil => simp [joinWith]
      | cons next more => simpa [joinWith] using ih (by simp)

namespace Path

variable {path above directory name : Text} {names : List Text}

/-- What holds of the root, and of a path whenever it holds of its parent, holds of every path in
normal form. -/
@[elab_as_elim]
theorem IsNormal.induction {motive : Text → Prop} (root : motive ['/'])
    (below : ∀ names name, (∀ other ∈ names, IsOrdinary other) → IsOrdinary name →
      motive (absolute names) → motive (absolute (names ++ [name])))
    (normal : IsNormal path) : motive path := by
  rcases normal with ⟨names, ordinary, rfl⟩
  -- The names are taken from the end, where a parent takes its own from.
  induction names using List.reverseRecOn with
  | nil => exact root
  | append_singleton names name ih =>
      have inner : ∀ other ∈ names, IsOrdinary other := fun other mem =>
        ordinary other (List.mem_append_left _ mem)
      exact below names name inner (ordinary name (by simp)) (ih inner)

/-! ## Parents -/

theorem parent?_root : parent? ['/'] = none := rfl

/-- The parent of a path in normal form has its names but for the last. -/
theorem parent?_absolute_concat (ordinary : ∀ other ∈ names, IsOrdinary other)
    (last : IsOrdinary name) : parent? (absolute (names ++ [name])) = some (absolute names) := by
  have cut : Text.pieces '/' (ofNames (names ++ [name])) = names ++ [name] := by
    apply Text.pieces_joinWith (by simp)
    intro other mem
    rcases List.mem_append.mp mem with inner | outer
    · exact (ordinary other inner).no_slash
    · rw [List.mem_singleton.mp outer]
      exact last.no_slash
  -- A parent also drops what is void in front of the last name; no ordinary name is.
  have solid : names.reverse.dropWhile isVoid = names.reverse := by
    rw [List.dropWhile_eq_self_iff]
    intro nonempty
    have mem : names.reverse[0] ∈ names := List.mem_reverse.mp (List.getElem_mem nonempty)
    rw [Bool.not_eq_true]
    exact (ordinary _ mem).isVoid_eq_false
  have start : head (absolute (names ++ [name])) = ['/'] := rfl
  have rest : (absolute (names ++ [name])).drop 1 = ofNames (names ++ [name]) := rfl
  simp only [parent?, start, List.length_singleton, rest, cut, List.reverse_append,
    List.reverse_singleton, List.singleton_append, List.dropWhile_cons, last.isVoid_eq_false,
    Bool.false_eq_true, if_false, solid, List.reverse_reverse]
  rfl

/-- One name more makes the text longer and keeps its beginning. -/
theorem exists_absolute_concat (names : List Text) (last : IsOrdinary name) :
    ∃ rest, rest ≠ [] ∧ absolute (names ++ [name]) = absolute names ++ rest := by
  by_cases empty : names = []
  · subst empty
    exact ⟨name, last.ne_nil, rfl⟩
  · refine ⟨'/' :: name, by simp, ?_⟩
    rw [absolute, absolute, ofNames, ofNames, Text.joinWith_concat empty]
    simp

/-! ## All directories above -/

/-- A directory is the path itself or above it. -/
def IsAtOrAbove (path directory : Text) : Prop :=
  directory = path ∨ IsAbove path directory

theorem IsAbove.trans {between : Text} (first : IsAbove path between)
    (second : IsAbove between directory) : IsAbove path directory := by
  induction second with
  | parent up => exact .further first up
  | further _ up ih => exact .further ih up

theorem IsAtOrAbove.trans {between : Text} (first : IsAtOrAbove path between)
    (second : IsAtOrAbove between directory) : IsAtOrAbove path directory := by
  rcases second with rfl | higher
  · exact first
  · rcases first with rfl | lower
    · exact Or.inr higher
    · exact Or.inr (lower.trans higher)

theorem isAbove_iff_of_parent (up : parent? path = some above) :
    IsAbove path directory ↔ IsAtOrAbove above directory := by
  constructor
  · intro higher
    induction higher with
    | parent other => exact Or.inl (Option.some.inj (other.symm.trans up))
    | further _ next ih =>
        rcases ih with rfl | higher
        · exact Or.inr (.parent next)
        · exact Or.inr (.further higher next)
  · rintro (rfl | higher)
    · exact .parent up
    · exact .of_parent up higher

theorem isAtOrAbove_iff_of_parent (up : parent? path = some above) :
    IsAtOrAbove path directory ↔ directory = path ∨ IsAtOrAbove above directory := by
  rw [IsAtOrAbove, isAbove_iff_of_parent up]

theorem not_isAbove_root : ¬IsAbove ['/'] directory := by
  intro higher
  induction higher with
  | parent up => simp [parent?_root] at up
  | further _ _ ih => exact ih

/-- The text of a directory above a path begins the text of the path and is not all of it. -/
theorem IsNormal.prefix_of_isAbove (normal : IsNormal path) :
    IsAbove path directory → directory <+: path ∧ directory.length < path.length := by
  refine normal.induction (fun higher => absurd higher not_isAbove_root) ?_
  intro names name ordinary last ih higher
  rcases exists_absolute_concat names last with ⟨rest, nonempty, longer⟩
  have start : absolute names <+: absolute (names ++ [name]) := ⟨rest, longer.symm⟩
  have shorter : (absolute names).length < (absolute (names ++ [name])).length := by
    rw [longer, List.length_append]
    exact Nat.lt_add_of_pos_right (List.length_pos_iff.mpr nonempty)
  rcases (isAbove_iff_of_parent (parent?_absolute_concat ordinary last)).mp higher with
    rfl | further
  · exact ⟨start, shorter⟩
  · rcases ih further with ⟨begins, length⟩
    exact ⟨begins.trans start, length.trans shorter⟩

/-! ## The chain -/

/-- Some directories are those from a path up to the root, each followed by its parent. -/
structure IsAscent (path : Text) (levels : List Text) : Prop where
  first : levels.head? = some path
  parents : levels.IsChain fun below above => parent? below = some above
  last : levels.getLast? = some ['/']

theorem upward_concat (names : List Text) (name : Text) :
    upward (names ++ [name]) = (names ++ [name]) :: upward names := by
  have shorter : (List.range (names.length + 1)).reverse.map (names ++ [name]).take =
      (List.range (names.length + 1)).reverse.map names.take := by
    apply List.map_congr_left
    intro count mem
    have bound : count < names.length + 1 := List.mem_range.mp (List.mem_reverse.mp mem)
    rw [List.take_append_of_le_length (by omega)]
  have whole : (names ++ [name]).take (names.length + 1) = names ++ [name] :=
    List.take_of_length_le (by simp)
  rw [upward, List.length_append, List.length_singleton, List.range_succ, List.reverse_append,
    List.reverse_singleton, List.singleton_append, List.map_cons, shorter, whole, ← upward]

theorem ancestors_root : ancestors ['/'] = [['/']] := rfl

/-- The directories at and above a path are the path and those at and above its parent. -/
theorem ancestors_absolute_concat (ordinary : ∀ other ∈ names, IsOrdinary other)
    (last : IsOrdinary name) :
    ancestors (absolute (names ++ [name])) =
      absolute (names ++ [name]) :: ancestors (absolute names) := by
  have all : ∀ other ∈ names ++ [name], IsOrdinary other := by
    simpa [or_imp, forall_and] using ⟨ordinary, last⟩
  rw [ancestors, ancestors, names_absolute all, names_absolute ordinary, upward_concat,
    List.map_cons]

theorem isAscent_ancestors (normal : IsNormal path) : IsAscent path (ancestors path) := by
  refine normal.induction ⟨rfl, .singleton _, rfl⟩ ?_
  intro names name ordinary last ih
  have up := parent?_absolute_concat ordinary last
  rw [ancestors_absolute_concat ordinary last]
  cases levels : ancestors (absolute names) with
  | nil => simpa [levels] using ih.first
  | cons nearest others =>
      rw [levels] at ih
      have first : nearest = absolute names := by simpa using ih.first
      refine ⟨rfl, .cons_cons (by rw [first, up]) ih.parents, ?_⟩
      simpa using ih.last

theorem mem_ancestors_iff (normal : IsNormal path) :
    directory ∈ ancestors path ↔ IsAtOrAbove path directory := by
  refine normal.induction ?_ ?_
  · simp [ancestors_root, IsAtOrAbove, not_isAbove_root]
  · intro names name ordinary last ih
    rw [ancestors_absolute_concat ordinary last, List.mem_cons, ih,
      isAtOrAbove_iff_of_parent (parent?_absolute_concat ordinary last)]

theorem isAtOrAbove_root (normal : IsNormal path) : IsAtOrAbove path ['/'] :=
  (mem_ancestors_iff normal).mp (List.mem_of_getLast? (isAscent_ancestors normal).last)

theorem IsAtOrAbove.isNormal (reached : IsAtOrAbove path directory) (normal : IsNormal path) :
    IsNormal directory :=
  isNormal_of_mem_ancestors ((mem_ancestors_iff normal).mpr reached)

/-- No directory is above one that is above it. -/
theorem IsAtOrAbove.not_isAbove (reached : IsAtOrAbove path directory) (normal : IsNormal path) :
    ¬IsAbove directory path := by
  intro back
  have shorter := ((reached.isNormal normal).prefix_of_isAbove back).2
  rcases reached with rfl | higher
  · exact lt_irrefl _ shorter
  · exact lt_asymm shorter (normal.prefix_of_isAbove higher).2

/-- The text of each directory at or above a path begins that of the path. -/
theorem IsAtOrAbove.hasTextPrefix (reached : IsAtOrAbove path directory) (normal : IsNormal path) :
    hasTextPrefix path directory = true := by
  have nonempty : directory ≠ [] := by
    rcases reached.isNormal normal with ⟨names, _, rfl⟩
    simp [absolute]
  have begins : directory <+: path := by
    rcases reached with rfl | higher
    · exact List.prefix_rfl
    · exact (normal.prefix_of_isAbove higher).1
  simp [Path.hasTextPrefix, nonempty, begins]

theorem pairwise_ancestors (normal : IsNormal path) : (ancestors path).Pairwise IsAbove := by
  refine normal.induction (List.pairwise_singleton ..) ?_
  intro names name ordinary last ih
  rw [ancestors_absolute_concat ordinary last, List.pairwise_cons]
  refine ⟨fun other mem => ?_, ih⟩
  rw [isAbove_iff_of_parent (parent?_absolute_concat ordinary last)]
  exact (mem_ancestors_iff ⟨names, ordinary, rfl⟩).mp mem

/-- In front of a directory stand those that are between the path and it. -/
theorem mem_nearer_iff {nearer farther : List Text} {other : Text} (normal : IsNormal path)
    (split : ancestors path = nearer ++ directory :: farther) :
    other ∈ nearer ↔ IsAtOrAbove path other ∧ IsAbove other directory := by
  have ordered := pairwise_ancestors normal
  rw [split, List.pairwise_append, List.pairwise_cons] at ordered
  rcases ordered with ⟨_, ⟨further, _⟩, across⟩
  have directoryNormal : IsNormal directory := isNormal_of_mem_ancestors (by rw [split]; simp)
  rw [← mem_ancestors_iff normal, split, List.mem_append, List.mem_cons]
  constructor
  · exact fun mem => ⟨Or.inl mem, across other mem directory (List.mem_cons_self ..)⟩
  · rintro ⟨mem | rfl | mem, above⟩
    · exact mem
    · exact absurd above (IsAtOrAbove.not_isAbove (Or.inl rfl) directoryNormal)
    · exact absurd above
        (IsAtOrAbove.not_isAbove (Or.inr (further other mem)) directoryNormal)

theorem length_ancestors (path : Text) : (ancestors path).length = (Path.names path).length + 1 := by
  simp [ancestors, upward]

end Path

end ProjectTags
