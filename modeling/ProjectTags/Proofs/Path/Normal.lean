import ProjectTags.Path.Basic
import ProjectTags.Proofs.Text.Pieces

/-!
# Paths in normal form

An absolute path in normal form is a slash and ordinary names with one slash between neighbours.
Normalizing gives such a path, and leaves one that is in normal form already as it is: `names` and
`absolute` are inverse to each other on lists of ordinary names.
-/

namespace ProjectTags.Path

/-- A name that leads to a place below: it is not empty, it is neither `.` nor `..`, and no slash
is in it. -/
structure IsOrdinary (name : Text) : Prop where
  ne_nil : name ≠ []
  ne_dot : name ≠ ['.']
  ne_dots : name ≠ ['.', '.']
  no_slash : '/' ∉ name

/-- An absolute path in normal form. -/
def IsNormal (path : Text) : Prop :=
  ∃ names, (∀ name ∈ names, IsOrdinary name) ∧ path = absolute names

theorem exists_of_isAbsolute {path : Text} (rooted : isAbsolute path = true) :
    ∃ rest, path = '/' :: rest := by
  unfold isAbsolute at rooted
  split at rooted
  · exact ⟨_, rfl⟩
  · simp at rooted

@[simp]
theorem isAbsolute_absolute (names : List Text) : isAbsolute (absolute names) = true := rfl

theorem IsNormal.isAbsolute {path : Text} (normal : IsNormal path) : isAbsolute path = true := by
  rcases normal with ⟨names, _, rfl⟩
  rfl

/-! ## Names -/

theorem descend_of_isVoid {names : List Text} {name : Text} (void : isVoid name = true) :
    descend names name = names := by
  simp only [isVoid, Bool.or_eq_true, decide_eq_true_eq] at void
  rcases void with rfl | rfl <;> simp [descend]

theorem descend_dots (names : List Text) : descend names ['.', '.'] = names.dropLast := by
  simp [descend]

theorem IsOrdinary.descend_eq {name : Text} (ordinary : IsOrdinary name) (above : List Text) :
    descend above name = above ++ [name] := by
  simp [descend, ordinary.ne_nil, ordinary.ne_dot, ordinary.ne_dots]

theorem descend_ordinary {names : List Text} {name : Text}
    (ordinary : ∀ name ∈ names, IsOrdinary name) (noSlash : '/' ∉ name) :
    ∀ other ∈ descend names name, IsOrdinary other := by
  unfold descend
  split
  · exact ordinary
  · next notVoid =>
      split
      · intro other mem
        exact ordinary other (List.dropLast_subset names mem)
      · next notDots =>
          intro other mem
          rcases List.mem_append.mp mem with above | last
          · exact ordinary other above
          · rw [List.mem_singleton.mp last]
            simp only [Bool.or_eq_true, decide_eq_true_eq, not_or] at notVoid
            exact ⟨notVoid.1, notVoid.2, notDots, noSlash⟩

theorem foldl_descend_ordinary {pieces names : List Text}
    (ordinary : ∀ name ∈ names, IsOrdinary name) (noSlash : ∀ piece ∈ pieces, '/' ∉ piece) :
    ∀ name ∈ pieces.foldl descend names, IsOrdinary name := by
  induction pieces generalizing names with
  | nil => exact ordinary
  | cons piece others ih =>
      apply ih
      · exact descend_ordinary ordinary (noSlash piece (List.mem_cons_self ..))
      · exact fun other mem => noSlash other (List.mem_cons_of_mem _ mem)

/-- The names of a path in normal form are ordinary. -/
theorem names_ordinary (path : Text) : ∀ name ∈ names path, IsOrdinary name :=
  foldl_descend_ordinary (by simp) fun _ mem => Text.not_mem_of_mem_pieces mem

/-- Going down by ordinary names puts them behind those above. -/
theorem foldl_descend_of_ordinary {names : List Text} (above : List Text)
    (ordinary : ∀ name ∈ names, IsOrdinary name) :
    names.foldl descend above = above ++ names := by
  induction names generalizing above with
  | nil => simp
  | cons name others ih =>
      have first := ordinary name (List.mem_cons_self ..)
      rw [List.foldl_cons, first.descend_eq,
        ih _ fun other mem => ordinary other (List.mem_cons_of_mem _ mem)]
      simp

/-- A path that is put together from ordinary names has these names. -/
@[simp]
theorem names_absolute {names : List Text} (ordinary : ∀ name ∈ names, IsOrdinary name) :
    Path.names (absolute names) = names := by
  have cut : Text.pieces '/' (absolute names) = [] :: Text.pieces '/' (ofNames names) := by
    simp [absolute, Text.pieces]
  have root : descend [] [] = [] := by simp [descend]
  rw [Path.names, cut, List.foldl_cons, root]
  by_cases empty : names = []
  · subst empty
    simp [ofNames, Text.joinWith, Text.pieces, descend]
  · rw [ofNames, Text.pieces_joinWith empty fun name mem => (ordinary name mem).no_slash]
    simpa using foldl_descend_of_ordinary [] ordinary

/-! ## Normalizing -/

theorem normalize_of_isAbsolute {path : Text} (rooted : isAbsolute path = true) :
    normalize path = absolute (names path) :=
  if_pos rooted

theorem isNormal_normalize {path : Text} (rooted : isAbsolute path = true) :
    IsNormal (normalize path) :=
  ⟨names path, names_ordinary path, normalize_of_isAbsolute rooted⟩

theorem isAbsolute_ofNames {names : List Text} (ordinary : ∀ name ∈ names, IsOrdinary name) :
    isAbsolute (ofNames names) = false := by
  cases names with
  | nil => rfl
  | cons name others =>
      have first := ordinary name (List.mem_cons_self ..)
      cases name with
      | nil => exact absurd rfl first.ne_nil
      | cons c rest =>
          have noSlash : c ≠ '/' := fun same => first.no_slash (same ▸ List.mem_cons_self ..)
          cases others <;> simp [ofNames, Text.joinWith, isAbsolute, noSlash]

/-- Normalizing a path does not make it absolute. -/
theorem isAbsolute_normalize (path : Text) : isAbsolute (normalize path) = isAbsolute path := by
  unfold normalize
  by_cases rooted : isAbsolute path = true
  · rw [if_pos rooted, isAbsolute_absolute, rooted]
  · rw [if_neg rooted, isAbsolute_ofNames (names_ordinary path), Bool.eq_false_iff.mpr rooted]

theorem isNormal_of_isAbsolute_absolutize {path base : Text}
    (rooted : isAbsolute (absolutize path base) = true) : IsNormal (absolutize path base) := by
  rw [absolutize, isAbsolute_normalize] at rooted
  exact isNormal_normalize rooted

/-- Normalizing changes nothing at a path in normal form. -/
theorem IsNormal.normalize_eq {path : Text} (normal : IsNormal path) : normalize path = path := by
  rcases normal with ⟨names, ordinary, rfl⟩
  simp [normalize, names_absolute ordinary]

theorem names_normalize {path : Text} (rooted : isAbsolute path = true) :
    names (normalize path) = names path := by
  rw [normalize_of_isAbsolute rooted, names_absolute (names_ordinary path)]

theorem join_of_isAbsolute {path : Text} (rooted : isAbsolute path = true) (base : Text) :
    join base path = path := by
  simp [join, rooted]

/-- A path that is taken from an absolute base is absolute. -/
theorem isAbsolute_join {base : Text} (rooted : isAbsolute base = true) (path : Text) :
    isAbsolute (join base path) = true := by
  unfold join
  by_cases replaced : isAbsolute path = true
  · simp [replaced]
  · rcases exists_of_isAbsolute rooted with ⟨rest, rfl⟩
    rw [if_neg replaced]
    split <;> rfl

/-- Whatever is taken from an absolute base comes out in normal form. -/
theorem isNormal_absolutize {base : Text} (rooted : isAbsolute base = true) (path : Text) :
    IsNormal (absolutize path base) :=
  isNormal_normalize (isAbsolute_join rooted path)

/-- The base does not matter to an absolute path. -/
theorem absolutize_of_isAbsolute {path : Text} (rooted : isAbsolute path = true) (base : Text) :
    absolutize path base = normalize path := by
  rw [absolutize, join_of_isAbsolute rooted]

/-- Once absolute, a path stays as it is, whatever it is taken from. -/
theorem absolutize_absolutize {base : Text} (rooted : isAbsolute base = true)
    (path another : Text) : absolutize (absolutize path base) another = absolutize path base := by
  have normal := isNormal_absolutize rooted path
  rw [absolutize_of_isAbsolute normal.isAbsolute, normal.normalize_eq]

/-! ## Going up -/

theorem isAbsolute_of_parent? {path above : Text} (rooted : isAbsolute path = true)
    (parent : parent? path = some above) : isAbsolute above = true := by
  rcases exists_of_isAbsolute rooted with ⟨rest, rfl⟩
  unfold parent? at parent
  simp only [head, List.cons.injEq, Char.reduceEq, false_and, if_false] at parent
  split at parent
  · simp at parent
  · simp only [Option.some.injEq] at parent
    subst parent
    rfl

theorem isNormal_of_mem_ancestors {path directory : Text} (mem : directory ∈ ancestors path) :
    IsNormal directory := by
  rcases List.mem_map.mp mem with ⟨above, taken, rfl⟩
  rcases List.mem_map.mp taken with ⟨count, _, rfl⟩
  exact ⟨_, fun name mem => names_ordinary path name (List.mem_of_mem_take mem), rfl⟩

theorem ancestors_normalize {path : Text} (rooted : isAbsolute path = true) :
    ancestors (normalize path) = ancestors path := by
  rw [ancestors, ancestors, names_normalize rooted]

end ProjectTags.Path
