import ProjectTags.Proofs.Path.Ascent
import ProjectTags.Root.Search

/-!
# What the search for a root finds

The search goes through the directories at and above a place, nearest first, and stops at the
first that holds a marker. So it finds a directory exactly if that one holds a marker and none of
the nearer ones does, and what it finds is a directory in normal form.

The paths that are asked for do not depend on what is found: there is one for each directory and
marker, and the search asks for them in turn up to the first that is there.
-/

namespace ProjectTags.Root

variable {present : Text → Bool} {markers : List Text} {current place directory : Text}

/-- Whether a directory holds one of the markers. -/
def Marked (present : Text → Bool) (markers : List Text) (directory : Text) : Prop :=
  ∃ marker ∈ markers, present (Path.join directory marker) = true

/-- Whether a directory is the nearest one at or above a place that holds a marker. -/
def IsNearest (present : Text → Bool) (markers : List Text) (place directory : Text) : Prop :=
  ∃ nearer above, Path.ancestors place = nearer ++ directory :: above ∧
    Marked present markers directory ∧ ∀ other ∈ nearer, ¬Marked present markers other

theorem IsNearest.marked (nearest : IsNearest present markers place directory) :
    Marked present markers directory := by
  rcases nearest with ⟨_, _, _, marked, _⟩
  exact marked

theorem IsNearest.isNormal (nearest : IsNearest present markers place directory) :
    Path.IsNormal directory := by
  rcases nearest with ⟨nearer, above, split, _, _⟩
  exact Path.isNormal_of_mem_ancestors (by rw [split]; simp)

/-- Asking for the markers in turn comes to yes exactly if one of them is there. -/
theorem value_holdsMarker_iff :
    (holdsMarker present markers directory).value = true ↔ Marked present markers directory := by
  induction markers with
  | nil => simp [holdsMarker, Marked]
  | cons marker others ih =>
      simp only [holdsMarker, Probed.value_bind, Probed.ask]
      by_cases there : present (Path.join directory marker) = true
      · simp [there, Marked]
      · simp only [there, Bool.false_eq_true, if_false, ih]
        simp [Marked, there]

theorem value_holdsMarker_eq_false_iff :
    (holdsMarker present markers directory).value = false ↔ ¬Marked present markers directory := by
  rw [← Bool.not_eq_true, value_holdsMarker_iff]

/-- The search is that for the first directory that holds a marker. -/
theorem value_firstWithMarker (directories : List Text) :
    (firstWithMarker present markers directories).value =
      directories.find? fun directory => (holdsMarker present markers directory).value := by
  induction directories with
  | nil => rfl
  | cons first others ih =>
      simp only [firstWithMarker, Probed.value_bind, List.find?_cons]
      cases (holdsMarker present markers first).value with
      | true => rfl
      | false => exact ih

/-- The search finds the nearest directory with a marker. -/
theorem value_nearest_eq_some_iff :
    (nearest present markers current place).value = some directory ↔
      IsNearest present markers (Path.absolutize place current) directory := by
  rw [nearest, value_firstWithMarker, List.find?_eq_some_iff_append]
  simp only [value_holdsMarker_iff, Bool.not_eq_true', value_holdsMarker_eq_false_iff]
  constructor
  · rintro ⟨marked, nearer, above, split, unmarked⟩
    exact ⟨nearer, above, split, marked, unmarked⟩
  · rintro ⟨nearer, above, split, marked, unmarked⟩
    exact ⟨marked, nearer, above, split, unmarked⟩

theorem isNearest_absolutize_iff (rooted : Path.isAbsolute place = true) :
    IsNearest present markers (Path.absolutize place current) directory ↔
      IsNearest present markers place directory := by
  rw [Path.absolutize_of_isAbsolute rooted, IsNearest, Path.ancestors_normalize rooted, IsNearest]

/-! ## The paths that are asked for -/

/-- Some paths up to the first that is there, with that one. -/
def upToFirst (present : Text → Bool) (paths : List Text) : List Text :=
  paths.takeWhile (fun path => !present path) ++ (paths.find? present).toList

theorem upToFirst_cons (path : Text) (others : List Text) :
    upToFirst present (path :: others) =
      path :: if present path then [] else upToFirst present others := by
  cases there : present path <;> simp [upToFirst, there]

theorem upToFirst_of_absent {paths : List Text} (absent : paths.any present = false) :
    upToFirst present paths = paths := by
  induction paths with
  | nil => rfl
  | cons path others ih =>
      simp only [List.any_cons, Bool.or_eq_false_iff] at absent
      simp [upToFirst_cons, absent.1, ih absent.2]

theorem length_upToFirst_le (paths : List Text) :
    (upToFirst present paths).length ≤ paths.length := by
  induction paths with
  | nil => simp [upToFirst]
  | cons path others ih =>
      rw [upToFirst_cons]
      split
      · simp
      · simpa using ih

/-- The paths behind a path that is there are not asked for. -/
theorem upToFirst_append (first second : List Text) :
    upToFirst present (first ++ second) =
      if first.any present then upToFirst present first
      else first ++ upToFirst present second := by
  induction first with
  | nil => rfl
  | cons path others ih =>
      rw [List.cons_append, upToFirst_cons, upToFirst_cons, ih]
      cases there : present path <;> simp [there]
      split <;> rfl

/-- The paths that tell whether a directory holds a marker. -/
def probes (markers : List Text) (directory : Text) : List Text :=
  markers.map fun marker => Path.join directory marker

theorem probes_cons (marker : Text) (others : List Text) (directory : Text) :
    probes (marker :: others) directory =
      Path.join directory marker :: probes others directory := rfl

theorem value_holdsMarker :
    (holdsMarker present markers directory).value = (probes markers directory).any present := by
  rw [Bool.eq_iff_iff, value_holdsMarker_iff]
  simp [Marked, probes]

theorem asked_holdsMarker :
    (holdsMarker present markers directory).asked =
      upToFirst present (probes markers directory) := by
  induction markers with
  | nil => rfl
  | cons marker others ih =>
      rw [probes_cons, upToFirst_cons, holdsMarker]
      cases there : present (Path.join directory marker) with
      | true => simp [Probed.ask, there]
      | false => simpa [Probed.ask, there] using ih

/-- The search asks for the probes of one directory after the other. -/
theorem asked_firstWithMarker (directories : List Text) :
    (firstWithMarker present markers directories).asked =
      upToFirst present (directories.flatMap (probes markers)) := by
  induction directories with
  | nil => rfl
  | cons first others ih =>
      rw [List.flatMap_cons, upToFirst_append, firstWithMarker, Probed.asked_bind,
        asked_holdsMarker, value_holdsMarker]
      cases held : (probes markers first).any present with
      | true => simp
      -- Without a marker here all probes of this directory are asked for.
      | false => simp [ih, upToFirst_of_absent held]

/-! ## The search from a place upwards -/

/-- The nearest directory with a marker has none below it on the way from the place. -/
theorem isNearest_iff (normal : Path.IsNormal place) :
    IsNearest present markers place directory ↔
      Path.IsAtOrAbove place directory ∧ Marked present markers directory ∧
        ∀ deeper, Path.IsAtOrAbove place deeper → Path.IsAbove deeper directory →
          ¬Marked present markers deeper := by
  constructor
  · rintro ⟨nearer, above, split, marked, unmarked⟩
    refine ⟨(Path.mem_ancestors_iff normal).mp (by rw [split]; simp), marked, ?_⟩
    intro deeper reached lower
    exact unmarked deeper ((Path.mem_nearer_iff normal split).mpr ⟨reached, lower⟩)
  · rintro ⟨reached, marked, unmarked⟩
    rcases List.append_of_mem ((Path.mem_ancestors_iff normal).mpr reached) with
      ⟨nearer, above, split⟩
    refine ⟨nearer, above, split, marked, fun other mem => ?_⟩
    rcases (Path.mem_nearer_iff normal split).mp mem with ⟨otherReached, lower⟩
    exact unmarked other otherReached lower

/-- What a search finds from a place upwards, and the paths that it asks for. -/
structure SearchesUpward (present : Text → Bool) (markers : List Text) (start : Text)
    (search : Probed (Option Text)) : Prop where
  some_iff : ∀ directory, search.value = some directory ↔
    Path.IsAtOrAbove start directory ∧ Marked present markers directory ∧
      ∀ deeper, Path.IsAtOrAbove start deeper → Path.IsAbove deeper directory →
        ¬Marked present markers deeper
  none_iff : search.value = none ↔
    ∀ directory, Path.IsAtOrAbove start directory → ¬Marked present markers directory
  /-- The root is among the directories that are looked at. -/
  root : Path.IsAtOrAbove start ['/']
  asked : ∃ levels, Path.IsAscent start levels ∧
    search.asked = upToFirst present (levels.flatMap (probes markers))
  /-- The search comes to an end: there is one level for each name, and the root. -/
  ends : search.asked.length ≤ ((Path.names start).length + 1) * markers.length

/-- From any place, taken from the current directory, the search finds the nearest directory with a
marker, and asks for the markers level by level up to the first that is there. -/
theorem searches_upward (rooted : Path.isAbsolute current = true) (present : Text → Bool)
    (markers : List Text) (place : Text) :
    SearchesUpward present markers (Path.absolutize place current)
      (nearest present markers current place) := by
  have normal : Path.IsNormal (Path.absolutize place current) :=
    Path.isNormal_absolutize rooted place
  have asked : (nearest present markers current place).asked = upToFirst present
      ((Path.ancestors (Path.absolutize place current)).flatMap (probes markers)) :=
    asked_firstWithMarker _
  refine ⟨fun directory => value_nearest_eq_some_iff.trans (isNearest_iff normal), ?_,
    Path.isAtOrAbove_root normal, ⟨_, Path.isAscent_ancestors normal, asked⟩, ?_⟩
  · rw [nearest, value_firstWithMarker, List.find?_eq_none]
    simp only [value_holdsMarker_iff, Path.mem_ancestors_iff normal]
  · rw [asked]
    refine (length_upToFirst_le _).trans_eq ?_
    simp [List.length_flatMap, probes, Path.length_ancestors]

/-- From `/b/c` the marker `m` is found in the root, behind four paths that are not there. -/
theorem searches_upward_to_root :
    let present : Text → Bool := fun path => path = ['/', 'm']
    let place : Text := ['.', '.', '/', 'b', '/', '.', '/', 'c']
    let search := nearest present [['m'], ['n']] ['/', 'a'] place
    Path.isAbsolute ['/', 'a'] = true ∧
      SearchesUpward present [['m'], ['n']] ['/', 'b', '/', 'c'] search ∧
      search.value = some ['/'] ∧
      search.asked = [['/', 'b', '/', 'c', '/', 'm'], ['/', 'b', '/', 'c', '/', 'n'],
        ['/', 'b', '/', 'm'], ['/', 'b', '/', 'n'], ['/', 'm']] := by
  intro present place search
  have start : Path.absolutize place ['/', 'a'] = ['/', 'b', '/', 'c'] := by decide
  refine ⟨rfl, ?_, by decide, by decide⟩
  rw [← start]
  exact searches_upward rfl present [['m'], ['n']] place

end ProjectTags.Root
