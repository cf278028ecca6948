import ProjectTags.Proofs.Machine.Nodes
import ProjectTags.Proofs.Path.LastName

/-!
# Where paths lead

A path that leads anywhere leads to the place that its names alone tell: the file tree decides
only whether the way is open. The way is open if every place on it is a directory, so more
directories never close it, and a path without `..` passes through nothing but the places above
the one that it leads to.
-/

namespace ProjectTags.FileTree

variable {tree before after : FileTree} {current place location : Location} {names : List Text}
  {name path : Text} {node : Node} {content : Bytes}

/-- The place that a path leads to from a current directory, if the way is open. -/
def destination (current : Location) (path : Text) : Location :=
  (Text.pieces '/' path).foldl Path.descend (if Path.isAbsolute path then [] else current)

/-- The places from which names are entered, one after the other. -/
def waypoints : Location → List Text → List Location
  | _, [] => []
  | place, name :: names => place :: waypoints (Path.descend place name) names

/-- Whether a path can be looked up at all. -/
structure Fits (path : Text) : Prop where
  ne_nil : path ≠ []
  no_zero : path.elem '\x00' = false
  short : Utf8.length path ≤ longestPath
  names : ∀ name ∈ Text.pieces '/' path, Utf8.length name ≤ longestName

theorem bind_eq_ok_iff {α β : Type} {first : Except Fault α} {rest : α → Except Fault β}
    {last : β} :
    (first >>= rest) = .ok last ↔ ∃ value, first = .ok value ∧ rest value = .ok last := by
  cases first <;> simp [bind, Except.bind]

/-! ## Following names -/

theorem enter_eq_ok_iff :
    tree.enter place name = .ok location ↔
      tree.node? place = some .directory ∧ Utf8.length name ≤ longestName ∧
        location = Path.descend place name := by
  unfold enter
  cases held : tree.node? place with
  | none => simp
  | some node =>
      cases node with
      | file content executable => simp
      | directory =>
          by_cases short : Utf8.length name ≤ longestName
          · simp [short, Nat.not_lt.mpr short, eq_comm]
          · simp [short, Nat.lt_of_not_le short]

/-- Names are followed exactly if each of them is entered from a directory. -/
theorem foldlM_enter_eq_ok_iff :
    names.foldlM tree.enter place = .ok location ↔
      (∀ way ∈ waypoints place names, tree.node? way = some .directory) ∧
        (∀ name ∈ names, Utf8.length name ≤ longestName) ∧
          location = names.foldl Path.descend place := by
  induction names generalizing place with
  | nil => simp [waypoints, pure, Except.pure, eq_comm]
  | cons name others ih =>
      rw [List.foldlM_cons, List.foldl_cons]
      constructor
      · intro followed
        cases entered : tree.enter place name with
        | error fault =>
            rw [entered] at followed
            cases followed
        | ok next =>
            rw [entered] at followed
            rcases enter_eq_ok_iff.mp entered with ⟨held, short, rfl⟩
            rcases ih.mp followed with ⟨open_, fits, rfl⟩
            exact ⟨by simpa [waypoints, held] using open_, by simpa [short] using fits, rfl⟩
      · rintro ⟨open_, fits, rfl⟩
        simp only [waypoints, List.mem_cons, forall_eq_or_imp] at open_ fits
        rw [enter_eq_ok_iff.mpr ⟨open_.1, fits.1, rfl⟩]
        exact ih.mpr ⟨open_.2, fits.2, rfl⟩

theorem waypoints_append (place : Location) (first second : List Text) :
    waypoints place (first ++ second) =
      waypoints place first ++ waypoints (first.foldl Path.descend place) second := by
  induction first generalizing place with
  | nil => rfl
  | cons name others ih => simp [waypoints, ih]

theorem length_le_of_isVoid (void : Path.isVoid name = true) : Utf8.length name ≤ longestName := by
  simp only [Path.isVoid, Bool.or_eq_true, decide_eq_true_eq] at void
  rcases void with rfl | rfl <;> decide

theorem depart_of_directory (held : tree.node? current = some .directory) (names : List Text) :
    tree.depart current names = names.foldlM tree.enter current := by
  cases names with
  | nil => rfl
  | cons name others => simp [depart, held]

/-- The ways to leave a current directory that is no longer there. -/
theorem depart_of_gone (gone : tree.node? current ≠ some .directory)
    (departed : tree.depart current (name :: names) = .ok location) :
    (Path.isVoid name = true ∧ tree.depart current names = .ok location) ∨
      (Path.isVoid name = false ∧ name = ['.', '.'] ∧
        names.foldlM tree.enter current.dropLast = .ok location) := by
  rw [depart, if_neg gone] at departed
  by_cases void : Path.isVoid name = true
  · rw [if_pos void] at departed
    exact Or.inl ⟨void, departed⟩
  · rw [if_neg void] at departed
    split at departed
    · next dots => exact Or.inr ⟨by simpa using void, dots, departed⟩
    · cases departed

/-- Names lead from the current directory where they lead from any place. -/
theorem depart_eq_ok (departed : tree.depart current names = .ok location) :
    (∀ name ∈ names, Utf8.length name ≤ longestName) ∧
      location = names.foldl Path.descend current := by
  induction names with
  | nil => simpa [depart, eq_comm] using departed
  | cons name others ih =>
      by_cases held : tree.node? current = some .directory
      · rw [depart_of_directory held] at departed
        exact (foldlM_enter_eq_ok_iff.mp departed).2
      · rcases depart_of_gone held departed with ⟨void, rest⟩ | ⟨_, rfl, rest⟩
        · rcases ih rest with ⟨fits, reached⟩
          rw [List.foldl_cons, Path.descend_of_isVoid void]
          exact ⟨by simpa [length_le_of_isVoid void] using fits, reached⟩
        · rcases (foldlM_enter_eq_ok_iff.mp rest).2 with ⟨fits, reached⟩
          rw [List.foldl_cons, Path.descend_dots]
          have dots : Utf8.length ['.', '.'] ≤ longestName := by decide
          exact ⟨by simpa [dots] using fits, reached⟩

/-- The last name is entered from a directory if it leads anywhere below. -/
theorem directory_of_depart_append (ordinary : Path.IsOrdinary name)
    (departed : tree.depart current (names ++ [name]) = .ok location) :
    tree.node? (names.foldl Path.descend current) = some .directory := by
  have last : ∀ place (others : List Text),
      (others ++ [name]).foldlM tree.enter place = .ok location →
        tree.node? (others.foldl Path.descend place) = some .directory := by
    intro place others followed
    apply (foldlM_enter_eq_ok_iff.mp followed).1
    rw [waypoints_append]
    simp [waypoints]
  induction names with
  | nil =>
      by_cases held : tree.node? current = some .directory
      · exact held
      · rcases depart_of_gone held departed with ⟨void, _⟩ | ⟨_, dots, _⟩
        · rw [ordinary.isVoid_eq_false] at void
          exact Bool.noConfusion void
        · exact absurd dots ordinary.ne_dots
  | cons first others ih =>
      by_cases held : tree.node? current = some .directory
      · rw [depart_of_directory held] at departed
        exact last current (first :: others) departed
      · rcases depart_of_gone held departed with ⟨void, rest⟩ | ⟨_, rfl, rest⟩
        · rw [List.foldl_cons, Path.descend_of_isVoid void]
          exact ih rest
        · rw [List.foldl_cons, Path.descend_dots]
          exact last _ others rest

/-! ## Following paths -/

theorem locate_of_fits (fits : Fits path) :
    tree.locate current path =
      if Path.isAbsolute path then (Text.pieces '/' path).foldlM tree.enter []
      else tree.depart current (Text.pieces '/' path) := by
  rw [locate, if_neg fits.ne_nil, if_neg (by simpa using fits.no_zero),
    if_neg (Nat.not_lt.mpr fits.short)]

/-- A path leads where its names tell, or nowhere. -/
theorem locate_eq_ok (located : tree.locate current path = .ok location) :
    Fits path ∧ location = destination current path := by
  unfold locate at located
  split at located
  · cases located
  · next nonempty =>
      split at located
      · cases located
      · next noZero =>
          split at located
          · cases located
          · next short =>
              have followed : (∀ name ∈ Text.pieces '/' path, Utf8.length name ≤ longestName) ∧
                  location = destination current path := by
                unfold destination
                split at located
                · next rooted =>
                    rw [if_pos rooted]
                    exact (foldlM_enter_eq_ok_iff.mp located).2
                · next relative =>
                    rw [if_neg relative]
                    exact depart_eq_ok located
              exact ⟨⟨nonempty, by simpa using noZero, Nat.not_lt.mp short, followed.1⟩, followed.2⟩

/-- A path leads to its destination if every place on the way is a directory. -/
theorem locate_of_waypoints (fits : Fits path)
    (held : ∀ way ∈ waypoints (if Path.isAbsolute path then [] else current)
      (Text.pieces '/' path), tree.node? way = some .directory) :
    tree.locate current path = .ok (destination current path) := by
  rw [locate_of_fits fits]
  split
  · next rooted =>
      rw [if_pos rooted] at held
      exact foldlM_enter_eq_ok_iff.mpr ⟨held, fits.names, by rw [destination, if_pos rooted]⟩
  · next relative =>
      rw [if_neg relative] at held
      have start : tree.node? current = some .directory := by
        apply held
        cases cut : Text.pieces '/' path with
        | nil => exact absurd cut (Text.pieces_ne_nil '/' path)
        | cons first others => simp [waypoints]
      rw [depart_of_directory start]
      exact foldlM_enter_eq_ok_iff.mpr ⟨held, fits.names, by rw [destination, if_neg relative]⟩

/-- More directories close no way. -/
theorem locate_mono
    (kept : ∀ place, before.node? place = some .directory → after.node? place = some .directory)
    (located : before.locate current path = .ok location) :
    after.locate current path = .ok location := by
  have follow : ∀ place (names : List Text), names.foldlM before.enter place = .ok location →
      names.foldlM after.enter place = .ok location := by
    intro place names followed
    rcases foldlM_enter_eq_ok_iff.mp followed with ⟨held, rest⟩
    exact foldlM_enter_eq_ok_iff.mpr ⟨fun way mem => kept way (held way mem), rest⟩
  have leave : ∀ names : List Text, before.depart current names = .ok location →
      after.depart current names = .ok location := by
    intro names departed
    induction names with
    | nil => exact departed
    | cons name others ih =>
        by_cases held : before.node? current = some .directory
        · rw [depart_of_directory held] at departed
          rw [depart_of_directory (kept current held)]
          exact follow _ _ departed
        · rcases depart_of_gone held departed with ⟨void, rest⟩ | ⟨notVoid, rfl, rest⟩
          · -- The current directory may have come back, and the name is then entered from it.
            have further := ih rest
            by_cases made : after.node? current = some .directory
            · rw [depart_of_directory made] at further ⊢
              have stays : after.enter current name = .ok current :=
                enter_eq_ok_iff.mpr
                  ⟨made, length_le_of_isVoid void, (Path.descend_of_isVoid void).symm⟩
              rw [List.foldlM_cons, stays]
              exact further
            · rw [depart, if_neg made, if_pos void]
              exact further
          · have further := follow _ _ rest
            by_cases made : after.node? current = some .directory
            · have up : after.enter current ['.', '.'] = .ok current.dropLast :=
                enter_eq_ok_iff.mpr ⟨made, by decide, (Path.descend_dots _).symm⟩
              rw [depart_of_directory made, List.foldlM_cons, up]
              exact further
            · rw [depart, if_neg made, if_neg (by simp [notVoid]), if_pos rfl]
              exact further
  rcases locate_eq_ok located with ⟨fits, _⟩
  rw [locate_of_fits fits] at located ⊢
  split at located
  · next rooted =>
      rw [if_pos rooted]
      exact follow _ _ located
  · next relative =>
      rw [if_neg relative]
      exact leave _ located

/-! ## Paths that end in a name -/

/-- One more name leads to the place of that name below where the path before it leads. -/
@[simp]
theorem destination_join (ordinary : Path.IsOrdinary name) (current : Location) (base : Text) :
    destination current (Path.join base name) = destination current base ++ [name] := by
  unfold destination
  rcases ordinary.join_cases base with ⟨rfl, joined⟩ | ⟨start, base_eq, joined⟩
  · rw [joined, Text.pieces_eq_singleton ordinary.no_slash, ordinary.not_isAbsolute]
    simp [ordinary.descend_eq, Path.descend_of_isVoid, Path.isVoid, Path.isAbsolute, Text.pieces]
  · have sameStart : Path.isAbsolute (start ++ '/' :: name) = Path.isAbsolute base := by
      rcases base_eq with rfl | ⟨rfl, nonempty⟩
      · cases start with
        | nil => rfl
        | cons c others => by_cases slash : c = '/' <;> simp [Path.isAbsolute, slash]
      · cases base with
        | nil => exact absurd rfl nonempty
        | cons c others => by_cases slash : c = '/' <;> simp [Path.isAbsolute, slash]
    rw [joined, sameStart, Text.pieces_append_cons, Text.pieces_eq_singleton ordinary.no_slash,
      List.foldl_append]
    rcases base_eq with rfl | ⟨rfl, _⟩
    · rw [Text.pieces_append_cons, List.foldl_append]
      simp [Text.pieces, ordinary.descend_eq, Path.descend_of_isVoid, Path.isVoid]
    · simp [ordinary.descend_eq]

theorem prefix_descend (notDots : name ≠ ['.', '.']) (place : Location) :
    place <+: Path.descend place name := by
  rw [Path.descend, if_neg notDots]
  split
  · exact List.prefix_rfl
  · exact List.prefix_append ..

/-- Without `..` names only lead further down. -/
theorem prefix_foldl_descend (noDots : ['.', '.'] ∉ names) (place : Location) :
    place <+: names.foldl Path.descend place := by
  induction names generalizing place with
  | nil => exact List.prefix_rfl
  | cons name others ih =>
      simp only [List.mem_cons, not_or] at noDots
      exact (prefix_descend (Ne.symm noDots.1) place).trans (ih noDots.2 _)

theorem prefix_of_mem_waypoints {way : Location} (noDots : ['.', '.'] ∉ names)
    (mem : way ∈ waypoints place names) : way <+: names.foldl Path.descend place := by
  induction names generalizing place with
  | nil => cases mem
  | cons name others ih =>
      rcases List.mem_cons.mp mem with rfl | later
      · exact prefix_foldl_descend noDots way
      · simp only [List.mem_cons, not_or] at noDots
        exact ih noDots.2 later

/-- A path without `..` leads to whatever stands at its destination. -/
theorem locate_join {base : Text} (isTree : tree.IsTree) (ordinary : Path.IsOrdinary name)
    (fits : Fits (Path.join base name)) (noDots : ['.', '.'] ∉ Text.pieces '/' base)
    (held : (tree.node? (destination current (Path.join base name))).isSome = true) :
    tree.locate current (Path.join base name) =
      .ok (destination current (Path.join base name)) := by
  rcases ordinary.exists_pieces_join base with ⟨names, cut, within⟩
  have namesNoDots : ['.', '.'] ∉ names := fun mem => noDots (within _ mem)
  apply locate_of_waypoints fits
  rw [destination] at held
  generalize (if Path.isAbsolute (Path.join base name) then [] else current) = start at held ⊢
  rw [cut, List.foldl_append, List.foldl_cons, List.foldl_nil, ordinary.descend_eq] at held
  intro way mem
  have above : way <+: names.foldl Path.descend start := by
    rw [cut, waypoints_append, List.mem_append] at mem
    rcases mem with mem | mem
    · exact prefix_of_mem_waypoints namesNoDots mem
    · exact List.mem_singleton.mp mem ▸ List.prefix_rfl
  rcases above with ⟨between, reached⟩
  rw [← reached, List.append_assoc] at held
  exact isTree.directory_of_isSome (by simp) held

/-- What is found at a path stands at its destination, unless it is the current directory. -/
theorem find_eq_ok (found : tree.find current path = .ok (location, node)) :
    location = destination current path ∧
      (node = .directory ∨ tree.node? location = some node) := by
  rcases bind_eq_ok_iff.mp found with ⟨place, located, rest⟩
  have reached := (locate_eq_ok located).2
  split at rest
  · cases rest
    exact ⟨reached, Or.inl rfl⟩
  · split at rest
    · next held =>
        cases rest
        exact ⟨reached, Or.inr held⟩
    · cases rest

theorem find_of_locate (located : tree.locate current path = .ok location)
    (named : ∃ piece ∈ Text.pieces '/' path, Path.isVoid piece = false)
    (held : tree.node? location = some node) : tree.find current path = .ok (location, node) := by
  have notAll : (Text.pieces '/' path).all Path.isVoid = false := by
    rcases named with ⟨piece, mem, notVoid⟩
    exact List.all_eq_false.mpr ⟨piece, mem, by simp [notVoid]⟩
  simp [find, located, notAll, held, bind, Except.bind, pure, Except.pure]

theorem read_eq_ok (read : tree.read current path = .ok content) :
    ∃ executable, tree.node? (destination current path) = some (.file content executable) := by
  rcases bind_eq_ok_iff.mp read with ⟨⟨location, node⟩, found, rest⟩
  cases node with
  | directory => cases rest
  | file held executable =>
      cases rest
      rcases find_eq_ok found with ⟨rfl, isDirectory | stands⟩
      · cases isDirectory
      · exact ⟨executable, stands⟩

theorem read_of_locate (located : tree.locate current path = .ok location)
    (named : ∃ piece ∈ Text.pieces '/' path, Path.isVoid piece = false) {executable : Bool}
    (held : tree.node? location = some (.file content executable)) :
    tree.read current path = .ok content :=
  bind_eq_ok_iff.mpr ⟨_, find_of_locate located named held, rfl⟩

end ProjectTags.FileTree
