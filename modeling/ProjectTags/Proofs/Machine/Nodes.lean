import ProjectTags.Machine.FileTree

/-!
# What stands where

What the changes of a file tree do to each location: putting something changes that location
alone, taking a directory away or clearing it changes what is at or below it. A tree in which
everything stands in a directory stays one under all of them.
-/

namespace ProjectTags.FileTree

variable {tree : FileTree} {location directory : Location} {node : Node}

@[simp]
theorem node?_nil (tree : FileTree) : tree.node? [] = some .directory := by
  simp [node?]

theorem node?_of_ne_nil (below : location ≠ []) :
    tree.node? location = tree.entries.lookup location := by
  simp [node?, below]

theorem lookup_filter_key (keep : Location → Bool) (entries : List (Location × Node))
    (location : Location) :
    (entries.filter fun entry => keep entry.1).lookup location =
      if keep location then entries.lookup location else none := by
  induction entries with
  | nil => simp
  | cons entry others ih =>
      rcases entry with ⟨place, node⟩
      by_cases here : location = place
      · subst here
        by_cases kept : keep location = true <;> simp [kept, ih]
      · by_cases kept : keep place = true <;> simp [kept, ih, List.lookup_cons, beq_false_of_ne here]

theorem lookup_map_replace (entries : List (Location × Node)) (location other : Location)
    (node : Node) :
    (entries.map fun entry => if entry.1 = location then (location, node) else entry).lookup other =
      if other = location then (entries.lookup other).map fun _ => node
      else entries.lookup other := by
  induction entries with
  | nil => simp
  | cons entry others ih =>
      rcases entry with ⟨place, old⟩
      rw [List.map_cons]
      by_cases same : place = location
      · subst same
        by_cases here : other = place
        · subst here
          simp
        · simp [List.lookup_cons, beq_false_of_ne here, ih, here]
      · by_cases here : other = place
        · subst here
          simp [same]
        · simp [same, List.lookup_cons, beq_false_of_ne here, ih]

theorem lookup_isSome_iff {entries : List (Location × Node)} :
    (entries.lookup location).isSome = true ↔ entries.any (·.1 = location) = true := by
  induction entries with
  | nil => simp
  | cons entry others ih =>
      rcases entry with ⟨place, node⟩
      by_cases here : location = place
      · subst here
        simp
      · rw [List.lookup_cons, beq_false_of_ne here, List.any_cons, Bool.or_eq_true, ih]
        simp [Ne.symm here]

/-- Putting something at a location changes what stands there and nothing else. -/
theorem node?_put (below : location ≠ []) (tree : FileTree) (node : Node) (other : Location) :
    (tree.put location node).node? other =
      if other = location then some node else tree.node? other := by
  by_cases root : other = []
  · subst root
    simp [Ne.symm below]
  · rw [node?_of_ne_nil root, node?_of_ne_nil root, put]
    by_cases held : tree.entries.any (·.1 = location) = true
    · rw [if_pos held, lookup_map_replace]
      by_cases here : other = location
      · subst here
        rcases Option.isSome_iff_exists.mp (lookup_isSome_iff.mpr held) with ⟨old, found⟩
        simp [found]
      · simp [here]
    · rw [if_neg held, List.lookup_append]
      by_cases here : other = location
      · subst here
        have absent : tree.entries.lookup other = none := by
          rw [← Option.not_isSome_iff_eq_none, lookup_isSome_iff]
          exact held
        simp [absent]
      · simp [List.lookup_cons, beq_false_of_ne here, here]

/-- Nothing is left at a location that was taken away, nor below it. -/
theorem node?_prune (root : location ≠ []) (tree : FileTree) (directory : Location) :
    (tree.prune directory).node? location =
      if directory <+: location then none else tree.node? location := by
  rw [node?_of_ne_nil root, node?_of_ne_nil root, prune,
    lookup_filter_key fun place => !directory.isPrefixOf place]
  by_cases within : directory <+: location
  · rw [if_pos within, List.isPrefixOf_iff_prefix.mpr within]
    rfl
  · rw [if_neg within, if_pos]
    rw [← List.isPrefixOf_iff_prefix, Bool.not_eq_true] at within
    rw [within]
    rfl

/-- Nothing is left below a location that was cleared. -/
theorem node?_clear (root : location ≠ []) (tree : FileTree) (directory : Location) :
    (tree.clear directory).node? location =
      if directory <+: location ∧ location ≠ directory then none else tree.node? location := by
  rw [node?_of_ne_nil root, node?_of_ne_nil root, clear,
    lookup_filter_key fun place => !(directory.isPrefixOf place && place != directory)]
  by_cases below : directory <+: location ∧ location ≠ directory
  · rw [if_pos below, List.isPrefixOf_iff_prefix.mpr below.1, bne_iff_ne.mpr below.2]
    rfl
  · rw [if_neg below, if_pos]
    rw [← List.isPrefixOf_iff_prefix, ← bne_iff_ne, ← Bool.and_eq_true] at below
    simpa only [Bool.not_eq_true', Bool.not_eq_true] using below

/-! ## Trees in which everything stands in a directory -/

/-- Whatever stands somewhere stands in a directory. -/
def IsTree (tree : FileTree) : Prop :=
  ∀ directory name, (tree.node? (directory ++ [name])).isSome = true →
    tree.node? directory = some .directory

/-- Every place above something is a directory. -/
theorem IsTree.directory_of_isSome (isTree : tree.IsTree) {below : Location} (proper : below ≠ [])
    (present : (tree.node? (directory ++ below)).isSome = true) :
    tree.node? directory = some .directory := by
  induction below generalizing directory with
  | nil => exact absurd rfl proper
  | cons name others ih =>
      by_cases last : others = []
      · subst last
        exact isTree directory name present
      · have above : tree.node? (directory ++ [name]) = some .directory :=
          ih last (by simpa using present)
        exact isTree directory name (by simp [above])

theorem IsTree.put (isTree : tree.IsTree) {name : Text}
    (held : tree.node? directory = some .directory)
    (kept : tree.node? (directory ++ [name]) = some .directory → node = .directory) :
    (tree.put (directory ++ [name]) node).IsTree := by
  have below : directory ++ [name] ≠ [] := by simp
  intro place last present
  rw [node?_put below] at present ⊢
  have above : tree.node? place = some .directory := by
    split at present
    · next same =>
        rcases List.append_inj' same rfl with ⟨rfl, _⟩
        exact held
    · exact isTree place last present
  split
  · next here =>
      rw [here] at above
      rw [kept above]
  · exact above

theorem IsTree.prune (isTree : tree.IsTree) (location : Location) : (tree.prune location).IsTree := by
  intro place last present
  rw [node?_prune (by simp)] at present
  split at present
  · simp at present
  · next outside =>
      by_cases root : place = []
      · simp [root]
      · have above := isTree place last present
        rw [node?_prune root, if_neg, above]
        exact fun within => outside (within.trans (List.prefix_append ..))

theorem IsTree.clear (isTree : tree.IsTree) (location : Location) : (tree.clear location).IsTree := by
  intro place last present
  rw [node?_clear (by simp)] at present
  split at present
  · simp at present
  · next outside =>
      by_cases root : place = []
      · simp [root]
      · have above := isTree place last present
        rw [node?_clear root, if_neg, above]
        rintro ⟨within, _⟩
        refine outside ⟨within.trans (List.prefix_append ..), ?_⟩
        intro same
        have shorter := within.length_le
        rw [← same, List.length_append, List.length_singleton] at shorter
        omega

end ProjectTags.FileTree
