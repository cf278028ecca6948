import ProjectTags.Proofs.Machine.Lookup

/-!
# What operations on files change

Making directories changes nothing that is there; writing a file changes that file; removing a
directory changes what is at or below it. All of them leave a tree in which everything stands in a
directory.

What changes is told by `ChangesWithin`: outside of some places nothing changes, but that
directories may be made at some others. It goes over from one operation to several.
-/

namespace ProjectTags.FileTree

variable {tree before middle after made written : FileTree} {current location : Location}
  {inside inside' makes makes' : Location → Prop} {path : Text} {content : Bytes} {fault : Fault}

/-- Outside of some places nothing changes, but that directories are made where nothing was, at
some others. -/
def ChangesWithin (inside makes : Location → Prop) (before after : FileTree) : Prop :=
  ∀ location, ¬inside location →
    after.node? location = before.node? location ∨
      (makes location ∧ before.node? location = none ∧ after.node? location = some .directory)

theorem ChangesWithin.refl (tree : FileTree) : ChangesWithin inside makes tree tree :=
  fun _ _ => Or.inl rfl

theorem ChangesWithin.trans (first : ChangesWithin inside makes before middle)
    (second : ChangesWithin inside makes middle after) :
    ChangesWithin inside makes before after := by
  intro location outside
  rcases first location outside with same | ⟨allowed, absent, there⟩
  · rcases second location outside with again | ⟨allowed, absent, there⟩
    · exact Or.inl (again.trans same)
    · exact Or.inr ⟨allowed, same ▸ absent, there⟩
  · rcases second location outside with again | ⟨_, absent, _⟩
    · exact Or.inr ⟨allowed, absent, again.trans there⟩
    · rw [there] at absent
      cases absent

theorem ChangesWithin.mono (changes : ChangesWithin inside makes before after)
    (wider : ∀ location, inside location → inside' location)
    (more : ∀ location, makes location → makes' location) :
    ChangesWithin inside' makes' before after := by
  intro location outside
  rcases changes location fun within => outside (wider location within) with
    same | ⟨allowed, absent, there⟩
  · exact Or.inl same
  · exact Or.inr ⟨more location allowed, absent, there⟩

/-! ## Slashes at the end of a path -/

theorem foldl_descend_slashes {slashes : Text} (all : ∀ c ∈ slashes, c = '/') (place : Location) :
    (Text.pieces '/' slashes).foldl Path.descend place = place := by
  induction slashes with
  | nil => simp [Text.pieces, Path.descend_of_isVoid, Path.isVoid]
  | cons c others ih =>
      rw [all c (List.mem_cons_self ..)]
      have rest := ih fun d mem => all d (List.mem_cons_of_mem _ mem)
      simpa [Text.pieces, Path.descend_of_isVoid, Path.isVoid] using rest

theorem destination_append_slashes {slashes : Text} (all : ∀ c ∈ slashes, c = '/')
    (nonempty : path ≠ []) : destination current (path ++ slashes) = destination current path := by
  cases slashes with
  | nil => rw [List.append_nil]
  | cons c others =>
      rw [all c (List.mem_cons_self ..), destination, destination, Text.pieces_append_cons,
        List.foldl_append, foldl_descend_slashes fun d mem => all d (List.mem_cons_of_mem _ mem)]
      cases path with
      | nil => exact absurd rfl nonempty
      | cons d rest => by_cases slash : d = '/' <;> simp [Path.isAbsolute, slash]

theorem withoutEndSlashes_cases (path : Text) :
    withoutEndSlashes path = path ∨
      ∃ slashes, (∀ c ∈ slashes, c = '/') ∧ withoutEndSlashes path ≠ [] ∧
        path = withoutEndSlashes path ++ slashes := by
  unfold withoutEndSlashes
  split
  · exact Or.inl rfl
  · next rest nonempty =>
      right
      refine ⟨(path.reverse.takeWhile (· = '/')).reverse, ?_, nonempty, ?_⟩
      · intro c mem
        have slash := List.all_eq_true.mp List.all_takeWhile c (List.mem_reverse.mp mem)
        simpa using slash
      · rw [Text.dropWhileEnd, ← List.reverse_append, List.takeWhile_append_dropWhile,
          List.reverse_reverse]

@[simp]
theorem destination_withoutEndSlashes (current : Location) (path : Text) :
    destination current (withoutEndSlashes path) = destination current path := by
  rcases withoutEndSlashes_cases path with same | ⟨slashes, all, nonempty, split⟩
  · rw [same]
  · calc destination current (withoutEndSlashes path)
        = destination current (withoutEndSlashes path ++ slashes) :=
          (destination_append_slashes all nonempty).symm
      _ = destination current path := by rw [← split]

theorem withoutEndSlashes_eq (opened : path.getLast? ≠ some '/') : withoutEndSlashes path = path := by
  rcases withoutEndSlashes_cases path with same | ⟨slashes, all, _, split⟩
  · exact same
  · rcases List.eq_nil_or_concat slashes with rfl | ⟨others, last, rfl⟩
    · rw [List.append_nil] at split
      exact split.symm
    · rw [List.concat_eq_append] at split all
      have slash : last = '/' := all last (by simp)
      rw [split, slash, ← List.append_assoc] at opened
      exact absurd List.getLast?_concat opened

theorem lastName_mem (path : Text) : lastName path ∈ Text.pieces '/' (withoutEndSlashes path) := by
  have nonempty := Text.pieces_ne_nil '/' (withoutEndSlashes path)
  rw [lastName, List.getLastD_eq_getLast?, List.getLast?_eq_some_getLast nonempty,
    Option.getD_some]
  exact List.getLast_mem nonempty

/-- Something new is made by its name in a directory. -/
theorem exists_slot (located : tree.locate current (withoutEndSlashes path) = .ok location)
    (named : endsInName path = true) :
    ∃ directory name, location = directory ++ [name] ∧
      tree.node? directory = some .directory := by
  rcases locate_eq_ok located with ⟨fits, reached⟩
  have nonempty := Text.pieces_ne_nil '/' (withoutEndSlashes path)
  rcases List.eq_nil_or_concat (Text.pieces '/' (withoutEndSlashes path)) with
    none_ | ⟨names, name, cut⟩
  · exact absurd none_ nonempty
  · rw [List.concat_eq_append] at cut
    have last : lastName path = name := by
      rw [lastName, cut]
      simp
    have ordinary : Path.IsOrdinary name := by
      have noSlash : '/' ∉ name := last ▸ Text.not_mem_of_mem_pieces (lastName_mem path)
      simp only [endsInName, last, Path.isVoid, Bool.and_eq_true, Bool.not_eq_true',
        Bool.or_eq_false_iff, decide_eq_false_iff_not, bne_iff_ne] at named
      exact ⟨named.1.1, named.1.2, named.2, noSlash⟩
    rw [destination, cut, List.foldl_append, List.foldl_cons, List.foldl_nil,
      ordinary.descend_eq] at reached
    refine ⟨_, name, reached, ?_⟩
    rw [locate_of_fits fits, cut] at located
    split at located
    · next rooted =>
        rw [if_pos rooted]
        apply (foldlM_enter_eq_ok_iff.mp located).1
        rw [waypoints_append]
        simp [waypoints]
    · next relative =>
        rw [if_neg relative]
        exact directory_of_depart_append ordinary located

/-! ## Making directories -/

theorem makeDirectory_eq_ok (success : tree.makeDirectory current path = .ok made) :
    ∃ directory name, destination current path = directory ++ [name] ∧
      tree.node? directory = some .directory ∧ tree.node? (directory ++ [name]) = none ∧
        made = tree.put (directory ++ [name]) .directory := by
  rcases bind_eq_ok_iff.mp success with ⟨location, located, rest⟩
  split at rest
  · cases rest
  · next free =>
      simp only [Bool.or_eq_true, Bool.not_eq_true', not_or, Bool.not_eq_false,
        Bool.not_eq_true, Option.isSome_eq_false_iff, Option.isNone_iff_eq_none] at free
      rcases exists_slot located free.1 with ⟨directory, name, rfl, held⟩
      have reached := (locate_eq_ok located).2
      rw [destination_withoutEndSlashes] at reached
      cases rest
      exact ⟨directory, name, reached.symm, held, free.2, rfl⟩

/-- Whether a place is that of a path or of one above it. -/
def LeadsAbove (current : Location) (path : Text) (location : Location) : Prop :=
  ∃ above, (above = path ∨ Path.IsAbove path above) ∧ location = destination current above

theorem ChangesWithin.of_makeDirectory (success : tree.makeDirectory current path = .ok made) :
    ChangesWithin (fun _ => False) (LeadsAbove current path) tree made := by
  rcases makeDirectory_eq_ok success with ⟨directory, name, reached, _, absent, rfl⟩
  intro location _
  rw [node?_put (by simp)]
  split
  · next here =>
      subst here
      exact Or.inr ⟨⟨path, Or.inl rfl, reached.symm⟩, absent, rfl⟩
  · exact Or.inl rfl

theorem IsTree.makeDirectory (isTree : tree.IsTree)
    (success : tree.makeDirectory current path = .ok made) : made.IsTree := by
  rcases makeDirectory_eq_ok success with ⟨directory, name, _, held, absent, rfl⟩
  exact isTree.put held fun _ => rfl

/-- What is kept whenever one directory is made is kept when all that are missing are made. -/
theorem makeDirectoriesWithin_induction (Kept : Text → FileTree → FileTree → Prop)
    (refl : ∀ path tree, Kept path tree tree)
    (step : ∀ path tree made, tree.makeDirectory current path = .ok made → Kept path tree made)
    (further : ∀ path above before middle after, Path.parent? path = some above →
      Kept above before middle → Kept path middle after → Kept path before after)
    (levels : Nat) (path : Text) (tree : FileTree) :
    Kept path tree (makeDirectoriesWithin current levels path tree).1 := by
  induction levels generalizing path tree with
  | zero => exact refl path tree
  | succ levels ih =>
      unfold makeDirectoriesWithin
      split
      · exact refl path tree
      · split
        · next made success => exact step path tree made success
        · -- What is above is made first, and then the path is tried once more.
          next above _ parent =>
            have prepared := ih above tree
            split
            · next reached fault stopped =>
                rw [stopped] at prepared
                exact further path above tree reached reached parent prepared (refl path reached)
            · next reached finished =>
                rw [finished] at prepared
                split
                · next made success =>
                    exact further path above tree reached made parent prepared
                      (step path reached made success)
                · exact further path above tree reached reached parent prepared (refl path reached)
        · exact refl path tree

theorem ChangesWithin.makeDirectories (tree : FileTree) (current : Location) (path : Text) :
    ChangesWithin (fun _ => False) (LeadsAbove current path) tree
      (tree.makeDirectories current path).1 := by
  refine makeDirectoriesWithin_induction
    (fun path => ChangesWithin (fun _ => False) (LeadsAbove current path)) ?_ ?_ ?_ _ path tree
  · exact fun path tree => .refl tree
  · exact fun path tree made success => .of_makeDirectory success
  · intro path between before middle after parent first second
    refine (first.mono (fun _ within => within) ?_).trans second
    rintro location ⟨above, at_or_above, reached⟩
    refine ⟨above, Or.inr ?_, reached⟩
    rcases at_or_above with rfl | higher
    · exact .parent parent
    · exact .of_parent parent higher

theorem IsTree.makeDirectories (isTree : tree.IsTree) (current : Location) (path : Text) :
    (tree.makeDirectories current path).1.IsTree := by
  refine makeDirectoriesWithin_induction
    (fun _ before after => before.IsTree → after.IsTree) ?_ ?_ ?_ _ path tree isTree
  · exact fun _ _ kept => kept
  · exact fun _ _ _ success kept => kept.makeDirectory success
  · exact fun _ _ _ _ _ _ first second kept => second (first kept)

/-! ## Writing files -/

theorem write_eq_ok (success : tree.write current path content = .ok written) :
    ∃ directory name executable, tree.locate current path = .ok (directory ++ [name]) ∧
      (∃ piece ∈ Text.pieces '/' path, Path.isVoid piece = false) ∧
        tree.node? directory = some .directory ∧
          tree.node? (directory ++ [name]) ≠ some .directory ∧
            written = tree.put (directory ++ [name]) (.file content executable) := by
  rcases bind_eq_ok_iff.mp success with ⟨location, located, rest⟩
  simp only at rest
  split at rest
  · cases rest
  · next named =>
      simp only [Bool.not_eq_true', Bool.not_eq_false] at named
      rcases exists_slot located named with ⟨directory, name, rfl, held⟩
      -- A path with a slash at its end is never written.
      have opened : path.getLast? ≠ some '/' := by
        intro slash
        simp only [slash, if_true] at rest
        split at rest <;> cases rest
      have notVoid : ∃ piece ∈ Text.pieces '/' path, Path.isVoid piece = false := by
        have mem := lastName_mem path
        rw [withoutEndSlashes_eq opened] at mem
        simp only [endsInName, Bool.and_eq_true, Bool.not_eq_true'] at named
        exact ⟨lastName path, mem, named.1⟩
      rw [withoutEndSlashes_eq opened] at located
      simp only [opened, if_false] at rest
      split at rest
      · cases rest
      · next old executable file =>
          cases rest
          exact ⟨directory, name, executable, located, notVoid, held, by simp [file], rfl⟩
      · next absent =>
          cases rest
          exact ⟨directory, name, false, located, notVoid, held, by simp [absent], rfl⟩

theorem ChangesWithin.write (success : tree.write current path content = .ok written) :
    ChangesWithin (· = destination current path) (fun _ => False) tree written := by
  rcases write_eq_ok success with ⟨directory, name, executable, located, _, _, _, rfl⟩
  intro location outside
  rw [node?_put (by simp), if_neg]
  · exact Or.inl rfl
  · rwa [(locate_eq_ok located).2]

theorem IsTree.write (isTree : tree.IsTree)
    (success : tree.write current path content = .ok written) : written.IsTree := by
  rcases write_eq_ok success with ⟨directory, name, executable, _, _, held, notDirectory, rfl⟩
  exact isTree.put held fun directory => absurd directory notDirectory

theorem directory_of_write (success : tree.write current path content = .ok written)
    (held : tree.node? location = some .directory) :
    written.node? location = some .directory := by
  rcases write_eq_ok success with ⟨directory, name, executable, _, _, _, notDirectory, rfl⟩
  rw [node?_put (by simp), if_neg, held]
  rintro rfl
  exact notDirectory held

theorem read_write (success : tree.write current path content = .ok written) :
    written.read current path = .ok content := by
  have directories : ∀ place, tree.node? place = some .directory →
      written.node? place = some .directory := fun _ => directory_of_write success
  rcases write_eq_ok success with ⟨directory, name, executable, located, named, _, _, rfl⟩
  apply read_of_locate (locate_mono directories located) named
  rw [node?_put (by simp), if_pos rfl]

/-! ## Removing directories -/

theorem removeEmpty_eq_ok (success : tree.removeEmpty current path = .ok after) :
    after = tree.prune (destination current path) := by
  rcases bind_eq_ok_iff.mp success with ⟨location, located, rest⟩
  have reached := (locate_eq_ok located).2
  rw [destination_withoutEndSlashes] at reached
  subst reached
  simp only at rest
  split at rest
  · cases rest
  · split at rest
    · cases rest
    · split at rest
      · cases rest
      · split at rest
        · cases rest
        · cases rest
        · split at rest
          · cases rest
            rfl
          · cases rest

/-- What a removal comes to: nothing, the directory without what was in it, or nothing of it. -/
theorem removeDirectory_cases (tree : FileTree) (current : Location) (path : Text) :
    (∃ fault, tree.removeDirectory current path = (tree, some fault)) ∨
      (∃ fault, tree.removeDirectory current path =
        (tree.clear (destination current path), fault)) ∨
        tree.removeDirectory current path =
          ((tree.clear (destination current path)).prune (destination current path), none) := by
  unfold removeDirectory
  split
  · next fault _ => exact Or.inl ⟨fault, rfl⟩
  · exact Or.inl ⟨_, rfl⟩
  · next location found =>
      right
      have reached := (find_eq_ok found).1
      subst reached
      simp only
      split
      · next removed success =>
          right
          rw [removeEmpty_eq_ok success]
      · exact Or.inl ⟨none, rfl⟩
      · next fault _ _ => exact Or.inl ⟨some fault, rfl⟩

theorem ChangesWithin.clear (tree : FileTree) (directory : Location) :
    ChangesWithin (directory <+: ·) makes tree (tree.clear directory) := by
  intro location outside
  by_cases root : location = []
  · exact Or.inl (by rw [root, node?_nil, node?_nil])
  · rw [node?_clear root, if_neg fun below => outside below.1]
    exact Or.inl rfl

theorem ChangesWithin.prune (tree : FileTree) (directory : Location) :
    ChangesWithin (directory <+: ·) makes tree (tree.prune directory) := by
  intro location outside
  by_cases root : location = []
  · exact Or.inl (by rw [root, node?_nil, node?_nil])
  · rw [node?_prune root, if_neg outside]
    exact Or.inl rfl

theorem ChangesWithin.removeDirectory (tree : FileTree) (current : Location) (path : Text) :
    ChangesWithin (destination current path <+: ·) (fun _ => False) tree
      (tree.removeDirectory current path).1 := by
  rcases removeDirectory_cases tree current path with ⟨fault, removed⟩ | ⟨fault, removed⟩ | removed
  · rw [removed]
    exact .refl tree
  · rw [removed]
    exact .clear tree _
  · rw [removed]
    exact (ChangesWithin.clear tree _).trans (.prune _ _)

theorem IsTree.removeDirectory (isTree : tree.IsTree) (current : Location) (path : Text) :
    (tree.removeDirectory current path).1.IsTree := by
  rcases removeDirectory_cases tree current path with ⟨fault, removed⟩ | ⟨fault, removed⟩ | removed
  · rwa [removed]
  · rw [removed]
    exact isTree.clear _
  · rw [removed]
    exact (isTree.clear _).prune _

/-- After a removal without a fault nothing is left below the directory. -/
theorem node?_removeDirectory (success : (tree.removeDirectory current path).2 = none)
    {below : Location} (proper : below ≠ []) :
    (tree.removeDirectory current path).1.node? (destination current path ++ below) = none := by
  have nonempty : destination current path ++ below ≠ [] := by simp [proper]
  have cleared : (tree.clear (destination current path)).node?
      (destination current path ++ below) = none := by
    rw [node?_clear nonempty, if_pos]
    exact ⟨List.prefix_append .., by simpa using proper⟩
  rcases removeDirectory_cases tree current path with ⟨fault, removed⟩ | ⟨fault, removed⟩ | removed
  · rw [removed] at success
    cases success
  · rw [removed]
    exact cleared
  · rw [removed, node?_prune nonempty, if_pos (List.prefix_append ..)]

end ProjectTags.FileTree
