import ProjectTags.Proofs.Machine.Effects
import ProjectTags.Registry.Entry

/-!
# What writing a registry does to the files

The directory of the database is made first, with those above it, and then the one file is
written. So nothing but that file changes, and directories are made on the way to it.
-/

namespace ProjectTags

namespace FileTree

variable {before middle after : FileTree} {inside makes : Location → Prop} {directory : Location}

/-- The content of the registry in a directory. -/
def registry? (tree : FileTree) (directory : Location) : Option Bytes :=
  match tree.node? (directory ++ [Registry.fileName]) with
  | some (.file content _) => some content
  | _ => none

theorem ChangesWithin.registry?_eq (changes : ChangesWithin inside makes before after)
    (outside : ¬inside (directory ++ [Registry.fileName])) :
    after.registry? directory = before.registry? directory := by
  unfold registry?
  rcases changes _ outside with same | ⟨_, absent, made⟩
  · rw [same]
  · rw [absent, made]

/-- What leaves a tree of files and keeps all registries in it. -/
structure SparesRegistries (before after : FileTree) : Prop where
  isTree : before.IsTree → after.IsTree
  registry : ∀ directory, after.registry? directory = before.registry? directory

theorem SparesRegistries.refl (tree : FileTree) : SparesRegistries tree tree :=
  ⟨id, fun _ => rfl⟩

theorem SparesRegistries.trans (first : SparesRegistries before middle)
    (second : SparesRegistries middle after) : SparesRegistries before after :=
  ⟨fun isTree => second.isTree (first.isTree isTree),
    fun directory => (second.registry directory).trans (first.registry directory)⟩

theorem SparesRegistries.makeDirectories (tree : FileTree) (current : Location) (path : Text) :
    SparesRegistries tree (tree.makeDirectories current path).1 :=
  ⟨fun isTree => isTree.makeDirectories current path, fun _ =>
    (ChangesWithin.makeDirectories tree current path).registry?_eq id⟩

end FileTree

namespace Registry

variable {tree : FileTree} {current : Location} {base name database : Text} {entry : Target}
  {entries written : List Target}

theorem isOrdinary_fileName : Path.IsOrdinary fileName :=
  ⟨by decide, by decide, by decide, by decide⟩

/-- The files once the directory of a registry is made. -/
def prepared (tree : FileTree) (current : Location) (database : Text) : FileTree :=
  (tree.makeDirectories current ((Path.parent? (path database)).getD [])).1

/-- The entries that are written: those whose root is there when they are. -/
def present (tree : FileTree) (current : Location) (database : Text) (entries : List Target) :
    List Target :=
  entries.filter fun entry => (prepared tree current database).holds current entry.root

/-- A registry is written by writing one file once its directory is made. -/
theorem write_eq_ok {written : List Target}
    (wrote : (write tree current database entries).outcome = .ok written) :
    written = present tree current database entries ∧
      (prepared tree current database).write current (path database) (render written) =
        .ok (write tree current database entries).tree := by
  unfold present prepared
  unfold write at wrote ⊢
  simp only at wrote ⊢
  split at wrote
  · cases wrote
  · next files made =>
      simp only [made] at wrote ⊢
      split at wrote
      · next after success =>
          cases wrote
          simp [success]
      · cases wrote

theorem root_ne_nil_of_present (mem : entry ∈ present tree current database entries) :
    entry.root ≠ [] := by
  have there := (List.mem_filter.mp mem).2
  intro empty
  simp [empty, FileTree.holds, FileTree.find, FileTree.locate, bind, Except.bind] at there

/-- Whatever it comes to, a registry is written by making directories, and then by writing a file
or not. -/
theorem write_cases (tree : FileTree) (current : Location) (database : Text)
    (entries : List Target) :
    (write tree current database entries).tree = prepared tree current database ∨
      ∃ content, (prepared tree current database).write current (path database) content =
        .ok (write tree current database entries).tree := by
  unfold prepared write
  simp only
  split
  · next files fault made =>
      simp [made]
  · next files made =>
      simp only [made]
      split
      · next after success => exact Or.inr ⟨_, success⟩
      · exact Or.inl rfl

/-- The directory that is made for the registry of a database is the database. -/
theorem prepared_join (ordinary : Path.IsOrdinary name) (tree : FileTree) (current : Location)
    (base : Text) :
    prepared tree current (Path.join base name) =
      (tree.makeDirectories current (Path.join base name)).1 := by
  rw [prepared, path, Path.parent?_join ordinary isOrdinary_fileName, Option.getD_some]

theorem isTree_write (isTree : tree.IsTree) (current : Location) (database : Text)
    (entries : List Target) : (write tree current database entries).tree.IsTree := by
  have ready : (prepared tree current database).IsTree := isTree.makeDirectories _ _
  rcases write_cases tree current database entries with same | ⟨content, success⟩
  · rwa [same]
  · exact ready.write success

/-- Nothing changes outside of the database, but that it and the directories above it are made. -/
theorem changesWithin_write (ordinary : Path.IsOrdinary name) (tree : FileTree)
    (current : Location) (base : Text) (entries : List Target) :
    FileTree.ChangesWithin (FileTree.destination current (Path.join base name) <+: ·)
      (FileTree.LeadsAbove current (Path.join base name)) tree
      (write tree current (Path.join base name) entries).tree := by
  have ready : FileTree.ChangesWithin (FileTree.destination current (Path.join base name) <+: ·)
      (FileTree.LeadsAbove current (Path.join base name)) tree
      (prepared tree current (Path.join base name)) := by
    rw [prepared_join ordinary]
    have made := FileTree.ChangesWithin.makeDirectories tree current (Path.join base name)
    exact made.mono (fun _ nowhere => nowhere.elim) fun _ above => above
  rcases write_cases tree current (Path.join base name) entries with same | ⟨content, success⟩
  · rwa [same]
  · refine ready.trans ((FileTree.ChangesWithin.write success).mono ?_ fun _ nowhere => nowhere.elim)
    rintro location rfl
    rw [path, FileTree.destination_join isOrdinary_fileName]
    exact List.prefix_append ..

/-- A registry that was written is there with what was written. -/
theorem registry?_write (wrote : (write tree current database entries).outcome = .ok written) :
    FileTree.Fits (path database) ∧
      (write tree current database entries).tree.registry?
        (FileTree.destination current database) = some (render written) := by
  rcases FileTree.write_eq_ok (write_eq_ok wrote).2 with
    ⟨directory, name, executable, located, _, _, _, after⟩
  rcases FileTree.locate_eq_ok located with ⟨fits, reached⟩
  rw [path, FileTree.destination_join isOrdinary_fileName] at reached
  refine ⟨fits, ?_⟩
  rw [FileTree.registry?, after, reached, FileTree.node?_put (by simp), if_pos rfl]

theorem outcome_write_cases (tree : FileTree) (current : Location) (database : Text)
    (entries : List Target) :
    (∃ written, (write tree current database entries).outcome = .ok written) ∨
      ∃ place fault, (write tree current database entries).outcome =
        .error (.fileSystem place fault) := by
  unfold write
  simp only
  split
  · exact Or.inr ⟨_, _, rfl⟩
  · split
    · exact Or.inl ⟨_, rfl⟩
    · exact Or.inr ⟨_, _, rfl⟩

end Registry

end ProjectTags
