import ProjectTags.Proofs.Path.TextPrefix
import ProjectTags.Proofs.Registry.Reading
import ProjectTags.Proofs.Root.Memory

/-!
# Which files a root is taken for

A remembered root and the root of a library are taken for a file if the text of the file's path
begins with theirs, and no file is looked at for that. This never misses a file of the root. It
takes some files that are elsewhere: those of a directory beside the root whose name begins with
that of the root and goes on, as `/project` beside `/proj`.
-/

namespace ProjectTags

variable {path root : Text}

theorem Path.hasTextPrefix_iff_beginsByNames (normal : IsNormal path)
    (rootNormal : IsNormal root) :
    hasTextPrefix path root = true ↔ root = ['/'] ∨ BeginsByNames (names root) (names path) := by
  rcases normal with ⟨names, ordinary, rfl⟩
  rcases rootNormal with ⟨roots, rootOrdinary, rfl⟩
  have top : absolute roots = ['/'] ↔ roots = [] :=
    absolute_injective rootOrdinary (List.forall_mem_nil IsOrdinary)
  rw [hasTextPrefix_absolute_iff ordinary rootOrdinary, names_absolute ordinary,
    names_absolute rootOrdinary, beginsByNames_iff, top]

namespace Registry

variable {machine : Machine} {database : Text} {entries : List Target}

theorem firstMatch_of_validEntries (listed : (validEntries machine database).1 = .ok entries) :
    (firstMatch machine database path).1 =
      .ok (entries.find? fun entry => Path.hasTextPrefix path entry.root) := by
  unfold validEntries at listed
  split at listed
  · cases listed
  · next records found =>
      cases listed
      simp only [firstMatch, found, fst_search]
      rfl

/-- A library is found for every path within one, and the one that is found looks so. -/
theorem exists_firstMatch (normal : Path.IsNormal path)
    (listed : (validEntries machine database).1 = .ok entries) :
    ∃ found, (firstMatch machine database path).1 = .ok found ∧
      (∀ entry ∈ entries, Path.IsNormal entry.root → Path.LooksWithin path entry.root →
        found.isSome) ∧
      ∀ entry, found = some entry →
        entry ∈ entries ∧ (Path.IsNormal entry.root → Path.LooksWithin path entry.root) := by
  refine ⟨_, firstMatch_of_validEntries listed, ?_, ?_⟩
  · intro entry mem rootNormal within
    rw [List.find?_isSome]
    exact ⟨entry, mem, (Path.hasTextPrefix_iff_looksWithin normal rootNormal).mpr within⟩
  · intro entry found
    refine ⟨List.mem_of_find?_eq_some found, fun rootNormal => ?_⟩
    have begins := List.find?_some found
    exact (Path.hasTextPrefix_iff_looksWithin normal rootNormal).mp begins

end Registry

namespace Root

namespace Resolver

/-- What is remembered is in normal form, and is taken for the paths that look to be within. -/
theorem rememberedFor?_iff_looksWithin {rules : Rules} {calls : List Call}
    (normal : Path.IsNormal path)
    (held : ((fresh rules).afterAll calls).remembered = some root) :
    ((fresh rules).afterAll calls).rememberedFor? path = some root ↔
      Path.LooksWithin path root := by
  rcases exists_storedBy held with ⟨_, _, _, nearest⟩
  rw [← Path.hasTextPrefix_iff_looksWithin normal nearest.isNormal]
  simp [rememberedFor?, held]

end Resolver

open Resolver

/-- A path in normal form begins with the text of a root exactly if its names begin with those of
the root, of which the last may be continued; so exactly if it lies within the root or within a
directory beside it with a longer name. A root that is remembered after any calls is taken for just
these paths, and a library is found for each path within one of them and no others. -/
theorem recognises_by_text (normal : Path.IsNormal path) :
    (∀ root, Path.IsNormal root →
      (Path.hasTextPrefix path root = true ↔
        root = ['/'] ∨ Path.BeginsByNames (Path.names root) (Path.names path)) ∧
      (Path.hasTextPrefix path root = true ↔ Path.LooksWithin path root)) ∧
    (∀ (rules : Rules) (calls : List Call) (root : Text),
      ((fresh rules).afterAll calls).remembered = some root →
        (((fresh rules).afterAll calls).rememberedFor? path = some root ↔
          Path.LooksWithin path root)) ∧
    ∀ (machine : Machine) (database : Text) (entries : List Target),
      (Registry.validEntries machine database).1 = .ok entries →
        ∃ found, (Registry.firstMatch machine database path).1 = .ok found ∧
          (∀ entry ∈ entries, Path.IsNormal entry.root → Path.LooksWithin path entry.root →
            found.isSome) ∧
          ∀ entry, found = some entry →
            entry ∈ entries ∧ (Path.IsNormal entry.root → Path.LooksWithin path entry.root) := by
  refine ⟨?_, ?_, ?_⟩
  · intro root rootNormal
    exact ⟨Path.hasTextPrefix_iff_beginsByNames normal rootNormal,
      Path.hasTextPrefix_iff_looksWithin normal rootNormal⟩
  · exact fun _ _ _ held => rememberedFor?_iff_looksWithin normal held
  · exact fun _ _ _ listed => Registry.exists_firstMatch normal listed

/-- The files of `/pq` are taken for those of the root `/p`, be it remembered or a library. -/
theorem recognises_longer_sibling :
    let rules : Rules := ⟨[['m']], ['/', 'd'], some ['/', 'w']⟩
    let calls : List Call :=
      [⟨.project, fun path => path = ['/', 'p', '/', 'm'], ['/'], ['/', 'p', '/', 'x']⟩]
    let path : Text := ['/', 'p', 'q', '/', 'y']
    let library : Target := ⟨['/', 'p'], ['/', 'e']⟩
    let machine := Registry.withRegistry (Registry.render [library])
    Path.IsNormal path ∧
      Path.BeginsByNames (Path.names ['/', 'p']) (Path.names path) ∧
      Path.LooksWithin path ['/', 'p'] ∧
      ((fresh rules).afterAll calls).rememberedFor? path = some ['/', 'p'] ∧
      ∃ found, (Registry.firstMatch machine ['/', 'd'] path).1 = .ok found ∧ found.isSome := by
  intro rules calls path library machine
  have normal : Path.IsNormal path :=
    Path.isNormal_normalize (show Path.isAbsolute path = true from rfl)
  have rootNormal : Path.IsNormal ['/', 'p'] :=
    Path.isNormal_normalize (show Path.isAbsolute ['/', 'p'] = true from rfl)
  have held : ((fresh rules).afterAll calls).remembered = some ['/', 'p'] := by decide
  have listed : (Registry.validEntries machine ['/', 'd']).1 = .ok [library] := by decide +kernel
  rcases recognises_by_text normal with ⟨text, memory, libraries⟩
  rcases text ['/', 'p'] rootNormal with ⟨byNames, bySiblings⟩
  have begins : Path.hasTextPrefix path ['/', 'p'] = true := by decide
  have within := bySiblings.mp begins
  refine ⟨normal, ?_, within, (memory rules calls _ held).mpr within, ?_⟩
  · exact (byNames.mp begins).resolve_left (by decide)
  · rcases libraries machine ['/', 'd'] [library] listed with ⟨found, answered, finds, _⟩
    exact ⟨found, answered, finds library (List.mem_singleton_self _) rootNormal within⟩

end Root

end ProjectTags
