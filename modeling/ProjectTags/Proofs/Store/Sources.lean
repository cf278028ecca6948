import ProjectTags.Proofs.Registry.Reading
import ProjectTags.Proofs.Root.Memory
import ProjectTags.Store

/-!
# Which databases a query goes to

A query for the tags of files goes to one database, every other query to that of the project and
those of all its libraries. The two read the same registry in different ways: one stops at the
first library that fits, the other lists them all. Both come out the same way, and neither has an
effect on the other, although each of them may change what the resolver remembers.
-/

namespace ProjectTags

namespace Store

variable {store : Store} {present : Text → Bool} {machine : Machine} {current file : Text}
  {query tags pattern : Query} {names : List Text} {sidecar : Option Bytes}

/-- The project of a file, as the store resolves it. -/
def primaryOf (store : Store) (present : Text → Bool) (current file : Text) : Target :=
  let resolved := (store.resolve present current file).value.1
  ⟨resolved.root, resolved.database⟩

/-- The databases to which a query is put. -/
def sourcesOf (store : Store) (present : Text → Bool) (machine : Machine) (current file : Text)
    (query : Query) : Except Failure (List Query.Source) :=
  (store.querySources present machine current file query).value.1.1

def afterQuery (store : Store) (present : Text → Bool) (machine : Machine) (current file : Text)
    (query : Query) : Store :=
  (store.querySources present machine current file query).value.2

/-- The project if a path begins with its root, else the first of some libraries for which this is
so, else the project. -/
def covering (primary : Target) (libraries : List Target) (path : Text) : Target :=
  if Path.hasTextPrefix path primary.root then primary
  else (libraries.find? fun library => Path.hasTextPrefix path library.root).getD primary

theorem covering_cases (primary : Target) (libraries : List Target) (path : Text) :
    covering primary libraries path = primary ∨ covering primary libraries path ∈ libraries := by
  unfold covering
  split
  · exact Or.inl rfl
  · cases found : libraries.find? fun library => Path.hasTextPrefix path library.root with
    | none => exact Or.inl rfl
    | some library => exact Or.inr (List.mem_of_find?_eq_some found)

/-! ## One query -/

theorem rules_resolve (store : Store) (present : Text → Bool) (current file : Text) :
    (store.resolve present current file).value.2.resolver.rules = store.resolver.rules :=
  Root.Resolver.rules_after store.resolver ⟨.project, present, current, file⟩

theorem across_congr {resolver other : Root.Resolver} (same : resolver.rules = other.rules)
    (machine : Machine) (current file : Text) :
    resolver.across machine current file = other.across machine current file := by
  funext primary
  simp only [Root.Resolver.across, Root.Resolver.absolute, Root.Resolver.base, same]
  rfl

theorem afterQuery_eq (store : Store) (present : Text → Bool) (machine : Machine)
    (current file : Text) (query : Query) :
    store.afterQuery present machine current file query =
      { store with resolver := (store.resolver.resolve present current file).value.2 } := by
  simp only [afterQuery, querySources, resolve, Probed.value_bind]
  split <;> rfl

theorem sourcesOf_fileTags (asked : query.mode = .fileTags names) :
    store.sourcesOf present machine current file query =
      (store.resolver.across machine current file
        (store.primaryOf present current file)).1.map fun target => [⟨target, false⟩] := by
  have sameAcross := across_congr (rules_resolve store present current file) machine current file
  rw [← sameAcross]
  simp only [sourcesOf, querySources, asked, Probed.value_bind]
  rfl

theorem sourcesOf_pattern (asked : ∀ names, query.mode ≠ .fileTags names) :
    store.sourcesOf present machine current file query =
      (Registry.validEntries machine (store.primaryOf present current file).database).1.map
        fun libraries => ⟨store.primaryOf present current file, false⟩ ::
          libraries.map fun library => ⟨library, true⟩ := by
  simp only [sourcesOf, querySources, Probed.value_bind]
  rfl

/-- A query has no effect on where the next one goes. -/
theorem sourcesOf_afterQuery (store : Store) (present : Text → Bool) (machine : Machine)
    (current file : Text) (first second : Query) :
    (store.afterQuery present machine current file first).sourcesOf present machine current file
        second =
      store.sourcesOf present machine current file second := by
  have sameRules : (store.afterQuery present machine current file first).resolver.rules =
      store.resolver.rules := by
    rw [afterQuery_eq]
    exact rules_resolve store present current file
  have sameProject : (store.afterQuery present machine current file first).primaryOf present
      current file = store.primaryOf present current file := by
    simp only [primaryOf, afterQuery_eq, resolve, Probed.value_bind, Probed.value_pure,
      Root.Resolver.value_resolve_again]
  by_cases asked : ∃ names, second.mode = .fileTags names
  · rcases asked with ⟨names, asked⟩
    rw [sourcesOf_fileTags asked, sourcesOf_fileTags asked, sameProject, across_congr sameRules]
  · have other := not_exists.mp asked
    rw [sourcesOf_pattern other, sourcesOf_pattern other, sameProject]

/-! ## Both queries -/

/-- The one database of a query for tags is that of the project or one of those to which any other
query from the same file goes: the first in their order that covers the file, with the project
before the libraries. Neither query changes where the other one goes. -/
theorem queries_agree (store : Store) (present : Text → Bool) (machine : Machine)
    (current file : Text) (sidecar : Option Bytes) (asksTags : tags.mode = .fileTags names)
    (asksPattern : ∀ names, pattern.mode ≠ .fileTags names)
    (readable : machine.files.read machine.current
        (Registry.path (store.primaryOf present current file).database) =
      sidecar.elim (.error .notFound) .ok) :
    let primary := store.primaryOf present current file
    let libraries := Registry.entriesIn primary.database sidecar
    let target := covering primary libraries (store.resolver.absolute current file)
    store.sourcesOf present machine current file tags = .ok [⟨target, false⟩] ∧
      (Registry.validEntries machine primary.database).1 = .ok libraries ∧
      store.sourcesOf present machine current file pattern =
        .ok (⟨primary, false⟩ :: libraries.map fun library => ⟨library, true⟩) ∧
      (target = primary ∨ target ∈ libraries) ∧
      (store.afterQuery present machine current file tags).sourcesOf present machine current file
          pattern = store.sourcesOf present machine current file pattern ∧
      (store.afterQuery present machine current file pattern).sourcesOf present machine current
          file tags = store.sourcesOf present machine current file tags := by
  intro primary libraries target
  have listed : (Registry.validEntries machine primary.database).1 = .ok libraries :=
    Registry.fst_validEntries readable
  have covered : (store.resolver.across machine current file primary).1 = .ok target := by
    simp only [Root.Resolver.across, target, covering]
    split
    · rfl
    · rw [Registry.fst_firstMatch readable]
      rfl
  refine ⟨?_, listed, ?_, covering_cases _ _ _, sourcesOf_afterQuery .., sourcesOf_afterQuery ..⟩
  · rw [sourcesOf_fileTags asksTags, covered]
    rfl
  · rw [sourcesOf_pattern asksPattern, listed]
    rfl

/-- A file below the library `/l` of the project `/p`, whose registry has a line that is no entry
before that of the library. -/
theorem queries_agree_below_library :
    let rules : Root.Rules := ⟨[['m']], ['/', 'd'], some ['/', 'p']⟩
    let store := ofRules rules ⟨.default, [], ['g']⟩
    let library : Target := ⟨['/', 'l'], ['/', 'd', '/', '%', 'l']⟩
    let registry : Bytes := Utf8.encode ['x', '\n'] ++ Registry.render [library]
    let machine : Machine := ⟨⟨[([['p']], .directory), ([['p'], ['m']], .directory),
      ([['l']], .directory), ([['d']], .directory), ([['d'], ['%', 'p']], .directory),
      ([['d'], ['%', 'p'], Registry.fileName], .file registry false)]⟩, [], []⟩
    let tags : Query := ⟨['g'], none, [], .fileTags [],
      ⟨none, none, false, false, false⟩⟩
    let pattern : Query := { tags with mode := .symbol ['s'] }
    let file : Text := ['/', 'l', '/', 'x']
    store.sourcesOf machine.holds machine ['/'] file tags = .ok [⟨library, false⟩] ∧
      store.sourcesOf machine.holds machine ['/'] file pattern =
        .ok [⟨⟨['/', 'p'], ['/', 'd', '/', '%', 'p']⟩, false⟩, ⟨library, true⟩] := by
  intro rules store library registry machine tags pattern file
  have readable : machine.files.read machine.current
      (Registry.path (store.primaryOf machine.holds ['/'] file).database) = .ok registry := by
    decide +kernel
  have asksTags : tags.mode = .fileTags [] := rfl
  have asksPattern : ∀ names, pattern.mode ≠ .fileTags names := by simp [pattern]
  rcases queries_agree store machine.holds machine ['/'] file (some registry) asksTags asksPattern
    readable with ⟨single, _, all, _⟩
  exact ⟨single.trans (by decide +kernel), all.trans (by decide +kernel)⟩

end Store

end ProjectTags
