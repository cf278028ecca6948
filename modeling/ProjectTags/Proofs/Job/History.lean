import ProjectTags.Proofs.Job.Records
import ProjectTags.Proofs.Registry.RoundTrip
import ProjectTags.Proofs.Store.Sources

/-!
# Registries after any jobs

Jobs of all kinds come in any order, and other programs change other files between them. As long
as the file system does not fail, the registry of a database holds what the last library build for
it wrote, or is not there since the last removal, and queries go by that.

That a registry is read again depends on the way to it. Without `..` the way goes down through
nothing but the directories above the registry, and those are there if the registry is. With `..`
the way may lead through the database of another root, and ends when that one is removed.
-/

namespace ProjectTags

/-- What was carried out so far, below one directory for all databases, and what has become of the
machine. At first no database has a registry, and the file system never fails. -/
inductive History (executor : Executor) (databases : Text) : List Deed → Site → Prop where
  | start (machine : Machine) (answers : List Bool) (isTree : machine.files.IsTree)
      (bare : ∀ root, Path.isAbsolute root = true →
        machine.files.registry? (FileTree.destination machine.current
          (Database.location databases root)) = none) :
      History executor databases [] (.ofMachine machine answers)
  | carriedOut {deeds : List Deed} {site after : Site} {job : Job} {ending : Ending}
      (history : History executor databases deeds site) (encoded : job.IsEncoded databases)
      (did : executor.carryOut job site = (ending, after)) (untroubled : after.Untroubled) :
      History executor databases (deeds ++ [⟨job, site, ending, after⟩]) after
  /-- Someone else changes files, but no registry. -/
  | meanwhile {deeds : List Deed} {site : Site} (history : History executor databases deeds site)
      (files : FileTree) (spares : site.machine.files.SparesRegistries files) :
      History executor databases deeds (site.withFiles files)

variable {executor : Executor} {databases root database : Text} {deeds : List Deed} {site : Site}
  {machine : Machine} {tree : FileTree} {current : Location} {content : Bytes} {fault : Fault}
  {entries : List Target}

namespace Registry

/-- What queries make of a registry: the libraries that it lists, and the databases to which a
query for a pattern goes. -/
structure Lists (machine : Machine) (database : Text) (entries : List Target) : Prop where
  validEntries : validEntries machine database = (.ok entries, [])
  sources : ∀ (store : Store) (present : Text → Bool) (current file : Text) (query : Query),
    (∀ names, query.mode ≠ .fileTags names) →
      (store.primaryOf present current file).database = database →
        store.sourcesOf present machine current file query =
          .ok (⟨store.primaryOf present current file, false⟩ ::
            entries.map fun library => ⟨library, true⟩)

theorem lists_of_validEntries
    (valid : Registry.validEntries machine database = (.ok entries, [])) :
    Lists machine database entries := by
  refine ⟨valid, ?_⟩
  rintro store present current file query asked rfl
  rw [Store.sourcesOf_pattern asked, valid]
  rfl

/-! ## Reading a registry -/

theorem registry?_of_read (read : tree.read current (path database) = .ok content) :
    tree.registry? (FileTree.destination current database) = some content := by
  rcases FileTree.read_eq_ok read with ⟨executable, stands⟩
  rw [path, FileTree.destination_join isOrdinary_fileName] at stands
  rw [FileTree.registry?, stands]

/-- A registry that is there is read, if no `..` is on the way to it. -/
theorem read_of_registry? (rooted : Path.isAbsolute root = true) (isTree : tree.IsTree)
    (fits : FileTree.Fits (path (Database.location databases root)))
    (noDots : ['.', '.'] ∉ Text.pieces '/' databases)
    (held : tree.registry? (FileTree.destination current (Database.location databases root)) =
      some content) :
    tree.read current (path (Database.location databases root)) = .ok content := by
  have ordinary := Database.isOrdinary_name rooted
  have stands : ∃ executable, tree.node? (FileTree.destination current
      (path (Database.location databases root))) = some (.file content executable) := by
    rw [path, FileTree.destination_join isOrdinary_fileName]
    unfold FileTree.registry? at held
    split at held
    · next file executable node =>
        cases held
        exact ⟨executable, node⟩
    · cases held
  rcases stands with ⟨executable, stands⟩
  have noDotsBelow : ['.', '.'] ∉ Text.pieces '/' (Database.location databases root) := by
    rcases ordinary.exists_pieces_join databases with ⟨names, cut, within⟩
    rw [Database.location, cut, List.mem_append, List.mem_singleton]
    rintro (above | last)
    · exact noDots (within _ above)
    · exact ordinary.ne_dots last.symm
  have located : tree.locate current (path (Database.location databases root)) =
      .ok (FileTree.destination current (path (Database.location databases root))) :=
    FileTree.locate_join isTree isOrdinary_fileName fits noDotsBelow (by rw [← path, stands]; rfl)
  exact FileTree.read_of_locate located (Path.not_isVoid_of_joined isOrdinary_fileName _) stands

/-- Entries that can be stored are listed once their registry is read. -/
theorem lists_of_read
    (read : machine.files.read machine.current (path database) = .ok (render entries))
    (storable : ∀ entry ∈ entries, Storable entry)
    (rooted : ∀ entry ∈ entries, entry.root ≠ []) : Lists machine database entries := by
  apply lists_of_validEntries
  simp only [validEntries, Registry.read, read, parse_render storable rooted, split_map_ok,
    List.map_nil]

theorem lists_of_notFound
    (missing : machine.files.read machine.current (path database) = .error .notFound) :
    Lists machine database [] := by
  apply lists_of_validEntries
  simp only [validEntries, Registry.read, missing]
  rfl

end Registry

/-! ## What a history keeps -/

/-- The registries hold what was recorded. -/
structure Recorded (databases : Text) (deeds : List Deed) (site : Site) : Prop where
  isTree : site.machine.files.IsTree
  registry : ∀ root, Path.isAbsolute root = true →
    site.machine.files.registry?
        (FileTree.destination site.machine.current (Database.location databases root)) =
      (recorded? (Database.location databases root) deeds).map Registry.render
  fits : ∀ root, Path.isAbsolute root = true →
    recorded? (Database.location databases root) deeds ≠ none →
      FileTree.Fits (Registry.path (Database.location databases root))

theorem Recorded.carryOut (spares : executor.SparesRegistries)
    (recorded : Recorded databases deeds site) {job : Job} (encoded : job.IsEncoded databases)
    {ending : Ending} {after : Site} (did : executor.carryOut job site = (ending, after))
    (untroubled : after.Untroubled) :
    Recorded databases (deeds ++ [⟨job, site, ending, after⟩]) after := by
  have same : after = (executor.carryOut job site).2 := by rw [did]
  subst same
  have machine := Executor.machine_carryOut executor job site
  have steady : (executor.carryOut job site).2.machine.current = site.machine.current := by
    rw [machine, Executor.current_execute]
  have each : ∀ root, Path.isAbsolute root = true →
      (executor.execute job site).2.machine.files.registry?
          (FileTree.destination site.machine.current (Database.location databases root)) =
        (recorded? (Database.location databases root)
          (deeds ++ [⟨job, site, ending, (executor.carryOut job site).2⟩])).map Registry.render ∧
      (recorded? (Database.location databases root)
          (deeds ++ [⟨job, site, ending, (executor.carryOut job site).2⟩]) ≠ none →
        FileTree.Fits (Registry.path (Database.location databases root))) := by
    intro root rooted
    rw [recorded?_concat]
    cases decided : Deed.decision? (Database.location databases root)
        ⟨job, site, ending, (executor.carryOut job site).2⟩ with
    | none =>
        rw [Executor.registry?_of_undecided spares encoded rooted decided]
        exact ⟨recorded.registry root rooted, recorded.fits root rooted⟩
    | some record =>
        rcases Executor.registry?_of_decided spares untroubled decided with ⟨fits, held⟩
        exact ⟨held, fits⟩
  refine ⟨?_, ?_, fun root rooted => (each root rooted).2⟩
  · rw [machine]
    exact Executor.isTree_execute spares recorded.isTree job
  · intro root rooted
    rw [steady, machine]
    exact (each root rooted).1

theorem History.recorded (spares : executor.SparesRegistries)
    (history : History executor databases deeds site) : Recorded databases deeds site := by
  induction history with
  | start machine answers isTree bare => exact ⟨isTree, bare, fun _ _ held => absurd rfl held⟩
  | carriedOut _ encoded did untroubled ih => exact ih.carryOut spares encoded did untroubled
  | meanwhile _ files sparing ih =>
      refine ⟨sparing.isTree ih.isTree, ?_, ih.fits⟩
      intro root rooted
      exact (sparing.registry _).trans (ih.registry root rooted)

theorem History.carriesOut {job : Job} (history : History executor databases deeds site)
    (encoded : job.IsEncoded databases)
    (untroubled : (executor.carryOut job site).2.Untroubled) :
    History executor databases
      (deeds ++ [⟨job, site, (executor.carryOut job site).1, (executor.carryOut job site).2⟩])
      (executor.carryOut job site).2 :=
  history.carriedOut encoded rfl untroubled

/-- One node in the root directory, if it has another name, is no registry. -/
theorem History.ofNode (executor : Executor) (databases : Text) {name : Text} (node : Node)
    (answers : List Bool) (other : name ≠ Registry.fileName) :
    History executor databases []
      (.ofMachine ⟨FileTree.empty.put ([] ++ [name]) node, [], []⟩ answers) := by
  have absent : ∀ directory last, FileTree.empty.node? (directory ++ [last]) = none := by
    intro directory last
    simp [FileTree.node?, FileTree.empty]
  have isTree : FileTree.empty.IsTree := by
    intro directory last held
    rw [absent] at held
    cases held
  refine .start _ _ (isTree.put (FileTree.node?_nil _) ?_) fun root _ => ?_
  · rw [absent]
    intro held
    cases held
  · rw [FileTree.registry?, FileTree.node?_put (by simp), if_neg, absent]
    intro same
    exact other (List.cons.inj (List.append_inj' same rfl).2.symm).1

/-- Each library build called the indexer for the libraries that it recorded. -/
theorem History.called (history : History executor databases deeds site) {deed : Deed}
    (mem : deed ∈ deeds) {libraries : List Target} {options : IndexerOptions}
    (builds : deed.job = .libraryBuild database libraries options) :
    deed.after.called = deed.before.called ++
      (Registry.present deed.before.machine.files deed.before.machine.current database
        libraries).map fun library =>
          CommandLine.build executor.indexer library options false := by
  induction history with
  | start => cases mem
  | @carriedOut _ before after job _ _ _ did untroubled ih =>
      rcases List.mem_append.mp mem with earlier | last
      · exact ih earlier
      · have same : after = (executor.carryOut job before).2 := by rw [did]
        subst same
        rw [List.mem_singleton.mp last] at builds ⊢
        simp only at builds ⊢
        subst builds
        exact Executor.called_libraryBuild untroubled
  | meanwhile _ _ _ ih => exact ih mem

/-- After any jobs the registry of a database lists nothing if its libraries were not built since
it was removed, and else those that the last build handed to the indexer: the ones that were there
then, whatever the indexer made of them. A query for a pattern goes to the same. -/
theorem History.lists (spares : executor.SparesRegistries)
    (history : History executor databases deeds site)
    (noDots : ['.', '.'] ∉ Text.pieces '/' databases) (rooted : Path.isAbsolute root = true) :
    let database := Database.location databases root
    (∀ earlier since, deeds = earlier ++ since →
      (∀ deed, earlier.getLast? = some deed → deed.Removes database) →
      (∀ deed ∈ since, ¬deed.Builds database) →
      (∀ fault, site.machine.files.read site.machine.current (Registry.path database) =
        .error fault → fault = .notFound) →
      Registry.Lists site.machine database []) ∧
    ∀ earlier deed since libraries options, deeds = earlier ++ deed :: since →
      deed.job = .libraryBuild database libraries options →
      (∀ other ∈ since, ¬other.Builds database ∧ ¬other.Removes database) →
      let entries := Registry.present deed.before.machine.files deed.before.machine.current
        database libraries
      (∀ entry ∈ entries, Registry.Storable entry) →
      Registry.Lists site.machine database entries ∧
        deed.after.called = deed.before.called ++ entries.map fun library =>
          CommandLine.build executor.indexer library options false := by
  intro database
  have recorded := history.recorded spares
  have held := recorded.registry root rooted
  constructor
  · rintro earlier since rfl removed notBuilt readable
    rw [recorded?_of_removed removed notBuilt] at held
    apply Registry.lists_of_notFound
    cases read : site.machine.files.read site.machine.current (Registry.path database) with
    | ok content =>
        -- What is read would be a registry, but none was recorded.
        rw [Registry.registry?_of_read read] at held
        cases held
    | error fault => rw [readable fault read]
  · rintro earlier deed since libraries options rfl builds kept entries storable
    have record : recorded? database (earlier ++ deed :: since) = some entries :=
      recorded?_of_built builds kept
    rw [record] at held
    have fits := recorded.fits root rooted (by rw [record]; exact Option.some_ne_none _)
    refine ⟨?_, history.called (by simp) builds⟩
    exact Registry.lists_of_read
      (Registry.read_of_registry? rooted recorded.isTree fits noDots held) storable
      fun entry mem => Registry.root_ne_nil_of_present mem

/-- Below `/c/%y/..` the way to every database leads through `/c/%y`, which is that of the root `/y`.
Once that one is removed, the library that was recorded for `/x` is not found. And if the directory
for all databases is a file, nothing is read even before the first job. -/
theorem loses_registry_behind_removed :
    let executor : Executor := ⟨Executor.writingIndex, ['i'], none⟩
    let databases : Text := ['/', 'c', '/', '%', 'y', '/', '.', '.']
    let target := fun root : Text => (⟨root, Database.location databases root⟩ : Target)
    let library := target ['/', 'l']
    executor.SparesRegistries ∧
      (∃ build removal site, History executor databases [build, removal] site ∧
        build.job = .libraryBuild (target ['/', 'x']).database [library] .default ∧
        removal.job = .removal (target ['/', 'y']) ∧
        Registry.present build.before.machine.files build.before.machine.current
          (target ['/', 'x']).database [library] = [library] ∧
        Registry.Storable library ∧
        Registry.validEntries site.machine (target ['/', 'x']).database = (.ok [], [])) ∧
      ∃ site, History executor ['/', 'f'] [] site ∧
        Registry.validEntries site.machine (Database.location ['/', 'f'] ['/', 'x']) =
          (.error (.fileSystem (Registry.path (Database.location ['/', 'f'] ['/', 'x']))
            .notDirectory), []) := by
  intro executor databases target library
  have encoded : ∀ root, Path.isAbsolute root = true → (target root).IsEncoded databases :=
    fun root rooted => ⟨rooted, rfl⟩
  have history := History.ofNode executor databases .directory [true]
    (show ['l'] ≠ Registry.fileName by decide)
  replace history := @History.carriesOut _ _ _ _
    (.libraryBuild (target ['/', 'x']).database [library] .default) history
    ⟨⟨['/', 'x'], rfl, rfl⟩, by simpa using encoded _ rfl⟩ (by decide +kernel)
  replace history := @History.carriesOut _ _ _ _ (.removal (target ['/', 'y'])) history
    (encoded _ rfl) (by decide +kernel)
  refine ⟨Executor.sparesRegistries_writingIndex ['i'], ⟨_, _, _, history, rfl, rfl, ?_, ?_, ?_⟩, ?_⟩
  · decide +kernel
  · exact ⟨by decide, by decide, by decide, by decide, by decide⟩
  · decide +kernel
  · exact ⟨_, History.ofNode executor ['/', 'f'] (.file [] false) []
      (show ['f'] ≠ Registry.fileName by decide), by decide +kernel⟩

/-- The libraries `/l` and `/m` of the root `/x` are built, of which only `/l` is there, and then
the database of `/y` is built and removed. -/
theorem lists_library_that_is_there :
    let executor : Executor := ⟨Executor.writingIndex, ['i'], none⟩
    let target := fun root : Text => (⟨root, Database.location ['/', 'd'] root⟩ : Target)
    let library := target ['/', 'l']
    ∃ deeds site, History executor ['/', 'd'] deeds site ∧
      deeds.map (·.job) =
        [.libraryBuild (target ['/', 'x']).database [library, target ['/', 'm']] .default,
          .fullBuild (target ['/', 'y']) .default, .removal (target ['/', 'y'])] ∧
      Registry.Lists site.machine (target ['/', 'x']).database [library] ∧
      Registry.Lists site.machine (target ['/', 'y']).database [] := by
  intro executor target library
  have encoded : ∀ root, Path.isAbsolute root = true → (target root).IsEncoded ['/', 'd'] :=
    fun root rooted => ⟨rooted, rfl⟩
  have history := History.ofNode executor ['/', 'd'] .directory [true]
    (show ['l'] ≠ Registry.fileName by decide)
  replace history := @History.carriesOut _ _ _ _
    (.libraryBuild (target ['/', 'x']).database [library, target ['/', 'm']] .default) history
    ⟨⟨['/', 'x'], rfl, rfl⟩, by simpa using ⟨encoded _ rfl, encoded _ rfl⟩⟩ (by decide +kernel)
  replace history := @History.carriesOut _ _ _ _ (.fullBuild (target ['/', 'y']) .default) history
    (encoded _ rfl) (by decide +kernel)
  replace history := @History.carriesOut _ _ _ _ (.removal (target ['/', 'y'])) history
    (encoded _ rfl) (by decide +kernel)
  have spares := Executor.sparesRegistries_writingIndex ['i']
  refine ⟨_, _, history, rfl, ?_, ?_⟩
  · have there : Registry.present (FileTree.empty.put [['l']] .directory) []
        (target ['/', 'x']).database [library, target ['/', 'm']] = [library] := by
      decide +kernel
    have storable : Registry.Storable library :=
      ⟨by decide, by decide, by decide, by decide, by decide⟩
    have listed := (history.lists spares (by decide)
      (show Path.isAbsolute ['/', 'x'] = true from rfl)).2 [] _ _ _ _ rfl rfl ?_ (by
        intro entry mem
        have same : entry = library := List.mem_singleton.mp (there ▸ mem)
        rwa [same])
    · exact there ▸ listed.1
    · intro other mem
      rcases List.mem_cons.mp mem with rfl | mem
      · constructor
        · rintro ⟨_, _, job⟩
          cases job
        · rintro ⟨_, _, job, _⟩
          cases job
      · rw [List.mem_singleton.mp mem]
        constructor
        · rintro ⟨_, _, job⟩
          cases job
        · rintro ⟨_, _, job, same⟩
          cases job
          exact absurd same (by decide)
  · refine (history.lists spares (by decide)
      (show Path.isAbsolute ['/', 'y'] = true from rfl)).1 _ [] (List.append_nil _).symm ?_ (by simp)
      ?_
    · intro deed last
      rw [List.getLast?_concat] at last
      cases last
      exact ⟨by decide +kernel, _, rfl, rfl⟩
    · intro fault failed
      have missing := failed.symm.trans (by decide +kernel : _ = Except.error Fault.notFound)
      cases missing
      rfl

end ProjectTags
