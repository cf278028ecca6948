import Mathlib.Logic.Relation
import ProjectTags.Job.Execution
import ProjectTags.Proofs.Registry.Writing

/-!
# What carrying out a job consists of

To build a database, directories are made and programs are called; the user is told and asked
things on the way. These are the acts of an executor. Two kinds of jobs also do something to the
files themselves: a library build writes the registry, and a removal takes a directory away. Behind
that every job is a chain of acts, so what this and every act keep, a job keeps.
-/

namespace ProjectTags

/-- The databases that a job writes: its own, and those of the libraries that it builds. -/
def Job.databases : Job → List Text
  | fullBuild target _ | singleUpdate target _ _ | removal target => [target.database]
  | libraryBuild primary libraries _ => primary :: libraries.map (·.database)

/-- The files after what a job does to them itself: a library build writes the registry, and a
removal that the user agrees to takes the database away. -/
def Job.ownFiles (job : Job) (site : Site) : FileTree :=
  match job with
  | fullBuild _ _ | singleUpdate _ _ _ => site.machine.files
  | libraryBuild primary libraries _ =>
      (Registry.write site.machine.files site.machine.current primary libraries).tree
  | removal target =>
      if site.answers.headD false then
        (site.machine.files.removeDirectory site.machine.current target.database).1
      else site.machine.files

namespace Executor

/-- One thing that is done for some databases. -/
inductive Act (executor : Executor) (databases : List Text) : Site → Site → Prop where
  | told (site : Site) (event : Event) : Act executor databases site (site.tell event)
  | asked (site : Site) (question : Text) : Act executor databases site (site.ask question).2
  | prepared (site : Site) {database : Text} (own : database ∈ databases) :
      Act executor databases site (site.makeDirectories database).2
  | listed (site : Site) {root : Text} {line : CommandLine}
      (listing : executor.listing? site.machine root = some line) :
      Act executor databases site (site.call executor.programs line []).2
  /-- The indexer is called, with the database as its last argument. -/
  | indexed (site : Site) (input : Bytes) {line : CommandLine} {database : Text}
      (own : database ∈ databases) (indexer : line.program = executor.indexer)
      (last : line.arguments.getLast? = some database) :
      Act executor databases site (site.call executor.programs line input).2

/-- Some acts, one after the other. -/
abbrev Acts (executor : Executor) (databases : List Text) : Site → Site → Prop :=
  Relation.ReflTransGen (Act executor databases)

variable {before after site : Site} {executor : Executor} {databases : List Text}
  {target library : Target} {options : IndexerOptions} {line : CommandLine} {input : Bytes}
  {database root file primary : Text} {libraries : List Target} {job : Job}

/-! ## Jobs as chains of acts -/

theorem getLast?_build (indexer : Text) (target : Target) (options : IndexerOptions)
    (fromInput : Bool) :
    (CommandLine.build indexer target options fromInput).arguments.getLast? =
      some target.database := by
  simp [CommandLine.build]

theorem getLast?_singleUpdate (indexer : Text) (target : Target) (file : Text)
    (options : IndexerOptions) :
    (CommandLine.singleUpdate indexer target file options).arguments.getLast? =
      some target.database := by
  simp [CommandLine.singleUpdate]

theorem runIndexer_snd (executor : Executor) (line : CommandLine) (input : Bytes) (site : Site) :
    (executor.runIndexer line input site).2 = (site.call executor.programs line input).2 := by
  unfold runIndexer
  split <;> next called => rw [called]

theorem singleUpdate_snd (executor : Executor) (target : Target) (file : Text)
    (options : IndexerOptions) (site : Site) :
    (executor.singleUpdate target file options site).2 =
      if site.holds (Path.join target.database Database.indexFile) then
        (site.call executor.programs
          (CommandLine.singleUpdate executor.indexer target file options) []).2
      else site := by
  unfold singleUpdate
  split
  · simp only
    split <;> next called => rw [called]
  · rfl

theorem acts_runIndexer (own : database ∈ databases) (indexer : line.program = executor.indexer)
    (last : line.arguments.getLast? = some database) :
    Acts executor databases site (executor.runIndexer line input site).2 := by
  rw [runIndexer_snd]
  exact .single (.indexed site input own indexer last)

theorem acts_runToCompletion (root : Text) (own : database ∈ databases)
    (indexer : line.program = executor.indexer) (last : line.arguments.getLast? = some database)
    {listing : Option CommandLine}
    (lists : ∀ list, listing = some list → executor.listing? site.machine root = some list) :
    Acts executor databases site (executor.runToCompletion line listing site).2 := by
  unfold runToCompletion
  split
  · exact acts_runIndexer own indexer last
  · next list =>
      have act : Act executor databases site (site.call executor.programs list []).2 :=
        .listed site (lists list rfl)
      split
      · next called =>
          rw [called] at act
          exact .single act
      · next called =>
          rw [called] at act
          exact .head act (acts_runIndexer own indexer last)

theorem acts_fullBuild (executor : Executor) (options : IndexerOptions) (site : Site)
    (own : target.database ∈ databases) :
    Acts executor databases site (executor.fullBuild target options site).2 := by
  have made : Act executor databases site (site.makeDirectories target.database).2 :=
    .prepared site own
  unfold fullBuild
  split
  · next failed =>
      rw [failed] at made
      exact .single made
  · next ready prepared =>
      rw [prepared] at made
      have ran : Acts executor databases (ready.tell (.building target.root target.database))
          (executor.runToCompletion (CommandLine.build executor.indexer target options
            (executor.listing? ready.machine target.root).isSome)
            (executor.listing? ready.machine target.root)
            (ready.tell (.building target.root target.database))).2 :=
        acts_runToCompletion target.root own rfl (getLast?_build ..) fun _ listing => listing
      replace ran := (Relation.ReflTransGen.head made (.single (.told ready _))).trans ran
      simp only
      split
      · next failed =>
          rw [failed] at ran
          exact ran
      · next finished =>
          rw [finished] at ran
          exact ran.tail (.told _ _)

theorem acts_singleUpdate (executor : Executor) (file : Text) (options : IndexerOptions)
    (site : Site) (own : target.database ∈ databases) :
    Acts executor databases site (executor.singleUpdate target file options site).2 := by
  rw [singleUpdate_snd]
  split
  · exact .single (.indexed site [] own rfl (getLast?_singleUpdate ..))
  · exact .refl

theorem acts_buildLibrary (executor : Executor) (options : IndexerOptions) (site : Site)
    (own : library.database ∈ databases) :
    Acts executor databases site (executor.buildLibrary options library site).2 := by
  have made : Act executor databases site (site.makeDirectories library.database).2 :=
    .prepared site own
  unfold buildLibrary
  split
  · next failed =>
      rw [failed] at made
      exact .single made
  · next ready prepared =>
      rw [prepared] at made
      exact .head made (.head (.told ready (.buildingLibrary library.root))
        (acts_runToCompletion library.root own rfl (getLast?_build ..) (by simp)))

theorem acts_buildLibraries (executor : Executor) (options : IndexerOptions) (site : Site)
    (own : ∀ library ∈ libraries, library.database ∈ databases) :
    Acts executor databases site (executor.buildLibraries options libraries site).2 := by
  induction libraries generalizing site with
  | nil => exact .refl
  | cons library others ih =>
      have built := acts_buildLibrary executor options site (own library (List.mem_cons_self ..))
      have rest := fun site => ih site fun other mem => own other (List.mem_cons_of_mem _ mem)
      unfold buildLibraries
      split
      · next ready finished =>
          rw [finished] at built
          exact built.trans (rest ready)
      · next failure ready failed =>
          rw [failed] at built
          exact (built.tail (.told ready (.libraryFailed library.root failure))).trans (rest _)

theorem libraryBuild_of_failed {failure : Failure}
    (failed : (Registry.write site.machine.files site.machine.current primary libraries).outcome =
      .error failure) :
    executor.libraryBuild primary libraries options site =
      (.error failure, site.withFiles
        (Registry.write site.machine.files site.machine.current primary libraries).tree) := by
  simp only [libraryBuild, failed]

/-- The libraries that are built are those that were written to the registry. -/
theorem libraryBuild_of_wrote {written : List Target}
    (wrote : (Registry.write site.machine.files site.machine.current primary libraries).outcome =
      .ok written) :
    (executor.libraryBuild primary libraries options site).2 =
      (executor.buildLibraries options written (site.withFiles
        (Registry.write site.machine.files site.machine.current primary libraries).tree)).2 := by
  simp only [libraryBuild, wrote]
  cases written with
  | nil => rfl
  | cons library others =>
      simp only
      split <;> next built => rw [built]

theorem acts_libraryBuild (executor : Executor) (primary : Text) (options : IndexerOptions)
    (site : Site) (own : ∀ library ∈ libraries, library.database ∈ databases) :
    Acts executor databases
      (site.withFiles
        (Registry.write site.machine.files site.machine.current primary libraries).tree)
      (executor.libraryBuild primary libraries options site).2 := by
  cases outcome : (Registry.write site.machine.files site.machine.current primary
      libraries).outcome with
  | error failure => rw [libraryBuild_of_failed outcome]
  | ok written =>
      rw [libraryBuild_of_wrote outcome]
      apply acts_buildLibraries
      intro library mem
      rw [(Registry.write_eq_ok outcome).1] at mem
      exact own library (List.mem_filter.mp mem).1

theorem acts_removal (executor : Executor) (databases : List Text) (target : Target)
    (site : Site) :
    Acts executor databases (site.withFiles ((Job.removal target).ownFiles site))
      (removal target site).2 := by
  have asked : Act executor databases (site.withFiles ((Job.removal target).ownFiles site))
      ((site.withFiles ((Job.removal target).ownFiles site)).ask (question target.database)).2 :=
    .asked _ _
  -- The question does not depend on the files, so it can as well be asked after they changed.
  unfold Job.ownFiles Site.ask at asked
  unfold removal Job.ownFiles Site.ask
  cases answer : site.answers.headD false with
  | false =>
      rw [answer] at asked
      exact .single asked
  | true =>
      simp only [answer, if_true] at asked ⊢
      split
      · next removed =>
          rw [removed] at asked ⊢
          exact .single asked
      · next removed =>
          rw [removed] at asked ⊢
          exact (Relation.ReflTransGen.single asked).tail (.told _ (.removed target.database))

/-- What a job does itself comes first, all else is acts for its databases. -/
theorem acts_execute (executor : Executor) (job : Job) (site : Site) :
    Acts executor job.databases (site.withFiles (job.ownFiles site))
      (executor.execute job site).2 := by
  cases job with
  | fullBuild target options =>
      exact acts_fullBuild executor options site (List.mem_singleton_self _)
  | singleUpdate target file options =>
      exact acts_singleUpdate executor file options site (List.mem_singleton_self _)
  | libraryBuild primary libraries options =>
      apply acts_libraryBuild
      intro library mem
      exact List.mem_cons_of_mem _ (List.mem_map_of_mem mem)
  | removal target => exact acts_removal executor _ target site

theorem files_removal (target : Target) (site : Site) :
    (removal target site).2.machine.files = (Job.removal target).ownFiles site := by
  unfold removal Site.ask Job.ownFiles
  cases site.answers.headD false with
  | false => rfl
  | true =>
      simp only [if_true]
      split <;> next removed => rw [removed]; rfl

/-! ## What an act keeps -/

/-- What the programs of a job may do: the indexer writes nothing but the database that its last
argument names, and the lister writes nothing. -/
structure Confined (executor : Executor) : Prop where
  indexer : ∀ (machine : Machine) (line : CommandLine) (input : Bytes) (finished : Finished)
    (files : FileTree) (database : Text),
      line.program = executor.indexer → line.arguments.getLast? = some database →
        executor.programs machine line input = .ok (finished, files) →
          FileTree.ChangesWithin (FileTree.destination machine.current database <+: ·)
            (fun _ => False) machine.files files
  lister : ∀ (machine : Machine) (root : Text) (line : CommandLine) (finished : Finished)
    (files : FileTree),
      executor.listing? machine root = some line →
        executor.programs machine line [] = .ok (finished, files) →
          ∀ location, files.node? location = machine.files.node? location

/-- Programs of which each writes an empty index into the database that its last argument names. -/
def writingIndex : Programs := fun machine line _ =>
  let index := Path.join (line.arguments.getLastD []) Database.indexFile
  match machine.files.write machine.current index [] with
  | .ok files => .ok (⟨[], [], .code 0⟩, files)
  | .error _ => .ok (⟨[], [], .code 1⟩, machine.files)

theorem files_writingIndex {machine : Machine} {finished : Finished} {files : FileTree}
    (input : Bytes) (answer : writingIndex machine line input = .ok (finished, files)) :
    files = machine.files ∨
      machine.files.write machine.current
        (Path.join (line.arguments.getLastD []) Database.indexFile) [] = .ok files := by
  simp only [writingIndex] at answer
  split at answer
  · next written success =>
      cases answer
      exact Or.inr success
  · cases answer
    exact Or.inl rfl

theorem isOrdinary_indexFile : Path.IsOrdinary Database.indexFile :=
  ⟨by decide, by decide, by decide, by decide⟩

theorem confined_writingIndex (indexer : Text) : Confined ⟨writingIndex, indexer, none⟩ where
  indexer := by
    intro machine line input finished files database _ last answer
    rcases files_writingIndex input answer with rfl | success
    · exact .refl _
    · rw [List.getLastD_eq_getLast?, last, Option.getD_some] at success
      refine (FileTree.ChangesWithin.write success).mono ?_ fun _ nowhere => nowhere
      rintro place rfl
      rw [FileTree.destination_join isOrdinary_indexFile]
      exact List.prefix_append ..
  lister := by
    intro machine root line finished files listing
    cases listing

/-- The places at or below some databases. -/
def Inside (current : Location) (databases : List Text) (location : Location) : Prop :=
  ∃ database ∈ databases, FileTree.destination current database <+: location

/-- The places of some databases and of the paths above them. -/
def OnTheWay (current : Location) (databases : List Text) (location : Location) : Prop :=
  ∃ database ∈ databases, FileTree.LeadsAbove current database location

theorem makeDirectories_snd (site : Site) (path : Text) :
    (site.makeDirectories path).2 =
      site.withFiles (site.machine.files.makeDirectories site.machine.current path).1 := by
  unfold Site.makeDirectories
  split <;> next made => rw [made]

theorem call_cases (site : Site) (programs : Programs) (line : CommandLine) (input : Bytes) :
    (site.call programs line input).2 = { site with called := site.called ++ [line] } ∨
      ∃ finished files, programs site.machine line input = .ok (finished, files) ∧
        (site.call programs line input).2 =
          { site with called := site.called ++ [line] }.withFiles files := by
  unfold Site.call
  simp only
  split
  · exact Or.inl rfl
  · next finished files answer => exact Or.inr ⟨finished, files, answer, rfl⟩

/-- A call keeps what leaving the files and what the program does to them keep. -/
theorem call_keeps (Kept : FileTree → Prop) {site : Site} {programs : Programs}
    (same : Kept site.machine.files)
    (ran : ∀ finished files, programs site.machine line input = .ok (finished, files) →
      Kept files) :
    Kept (site.call programs line input).2.machine.files := by
  rcases call_cases site programs line input with unchanged | ⟨finished, files, answer, changed⟩
  · rwa [unchanged]
  · rw [changed]
    exact ran finished files answer

@[simp]
theorem call_called (site : Site) (programs : Programs) (line : CommandLine) (input : Bytes) :
    (site.call programs line input).2.called = site.called ++ [line] := by
  rcases call_cases site programs line input with same | ⟨_, _, _, ran⟩
  · rw [same]
  · rw [ran]
    rfl

@[simp]
theorem call_current (site : Site) (programs : Programs) (line : CommandLine) (input : Bytes) :
    (site.call programs line input).2.machine.current = site.machine.current := by
  rcases call_cases site programs line input with same | ⟨_, _, _, ran⟩
  · rw [same]
  · rw [ran]
    rfl

theorem Act.current_eq (act : Act executor databases before after) :
    after.machine.current = before.machine.current := by
  cases act with
  | told | asked => rfl
  | prepared =>
      rw [makeDirectories_snd]
      rfl
  | listed | indexed => rw [call_current]

theorem Act.changesWithin (confined : executor.Confined)
    (act : Act executor databases before after) :
    FileTree.ChangesWithin (Inside before.machine.current databases)
      (OnTheWay before.machine.current databases) before.machine.files after.machine.files := by
  cases act with
  | told | asked => exact .refl _
  | @prepared database own =>
      rw [makeDirectories_snd]
      have made := FileTree.ChangesWithin.makeDirectories before.machine.files
        before.machine.current database
      exact made.mono (fun _ nowhere => nowhere.elim) fun _ above => ⟨_, own, above⟩
  | listed listing =>
      apply call_keeps (FileTree.ChangesWithin _ _ before.machine.files) (.refl _)
      intro finished files answer location _
      exact Or.inl (confined.lister _ _ _ finished files listing answer location)
  | indexed input own indexer last =>
      apply call_keeps (FileTree.ChangesWithin _ _ before.machine.files) (.refl _)
      intro finished files answer
      have wrote := confined.indexer _ _ _ finished files _ indexer last answer
      exact wrote.mono (fun _ within => ⟨_, own, within⟩) fun _ nowhere => nowhere.elim

theorem Acts.current_eq (acts : Acts executor databases before after) :
    after.machine.current = before.machine.current := by
  induction acts with
  | refl => rfl
  | tail _ act ih => exact act.current_eq.trans ih

theorem Acts.changesWithin (confined : executor.Confined)
    (acts : Acts executor databases before after) :
    FileTree.ChangesWithin (Inside before.machine.current databases)
      (OnTheWay before.machine.current databases) before.machine.files after.machine.files := by
  induction acts with
  | refl => exact .refl _
  | tail earlier act ih =>
      have last := act.changesWithin confined
      -- No act leaves the current directory, so all of them are for the same places.
      rw [Acts.current_eq earlier] at last
      exact ih.trans last

end Executor

end ProjectTags
