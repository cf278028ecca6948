import ProjectTags.Proofs.Job.Attempts
import ProjectTags.Proofs.Job.Records

/-!
# Building the databases of libraries

A library build writes the registry and then makes an attempt at each library in it. How many of
them fail and which decides only what is answered; the registry lists all of them. If it cannot be
written, no attempt is made.
-/

namespace ProjectTags.Executor

/-- What a library build answers after some attempts. -/
def verdict (executor : Executor) (options : IndexerOptions) (attempts : List BuildAttempt) :
    Except Failure Outcome :=
  match attempts, failedRoots executor options attempts with
  | [], _ => .ok (.skipped "no existing library roots".toList)
  | _ :: _, [] => .ok .completed
  | _ :: _, failed => .error (.program "library build".toList
      ("failed for ".toList ++ Text.joinWith [',', ' '] failed))

/-- The site once the libraries of a database are recorded, or could not be. -/
def recordedSite (primary : Text) (libraries : List Target) (site : Site) : Site :=
  site.withFiles (Registry.write site.machine.files site.machine.current primary libraries).tree

variable {executor : Executor} {options : IndexerOptions} {site : Site} {primary : Text}
  {libraries : List Target} {attempts : List BuildAttempt} {left : Machine} {failure : Failure}

theorem failedRoots_eq_nil_iff :
    failedRoots executor options attempts = [] ↔
      ∀ attempt ∈ attempts, attempt.result executor options = .ok () := by
  have isOk_iff : ∀ result : Except Failure Unit, result.isOk = true ↔ result = .ok () := by
    rintro (failure | ⟨⟩) <;> simp [Except.isOk, Except.toBool]
  simp [failedRoots, isOk_iff]

theorem verdict_eq_skipped_iff {reason : Text} :
    verdict executor options attempts = .ok (.skipped reason) ↔
      attempts = [] ∧ reason = "no existing library roots".toList := by
  unfold verdict
  split <;> simp [eq_comm]

theorem verdict_eq_completed_iff :
    verdict executor options attempts = .ok .completed ↔
      attempts ≠ [] ∧ failedRoots executor options attempts = [] := by
  unfold verdict
  split <;> simp_all

theorem verdict_eq_error_iff :
    verdict executor options attempts = .error failure ↔
      failedRoots executor options attempts ≠ [] ∧
        failure = .program "library build".toList ("failed for ".toList ++
          Text.joinWith [',', ' '] (failedRoots executor options attempts)) := by
  cases attempts with
  | nil => simp [verdict, failedRoots]
  | cons attempt later =>
      cases failed : failedRoots executor options (attempt :: later) with
      | nil => simp [verdict, failed]
      | cons root roots =>
          simp only [verdict, failed, Except.error.injEq]
          exact ⟨fun same => ⟨List.cons_ne_nil _ _, same.symm⟩, fun failing => failing.2.symm⟩

theorem libraryBuild_of_triesAll
    (wrote : (Registry.write site.machine.files site.machine.current primary libraries).outcome =
      .ok (attempts.map (·.library)))
    (tries : TriesAll executor options (recordedSite primary libraries site).machine attempts
      left) :
    executor.libraryBuild primary libraries options site =
      (verdict executor options attempts,
        siteAfter executor options attempts left (recordedSite primary libraries site)) := by
  have built := buildLibraries_of_triesAll rfl tries
  unfold recordedSite at built tries ⊢
  unfold libraryBuild
  simp only [wrote]
  cases attempts with
  | nil =>
      cases tries
      simp [verdict, siteAfter]
  | cons attempt later =>
      simp only [List.map_cons] at built ⊢
      rw [built]
      cases failed : failedRoots executor options (attempt :: later) <;> simp [verdict, failed]

/-- What a library build comes to once its libraries are recorded, by the attempts that are made. -/
structure BuildsEach (executor : Executor) (primary : Text) (libraries : List Target)
    (options : IndexerOptions) (site : Site) (attempts : List BuildAttempt)
    (outcome : Except Failure Outcome × Site) : Prop where
  /-- There is one attempt for each library whose root is there. -/
  attempted : attempts.map (·.library) =
    Registry.present site.machine.files site.machine.current primary libraries
  tries : TriesAll executor options (recordedSite primary libraries site).machine attempts
    outcome.2.machine
  /-- The indexer is run once for each library that has a directory for its database. -/
  called : outcome.2.called =
    site.called ++ (attempts.filter (·.isPrepared)).map (·.line executor options)
  /-- Each run is in the root of a library and for its own database. -/
  own : ∀ attempt ∈ attempts,
    (attempt.line executor options).directory = some attempt.library.root ∧
      (attempt.line executor options).arguments.getLast? = some attempt.library.database
  told : outcome.2.log = site.log ++ attempts.flatMap (·.events executor options)
  recorded : (recordedSite primary libraries site).machine.files.registry?
    (FileTree.destination site.machine.current primary) =
      some (Registry.render (attempts.map (·.library)))
  kept : executor.SparesRegistries →
    outcome.2.machine.files.registry? (FileTree.destination site.machine.current primary) =
      some (Registry.render (attempts.map (·.library)))
  skipped : ∀ reason, outcome.1 = .ok (.skipped reason) ↔
    (∀ library ∈ libraries, (Registry.prepared site.machine.files site.machine.current
      primary).holds site.machine.current library.root = false) ∧
        reason = "no existing library roots".toList
  completed : outcome.1 = .ok .completed ↔
    attempts ≠ [] ∧ ∀ attempt ∈ attempts, attempt.result executor options = .ok ()
  failed : ∀ failure, outcome.1 = .error failure ↔
    failedRoots executor options attempts ≠ [] ∧
      failure = .program "library build".toList ("failed for ".toList ++
        Text.joinWith [',', ' '] (failedRoots executor options attempts))

/-- If the libraries cannot be recorded, that is all that is done. Otherwise one attempt is made at
each library whose root is there. -/
theorem libraryBuild_tries_each_library (executor : Executor) (primary : Text)
    (libraries : List Target) (options : IndexerOptions) (site : Site) :
    (∀ failure, (Registry.write site.machine.files site.machine.current primary
        libraries).outcome = .error failure →
      executor.libraryBuild primary libraries options site =
        (.error failure, recordedSite primary libraries site)) ∧
    ∀ written, (Registry.write site.machine.files site.machine.current primary
        libraries).outcome = .ok written →
      ∃ attempts, BuildsEach executor primary libraries options site attempts
        (executor.libraryBuild primary libraries options site) := by
  refine ⟨fun failure failed => libraryBuild_of_failed failed, ?_⟩
  intro written wrote
  rcases exists_triesAll executor options written (recordedSite primary libraries site).machine
    with ⟨attempts, left, rfl, tries⟩
  have present := (Registry.write_eq_ok wrote).1
  have recorded := (Registry.registry?_write wrote).2
  refine ⟨attempts, ?_⟩
  have own : ∀ library ∈ libraries, library.database ∈ libraries.map (·.database) :=
    fun _ => List.mem_map_of_mem
  have acts := acts_libraryBuild executor primary options site own
  rw [libraryBuild_of_triesAll wrote tries] at acts ⊢
  constructor
  case attempted => exact present
  case tries => exact tries
  case called => rfl
  case own => exact fun attempt _ => ⟨rfl, getLast?_build ..⟩
  case told => rfl
  case recorded => exact recorded
  case kept => exact fun spares => ((acts.sparesRegistries spares).registry _).trans recorded
  case skipped =>
    intro reason
    rw [verdict_eq_skipped_iff, ← List.map_eq_nil_iff, present, Registry.present,
      List.filter_eq_nil_iff]
    simp only [Bool.not_eq_true]
  case completed =>
    rw [← failedRoots_eq_nil_iff]
    exact verdict_eq_completed_iff
  case failed => exact fun failure => verdict_eq_error_iff

/-- The roots `/a`, `/b` and `/e` are there and `/m` is not. A file stands in the way of the
database of `/b`, and a directory in that of the index of `/e`. With that file in the way of the
registry as well, nothing is built. -/
theorem libraryBuild_names_both_failures :
    let executor : Executor := ⟨writingIndex, ['i'], none⟩
    let tree := (((((((FileTree.empty.put [['a']] .directory).put [['b']] .directory).put [['e']]
      .directory).put [['f']] (.file [] false)).put [['d']] .directory).put [['d'], ['e']]
        .directory).put [['d'], ['e'], Database.indexFile] .directory)
    let site := Site.ofMachine ⟨tree, [], []⟩ []
    let a : Target := ⟨"/a".toList, "/d/a".toList⟩
    let b : Target := ⟨"/b".toList, "/f/b".toList⟩
    let e : Target := ⟨"/e".toList, "/d/e".toList⟩
    let m : Target := ⟨"/m".toList, "/d/m".toList⟩
    let primary := "/d/x".toList
    (Registry.write tree [] primary [a, b, m, e]).outcome = .ok [a, b, e] ∧
      (∃ attempts, BuildsEach executor primary [a, b, m, e] .default site attempts
        (executor.libraryBuild primary [a, b, m, e] .default site)) ∧
      (executor.libraryBuild primary [a, b, m, e] .default site).1 =
        .error (.program "library build".toList "failed for /b, /e".toList) ∧
      (executor.libraryBuild primary [a, b, m, e] .default site).2.called =
        [CommandLine.build ['i'] a .default false, CommandLine.build ['i'] e .default false] ∧
      (Registry.write tree [] "/f/x".toList [a]).outcome =
        .error (.fileSystem "/f/x".toList .notDirectory) ∧
      executor.libraryBuild "/f/x".toList [a] .default site =
        (.error (.fileSystem "/f/x".toList .notDirectory),
          recordedSite "/f/x".toList [a] site) := by
  intro executor tree site a b e m primary
  have wrote : (Registry.write tree [] primary [a, b, m, e]).outcome = .ok [a, b, e] := by
    decide +kernel
  have builds := (libraryBuild_tries_each_library executor primary [a, b, m, e] .default site).2 _
    wrote
  have failed : (Registry.write tree [] "/f/x".toList [a]).outcome =
      .error (.fileSystem "/f/x".toList .notDirectory) := by
    decide +kernel
  have stopped := (libraryBuild_tries_each_library executor "/f/x".toList [a] .default site).1 _
    failed
  exact ⟨wrote, builds, by decide +kernel, by decide +kernel, failed, stopped⟩

end ProjectTags.Executor
