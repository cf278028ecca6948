import ProjectTags.Job.Execution

/-!
# Attempts at the databases of libraries

Once the libraries of a database are recorded, an attempt is made to build the database of each one.
`Tries` says what one attempt finds on a machine and leaves there, without the recursion of the job,
and `TriesAll` puts attempts together, each on the machine that the one before left. No attempt looks
at how another one ended. There are attempts for any libraries on any machine, so a job can be
followed along them, and what it calls and tells is read off their endings.
-/

namespace ProjectTags

/-- How an attempt to build the database of a library ended. -/
inductive BuildEnding where
  /-- The directory of the database could not be made. -/
  | unprepared (fault : Fault)
  /-- The indexer could not be started. -/
  | unstarted (fault : Fault)
  /-- The indexer came to its end, with success or not. -/
  | ran (finished : Finished)

/-- An attempt to build the database of a library. -/
structure BuildAttempt where
  library : Target
  ending : BuildEnding

namespace BuildAttempt

/-- Whether there is a directory for the database. Only then the indexer is run. -/
def isPrepared (attempt : BuildAttempt) : Bool :=
  match attempt.ending with
  | .unprepared _ => false
  | .unstarted _ | .ran _ => true

section

variable (executor : Executor) (options : IndexerOptions) (attempt : BuildAttempt)

/-- The indexer, run in the root of the library for the library's own database. -/
def line : CommandLine :=
  CommandLine.build executor.indexer attempt.library options false

/-- What the attempt comes to. -/
def result : Except Failure Unit :=
  match attempt.ending with
  | .unprepared fault => .error (.fileSystem attempt.library.database fault)
  | .unstarted fault => .error (Executor.notStarted (attempt.line executor options) fault)
  | .ran finished => Executor.judge (attempt.line executor options) finished

/-- What is told when the attempt begins. -/
def beginning : List Event :=
  if attempt.isPrepared then [.buildingLibrary attempt.library.root] else []

/-- What is told about the attempt. -/
def events : List Event :=
  attempt.beginning ++
    match attempt.result executor options with
    | .ok () => []
    | .error failure => [.libraryFailed attempt.library.root failure]

end

end BuildAttempt

/-- The roots of the libraries for which an attempt failed, in order. -/
def failedRoots (executor : Executor) (options : IndexerOptions) (attempts : List BuildAttempt) :
    List Text :=
  (attempts.filter fun attempt => !(attempt.result executor options).isOk).map (·.library.root)

namespace Executor

/-- An attempt made on a machine, and the machine that it leaves. -/
inductive Tries (executor : Executor) (options : IndexerOptions) :
    Machine → BuildAttempt → Machine → Prop where
  | unprepared {machine : Machine} {library : Target} {files : FileTree} {fault : Fault}
      (made : machine.files.makeDirectories machine.current library.database =
        (files, some fault)) :
      Tries executor options machine ⟨library, .unprepared fault⟩ { machine with files := files }
  | unstarted {machine : Machine} {library : Target} {files : FileTree} {fault : Fault}
      (made : machine.files.makeDirectories machine.current library.database = (files, none))
      (answer : executor.programs { machine with files := files }
        (CommandLine.build executor.indexer library options false) [] = .error fault) :
      Tries executor options machine ⟨library, .unstarted fault⟩ { machine with files := files }
  | ran {machine : Machine} {library : Target} {files left : FileTree} {finished : Finished}
      (made : machine.files.makeDirectories machine.current library.database = (files, none))
      (answer : executor.programs { machine with files := files }
        (CommandLine.build executor.indexer library options false) [] = .ok (finished, left)) :
      Tries executor options machine ⟨library, .ran finished⟩ { machine with files := left }

/-- Some attempts, each made on the machine that the one before it left, however that one ended. -/
inductive TriesAll (executor : Executor) (options : IndexerOptions) :
    Machine → List BuildAttempt → Machine → Prop where
  | done (machine : Machine) : TriesAll executor options machine [] machine
  | next {before between after : Machine} {attempt : BuildAttempt} {others : List BuildAttempt}
      (first : Tries executor options before attempt between)
      (later : TriesAll executor options between others after) :
      TriesAll executor options before (attempt :: others) after

/-- The site after some attempts that left a machine. -/
def siteAfter (executor : Executor) (options : IndexerOptions) (attempts : List BuildAttempt)
    (left : Machine) (site : Site) : Site :=
  { site with
    machine := left
    log := site.log ++ attempts.flatMap (·.events executor options)
    called := site.called ++ (attempts.filter (·.isPrepared)).map (·.line executor options) }

variable {executor : Executor} {options : IndexerOptions} {site : Site} {attempt : BuildAttempt}
  {attempts : List BuildAttempt} {left : Machine}

theorem exists_tries (executor : Executor) (options : IndexerOptions) (library : Target)
    (machine : Machine) :
    ∃ attempt left, attempt.library = library ∧ Tries executor options machine attempt left := by
  rcases made : machine.files.makeDirectories machine.current library.database with
    ⟨files, _ | fault⟩
  · cases answer : executor.programs { machine with files := files }
        (CommandLine.build executor.indexer library options false) [] with
    | error fault => exact ⟨_, _, rfl, .unstarted made answer⟩
    | ok ran => exact ⟨_, _, rfl, .ran made answer⟩
  · exact ⟨_, _, rfl, .unprepared made⟩

theorem exists_triesAll (executor : Executor) (options : IndexerOptions) (libraries : List Target)
    (machine : Machine) :
    ∃ attempts left, attempts.map (·.library) = libraries ∧
      TriesAll executor options machine attempts left := by
  induction libraries generalizing machine with
  | nil => exact ⟨[], machine, rfl, .done machine⟩
  | cons library others ih =>
      rcases exists_tries executor options library machine with ⟨attempt, between, own, first⟩
      rcases ih between with ⟨attempts, left, owns, later⟩
      exact ⟨attempt :: attempts, left, by rw [List.map_cons, own, owns], .next first later⟩

theorem siteAfter_cons (attempt : BuildAttempt) (later : List BuildAttempt)
    (between left : Machine) (site : Site) :
    siteAfter executor options (attempt :: later) left site =
      siteAfter executor options later left
        (siteAfter executor options [attempt] between site) := by
  cases prepared : attempt.isPrepared <;> simp [siteAfter, prepared]

theorem buildLibrary_of_tries (tries : Tries executor options site.machine attempt left) :
    executor.buildLibrary options attempt.library site =
      (attempt.result executor options,
        { siteAfter executor options [attempt] left site with
          log := site.log ++ attempt.beginning }) := by
  rcases site with ⟨machine, answers, questions, log, called⟩
  unfold buildLibrary Site.makeDirectories runToCompletion runIndexer Site.call
  cases tries with
  | unprepared made =>
      simp [made, BuildAttempt.result, siteAfter, BuildAttempt.beginning, BuildAttempt.isPrepared,
        Site.withFiles]
  | unstarted made answer =>
      simp [made, answer, BuildAttempt.result, siteAfter, BuildAttempt.beginning,
        BuildAttempt.isPrepared, BuildAttempt.line, Site.withFiles, Site.tell]
  | ran made answer =>
      simp [made, answer, BuildAttempt.result, siteAfter, BuildAttempt.beginning,
        BuildAttempt.isPrepared, BuildAttempt.line, Site.withFiles, Site.tell]

/-- One attempt decides whether its root comes out, and the others follow in any case. -/
theorem buildLibraries_cons (tries : Tries executor options site.machine attempt left)
    (others : List Target) :
    executor.buildLibraries options (attempt.library :: others) site =
      (failedRoots executor options [attempt] ++
        (executor.buildLibraries options others (siteAfter executor options [attempt] left site)).1,
        (executor.buildLibraries options others
          (siteAfter executor options [attempt] left site)).2) := by
  rw [buildLibraries, buildLibrary_of_tries tries]
  cases result : attempt.result executor options with
  | ok =>
      simp [siteAfter, failedRoots, BuildAttempt.events, result, Except.isOk, Except.toBool]
  | error failure =>
      simp [siteAfter, failedRoots, BuildAttempt.events, result, Except.isOk, Except.toBool,
        Site.tell]

theorem failedRoots_cons (attempt : BuildAttempt) (later : List BuildAttempt) :
    failedRoots executor options (attempt :: later) =
      failedRoots executor options [attempt] ++ failedRoots executor options later := by
  unfold failedRoots
  rw [← List.map_append, ← List.filter_append, List.singleton_append]

/-- All attempts are made, and they decide what comes out and what the site is afterwards. -/
theorem buildLibraries_of_triesAll {before : Machine} (start : site.machine = before)
    (tries : TriesAll executor options before attempts left) :
    executor.buildLibraries options (attempts.map (·.library)) site =
      (failedRoots executor options attempts, siteAfter executor options attempts left site) := by
  induction tries generalizing site with
  | done machine =>
      rcases site with ⟨_, answers, questions, log, called⟩
      cases start
      simp [buildLibraries, failedRoots, siteAfter]
  | @next _ between _ attempt others first _ ih =>
      subst start
      have next : (siteAfter executor options [attempt] between site).machine = between := rfl
      rw [List.map_cons, buildLibraries_cons first, ih next, ← siteAfter_cons, ← failedRoots_cons]

end Executor

end ProjectTags
