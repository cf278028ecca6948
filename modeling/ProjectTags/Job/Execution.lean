import ProjectTags.Command.Indexer
import ProjectTags.Database
import ProjectTags.Job.Worker
import ProjectTags.Listing
import ProjectTags.Machine.Program
import ProjectTags.Registry.Entry

/-!
# Carrying out jobs

What each kind of job does to the machine. A full build makes the database directory and runs the
indexer, which may be fed by a listing of the files. A single update is only started, and only if
there is a database. A library build first records the libraries and then builds each one,
whatever becomes of the others. A removal asks the user first.
-/

namespace ProjectTags

/-- The machine together with what passes between the work and the user. -/
structure Site where
  machine : Machine
  /-- What the user will answer to the next questions; then the answer is no. -/
  answers : List Bool
  /-- The questions that were asked. -/
  questions : List Text
  /-- What was told. -/
  log : List Event
  /-- The command lines of the programs that were called, in order. -/
  called : List CommandLine

namespace Site

/-- A machine on which nothing was asked, told or called. -/
def ofMachine (machine : Machine) (answers : List Bool) : Site := ⟨machine, answers, [], [], []⟩

/-- The site with other files. -/
def withFiles (site : Site) (files : FileTree) : Site :=
  { site with machine := { site.machine with files := files } }

/-- Tells the user something. -/
def tell (site : Site) (event : Event) : Site :=
  { site with log := site.log ++ [event] }

/-- Asks the user a question. -/
def ask (site : Site) (question : Text) : Bool × Site :=
  (site.answers.headD false,
    { site with answers := site.answers.tail, questions := site.questions ++ [question] })

/-- Whether a path is there. -/
def holds (site : Site) (path : Text) : Bool :=
  site.machine.holds path

/-- Makes a directory and those above it. -/
def makeDirectories (site : Site) (path : Text) : Except Failure Unit × Site :=
  match site.machine.files.makeDirectories site.machine.current path with
  | (files, none) => (.ok (), site.withFiles files)
  | (files, some fault) => (.error (.fileSystem path fault), site.withFiles files)

/-- Calls a program with some input and waits for it. -/
def call (site : Site) (programs : Programs) (line : CommandLine) (input : Bytes) :
    Except Fault Finished × Site :=
  let site := { site with called := site.called ++ [line] }
  match programs site.machine line input with
  | .error fault => (.error fault, site)
  | .ok (finished, files) => (.ok finished, site.withFiles files)

end Site

/-- What jobs are carried out with. -/
structure Executor where
  /-- What programs do. -/
  programs : Programs
  /-- The indexer. -/
  indexer : Text
  lister : Option Lister

namespace Executor

/-- The failure of a program that could not be started. -/
def notStarted (line : CommandLine) (fault : Fault) : Failure :=
  .program line.render fault.message

/-- What a finished run of the indexer comes to: any text among its errors and any status but
success make it a failure. -/
def judge (line : CommandLine) (finished : Finished) : Except Failure Unit :=
  let errors := Text.trim (Utf8.decodeLossy finished.errors)
  if !errors.isEmpty then .error (.program line.render errors)
  else if !finished.status.isSuccess then
    .error (.program line.render ("exited with ".toList ++ finished.status.message))
  else .ok ()

/-- Runs the indexer with some input and waits for it. -/
def runIndexer (executor : Executor) (line : CommandLine) (input : Bytes) (site : Site) :
    Except Failure Unit × Site :=
  match site.call executor.programs line input with
  | (.error fault, site) => (.error (notStarted line fault), site)
  | (.ok finished, site) => (judge line finished, site)

/-- Runs the indexer, fed by a listing if there is one, and waits for both. How the listing ended
does not matter. -/
def runToCompletion (executor : Executor) (line : CommandLine) (listing : Option CommandLine)
    (site : Site) : Except Failure Unit × Site :=
  match listing with
  | none => executor.runIndexer line [] site
  | some list =>
      match site.call executor.programs list [] with
      | (.error fault, site) => (.error (notStarted list fault), site)
      | (.ok listed, site) => executor.runIndexer line listed.output site

/-- The command that lists the files of a root, run there. -/
def listing? (executor : Executor) (machine : Machine) (root : Text) : Option CommandLine := do
  let lister ← executor.lister
  let command ← lister.command? machine.isDirectory root
  return { CommandLine.shell command with directory := some root }

/-- Builds a whole database. -/
def fullBuild (executor : Executor) (target : Target) (options : IndexerOptions) (site : Site) :
    Except Failure Outcome × Site :=
  match site.makeDirectories target.database with
  | (.error failure, site) => (.error failure, site)
  | (.ok (), site) =>
      let listing := executor.listing? site.machine target.root
      let line := CommandLine.build executor.indexer target options listing.isSome
      let site := site.tell (.building target.root target.database)
      match executor.runToCompletion line listing site with
      | (.error failure, site) => (.error failure, site)
      | (.ok (), site) => (.ok .completed, site.tell (.built target.database))

/-- Starts to bring one file up to date. -/
def singleUpdate (executor : Executor) (target : Target) (file : Text) (options : IndexerOptions)
    (site : Site) : Except Failure Outcome × Site :=
  if site.holds (Path.join target.database Database.indexFile) then
    let line := CommandLine.singleUpdate executor.indexer target file options
    match site.call executor.programs line [] with
    | (.error fault, site) => (.error (notStarted line fault), site)
    | (.ok _, site) => (.ok .launched, site)
  else (.ok (.skipped ("no database at ".toList ++ target.database)), site)

/-- Builds the database of one library. -/
def buildLibrary (executor : Executor) (options : IndexerOptions) (library : Target)
    (site : Site) : Except Failure Unit × Site :=
  match site.makeDirectories library.database with
  | (.error failure, site) => (.error failure, site)
  | (.ok (), site) =>
      executor.runToCompletion (CommandLine.build executor.indexer library options false) none
        (site.tell (.buildingLibrary library.root))

/-- Builds the databases of some libraries one after the other. The roots of those that failed
come out. -/
def buildLibraries (executor : Executor) (options : IndexerOptions) :
    List Target → Site → List Text × Site
  | [], site => ([], site)
  | library :: others, site =>
      match executor.buildLibrary options library site with
      | (.ok (), site) => executor.buildLibraries options others site
      | (.error failure, site) =>
          let (failed, site) :=
            executor.buildLibraries options others (site.tell (.libraryFailed library.root failure))
          (library.root :: failed, site)

/-- Records the libraries of a database and builds those whose root is there. -/
def libraryBuild (executor : Executor) (primary : Text) (libraries : List Target)
    (options : IndexerOptions) (site : Site) : Except Failure Outcome × Site :=
  let written := Registry.write site.machine.files site.machine.current primary libraries
  let site := site.withFiles written.tree
  match written.outcome with
  | .error failure => (.error failure, site)
  | .ok [] => (.ok (.skipped "no existing library roots".toList), site)
  | .ok present =>
      match executor.buildLibraries options present site with
      | ([], site) => (.ok .completed, site)
      | (failed, site) =>
          (.error (.program "library build".toList
            ("failed for ".toList ++ Text.joinWith [',', ' '] failed)), site)

/-- The question before a removal. -/
def question (database : Text) : Text :=
  "Are you sure you want to remove directory \x60".toList ++ database ++ "\x60?[Ny] ".toList

/-- Removes a database if the user agrees. -/
def removal (target : Target) (site : Site) : Except Failure Outcome × Site :=
  match site.ask (question target.database) with
  | (false, site) => (.error (.declined target.database), site)
  | (true, site) =>
      match site.machine.files.removeDirectory site.machine.current target.database with
      | (files, some fault) =>
          (.error (.fileSystem target.database fault), site.withFiles files)
      | (files, none) => (.ok .completed, (site.withFiles files).tell (.removed target.database))

/-- Carries out a job. -/
def execute (executor : Executor) : Job → Site → Except Failure Outcome × Site
  | .fullBuild target options => executor.fullBuild target options
  | .singleUpdate target file options => executor.singleUpdate target file options
  | .libraryBuild primary libraries options => executor.libraryBuild primary libraries options
  | .removal target => removal target

/-- Carries out a job for the worker, and tells how it ended. -/
def carryOut (executor : Executor) (job : Job) (site : Site) : Ending × Site :=
  match executor.execute job site with
  | (.ok outcome, site) => (.done outcome, site.tell ((Ending.done outcome).event job))
  | (.error failure, site) => (.failed failure, site.tell ((Ending.failed failure).event job))

end Executor

end ProjectTags
