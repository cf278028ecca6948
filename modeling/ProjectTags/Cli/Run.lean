import ProjectTags.Cli.Invocation
import ProjectTags.Settings.Check
import ProjectTags.Settings.File
import ProjectTags.Settings.Template
import ProjectTags.Store

/-!
# Running the program

What a run of the program comes to on a machine. The settings template is written before anything
else is looked at, and giving a pattern in Vim's syntax needs no settings. Everything else opens
the store, does what is asked for, and then waits for the jobs that were submitted.
-/

namespace ProjectTags.Cli

/-- What a run came to. -/
structure Report where
  status : Nat
  output : Text
  /-- What is said about a failure. -/
  error : Option Text
  /-- The question that the user was asked. -/
  question : Option Text
  files : FileTree

/-- A machine with its programs, its listing tools and what the user types. -/
structure World where
  machine : Machine
  programs : Programs
  listers : List Text
  input : Text

namespace World

/-- A run without a failure. -/
def succeeds (output : Text) (files : FileTree) : Report :=
  ⟨0, output, none, none, files⟩

/-- A run that comes to a failure before anything was changed. -/
def fails (world : World) (message : Text) : Report :=
  ⟨1, [], some message, none, world.machine.files⟩

/-- The version of the program. -/
def versionLine : Text := "tagdb 0.1.0\n".toList

/-- What a refused command line comes to. -/
def refuses (world : World) : Refusal → Report
  | .misuse => ⟨2, [], none, none, world.machine.files⟩
  | .version => succeeds versionLine world.machine.files
  | .help => succeeds [] world.machine.files

/-- Writes the settings template where nothing is. -/
def writeTemplate (world : World) (path : Text) : Report :=
  let machine := world.machine
  if machine.holds path then
    world.fails ("Config file already exists: ".toList ++ path ++
      "\nRemove it first or choose a different path.".toList)
  else
    match Settings.writeTemplate machine.files machine.current path with
    | (.ok (), files) => succeeds ("✓ Generated config file: ".toList ++ path ++ ['\n']) files
    | (.error fault, files) => { world.fails fault.message with files := files }

/-- The settings file that was named or else one of the usual ones, or the defaults. -/
def baseSettings (world : World) (file : Option Text) : Except Text Settings :=
  match file with
  | some path =>
      if world.machine.holds path then
        (Settings.ofFile world.machine path).mapError Settings.FileFault.message
      else
        .error ("Config file not found: ".toList ++ path ++ "\nUse --init ".toList ++ path ++
          " to generate a template.".toList)
  | none =>
      match Settings.ofUsualFiles world.machine with
      | .ok found => .ok ((found.map (·.1)).getD .default)
      | .error fault => .error fault.message

/-- The settings with what an update adds to them. -/
def withAdditions (settings : Settings) : Task → Settings
  | .update _ _ additions =>
      let indexing := settings.indexing
      { settings with indexing := { indexing with
          acceptDotfiles := indexing.acceptDotfiles || additions.acceptDotfiles
          skipUnreadable := indexing.skipUnreadable || additions.skipUnreadable
          skipSymlink := additions.skipSymlink.or indexing.skipSymlink
          libraryPaths := indexing.libraryPaths ++ additions.libraryPaths } }
  | _ => settings

/-- The settings for a task: those of a file, what the environment and the command line say
besides, and what the task adds. -/
def settingsFor (world : World) (invocation : Invocation) (task : Task) :
    Except Text Settings := do
  let base ← world.baseSettings invocation.settingsFile
  let said := (base.override (Settings.environmentOverride world.machine)).override
    invocation.override
  let settings := withAdditions said task
  match settings.objection? world.listers with
  | some objection => throw objection.message
  | none => return settings

/-- What the user answers to a question: the first line that is typed has to be a `y`. -/
def agrees (input : Text) : Bool :=
  let answer := Text.trim (input.takeWhile (· != '\n'))
  answer = ['y'] || answer = ['Y']

/-- The file that stands for the current directory. -/
def fileInCurrent (machine : Machine) : Text :=
  Path.join machine.currentPath "no_name".toList

/-- What a query looks for. -/
def modeOf (aim : Aim) (word : Option Text) : Except Text Query.Mode :=
  match aim with
  | .definition pattern => .ok (.definition pattern)
  | .reference pattern => .ok (.reference pattern)
  | .symbol pattern => .ok (.symbol pattern)
  | .anyText pattern => .ok (.anyText pattern)
  | .fileTags files => .ok (.fileTags files)
  | .fromHere place =>
      match Text.splitAt? ':' place with
      | none => .error "--from-here expects LINE:FILE".toList
      | some (number, file) =>
          match Text.natural? ResultLine.lineBound number, word with
          | none, _ => .error ("Invalid line number in --from-here: ".toList ++ number)
          | some _, none => .error "--from-here requires --word".toList
          | some line, some word => .ok (.fromHere line file word)

/-- Some lines, each with a line break at its end. -/
def ofLines (lines : List Text) : Text :=
  lines.flatMap fun line => line ++ ['\n']

/-- A resolved file as it is printed. -/
def resolvedLines (resolved : Root.Resolved) : Text :=
  ofLines ["root\t".toList ++ resolved.root, "db\t".toList ++ resolved.database,
    "indexed\t".toList ++ (if resolved.indexed then "true".toList else "false".toList)]

/-- Puts a query. The output are its results and, if asked for, the patterns to highlight. -/
def queryOutput (world : World) (store : Store) (site : Site) (query : Query) (from? : Option Text)
    (highlight : Bool) : Except Text Text × Store × Site :=
  let machine := site.machine
  let file := from?.getD (fileInCurrent machine)
  let (results, store, site) :=
    (store.query world.programs machine.holds machine.currentPath file query site).value
  match results with
  | .error failure => (.error failure.message, store, site)
  | .ok results =>
      let patterns := if highlight then store.session.highlights.patterns else []
      (.ok (ofLines (results.map ResultLine.render) ++ ofLines patterns), store, site)

/-- Does what is asked for with an open store. The output is what is printed at once. -/
def perform (world : World) (task : Task) (store : Store) (site : Site) :
    Except Text Text × Store × Site :=
  let machine := site.machine
  let current := machine.currentPath
  let fileOf (file : Option Text) := file.getD (fileInCurrent machine)
  match task with
  | .resolve file =>
      let (resolved, store) := (store.resolve machine.holds current (fileOf file)).value
      (.ok (resolvedLines resolved), store, site)
  | .update file request _ =>
      let (queued, store) := (store.submitUpdate machine.holds current (fileOf file) request).value
      ((queued.mapError Failure.message).map fun _ => [], store, site)
  | .remove file _ =>
      let (queued, store) := (store.submitRemoval machine.holds current (fileOf file)).value
      ((queued.mapError Failure.message).map fun _ => [], store, site)
  | .query aim word file options highlight =>
      match modeOf aim word with
      | .error message => (.error message, store, site)
      | .ok mode =>
          world.queryOutput store site (store.newQuery current mode options) file highlight

/-- Whether the user agrees to a removal: on the command line or when asked. -/
def answer (world : World) : Task → Bool
  | .remove _ true => true
  | _ => agrees world.input

/-- Whether the user is asked before a removal. -/
def isAsked : Task → Bool
  | .remove _ agreed => !agreed
  | _ => true

/-- Opens the store, does what is asked for and waits for the jobs that were submitted. -/
def runStore (world : World) (settings : Settings) (task : Task) : Report :=
  match Store.openOn world.machine world.programs world.listers settings with
  | .error _ => world.fails "Failed to open tag store".toList
  | .ok (store, executor) =>
      let (result, store, site) :=
        world.perform task store (Site.ofMachine world.machine [])
      let (_, site, jobs) := store.stop.settleJobs executor site
        (Site.ofMachine world.machine [world.answer task])
      let asked := if isAsked task then jobs.questions.head? else none
      match result with
      | .ok output => ⟨0, output, none, asked, site.machine.files⟩
      | .error message => ⟨1, [], some message, asked, site.machine.files⟩

/-- Carries out what a command line asks for. -/
def carryOut (world : World) (invocation : Invocation) : Report :=
  match invocation.template, invocation.command with
  | some path, _ => world.writeTemplate path
  | none, none => world.fails "No command given. Run \x60tagdb --help\x60 for usage.".toList
  | none, some (.translate dialect pattern) =>
      succeeds (Pattern.toVim dialect pattern ++ ['\n']) world.machine.files
  | none, some (.onStore task) =>
      match world.settingsFor invocation task with
      | .error message => world.fails message
      | .ok settings => world.runStore settings task

/-- Runs the program with the words of a command line. -/
def run (world : World) (words : List Text) : Report :=
  match Invocation.read? words with
  | .error refusal => world.refuses refusal
  | .ok invocation => world.carryOut invocation

end World

end ProjectTags.Cli

/-!
## What a run looks at

The paths that a run may ask for, so that it can be given a machine that knows just these. They
follow from the command line and the settings: the settings files, the paths among the words, the
markers and databases of the directories above them, and the programs on the search path.
-/

namespace ProjectTags.Cli.World

/-- The settings files, and the words that may be paths. -/
def namedPaths (world : World) (words : List Text) : List Text :=
  Settings.usualFiles world.machine ++ words

/-- The settings that a run goes by. -/
def settingsOf (world : World) (words : List Text) : Settings :=
  match Invocation.read? words with
  | .ok ⟨template, file, stronger, some (.onStore task)⟩ =>
      match world.settingsFor ⟨template, file, stronger, none⟩ task with
      | .ok settings => settings
      | .error _ => .default
  | _ => .default

/-- The markers of a directory, and its database with what is asked for there. -/
def pathsOfRoot (world : World) (settings : Settings) (root : Text) : List Text :=
  let database := Database.location (settings.databaseRoot world.machine) root
  settings.placement.rootMarkers.map (Path.join root) ++
    [database, Path.join database Database.indexFile, Registry.path database]

/-- The programs that a run may start. -/
def programNames (settings : Settings) : List Text :=
  settings.indexing.indexer :: settings.indexing.queryProgram :: Lister.tools

/-- The paths on the search path at which programs may be. -/
def programPaths (world : World) (settings : Settings) : List Text :=
  let searched := (world.machine.environmentValue "PATH".toList).getD []
  (Text.pieces ':' searched).flatMap fun directory =>
    (programNames settings).map (Path.join directory)

/-- All paths that a run may ask for once the settings files are known. -/
def surveyed (world : World) (words : List Text) : List Text :=
  let settings := world.settingsOf words
  let current := world.machine.currentPath
  let files := fileInCurrent world.machine :: words ++ settings.indexing.libraryRoots
    world.machine.home
  let roots := files.flatMap fun file => Path.ancestors (Path.absolutize file current)
  programPaths world settings ++ roots ++ roots.flatMap (pathsOfRoot world settings)

end ProjectTags.Cli.World
