import ProjectTags.Job.Execution
import ProjectTags.Registry.Lookup
import ProjectTags.Settings.Basic

/-!
# The tag store

The store is what a user works with. It resolves files to projects, turns requests for updates
into jobs for the worker, and puts queries to the databases of a project and its libraries.

Every operation takes the function that tells which paths are there, and the current directory.
-/

namespace ProjectTags

/-- Why an update is asked for. -/
inductive UpdateRequest where
  /-- The database is to be built. -/
  | build
  /-- A file was changed. -/
  | single
  /-- A file was opened: a project with a marker and without a database gets one. -/
  | automatic
  deriving DecidableEq, Repr

/-- The settings of a store. -/
structure StoreSettings where
  indexerOptions : IndexerOptions
  /-- The roots of the libraries that every project links to. -/
  libraryPaths : List Text
  /-- The search tool. -/
  queryProgram : Text
  deriving DecidableEq, Repr

/-- A store with its resolver, its worker and its queries. -/
structure Store where
  settings : StoreSettings
  resolver : Root.Resolver
  worker : Worker
  session : Session

namespace Store

/-- A store at its beginning. -/
def ofRules (rules : Root.Rules) (settings : StoreSettings) : Store :=
  ⟨settings, .fresh rules, .idle, .empty⟩

/-- What is told when a store is ready. -/
def readyEvent (store : Store) : Event :=
  .storeReady store.resolver.rules.databases store.settings.libraryPaths.length

/-- The project of a file. -/
def resolve (store : Store) (present : Text → Bool) (current file : Text) :
    Probed (Root.Resolved × Store) := do
  let (resolved, resolver) ← store.resolver.resolve present current file
  return (resolved, { store with resolver := resolver })

/-- The libraries that every project links to. -/
def libraries (store : Store) (current : Text) : List Target :=
  store.settings.libraryPaths.map fun path =>
    let root := store.resolver.absolute current path
    ⟨root, store.resolver.databaseOf root⟩

/-- Submits some jobs, up to the first that is not taken. -/
def submitAll : List Job → Store → Except Failure Unit × Store
  | [], store => (.ok (), store)
  | job :: others, store =>
      match store.worker.submit job with
      | .ok worker => submitAll others { store with worker := worker }
      | .error failure => (.error failure, store)

/-- Submits some jobs and says how many there were. -/
def submitCounted (store : Store) (jobs : List Job) : Except Failure Nat × Store :=
  let (result, after) := submitAll jobs store
  (result.map fun _ => jobs.length, after)

/-- The jobs that build the database of a project, that of its libraries before. -/
def buildJobs (store : Store) (current : Text) (target : Target) : List Job :=
  let options := store.settings.indexerOptions
  let libraries := store.libraries current
  (if libraries.isEmpty then [] else [.libraryBuild target.database libraries options]) ++
    [.fullBuild target options]

/-- Submits the jobs that a request calls for and says how many there were. -/
def submitUpdate (store : Store) (present : Text → Bool) (current file : Text)
    (request : UpdateRequest) : Probed (Except Failure Nat × Store) := do
  if file.isEmpty then return (.ok 0, store)
  else
    let (resolved, store) ← store.resolve present current file
    let target : Target := ⟨resolved.root, resolved.database⟩
    match request with
    | .single =>
        if resolved.indexed then
          return store.submitCounted [.singleUpdate target file store.settings.indexerOptions]
        else return (.ok 0, store)
    | .build => return store.submitCounted (store.buildJobs current target)
    | .automatic =>
        if resolved.indexed then return (.ok 0, store)
        else
          let (marked, resolver) ← store.resolver.isUnderMarker present current file
          let store := { store with resolver := resolver }
          if marked then return store.submitCounted (store.buildJobs current target)
          else return (.ok 0, store)

/-- Submits the removal of the database of a file. -/
def submitRemoval (store : Store) (present : Text → Bool) (current file : Text) :
    Probed (Except Failure Unit × Store) := do
  let (resolved, store) ← store.resolve present current file
  return submitAll [.removal ⟨resolved.root, resolved.database⟩] store

/-- A query with the settings of the store. -/
def newQuery (store : Store) (current : Text) (mode : Query.Mode) (options : Query.Options) :
    Query :=
  Query.scopedFrom current
    ⟨store.settings.queryProgram, store.settings.indexerOptions.configuration,
      store.settings.indexerOptions.label, mode, options⟩

/-- The databases to which a query is put when it is asked from a file: the one database of the
file for the tags of files, and else those of the project and all its libraries. -/
def querySources (store : Store) (present : Text → Bool) (machine : Machine) (current file : Text)
    (query : Query) : Probed ((Except Failure (List Query.Source) × List Event) × Store) := do
  let (resolved, store) ← store.resolve present current file
  let primary : Target := ⟨resolved.root, resolved.database⟩
  match query.mode with
  | .fileTags _ =>
      let (found, events) := store.resolver.across machine current file primary
      return ((found.map fun target => [⟨target, false⟩], events), store)
  | _ =>
      let (entries, events) := Registry.validEntries machine primary.database
      return ((entries.map fun targets =>
        ⟨primary, false⟩ :: targets.map fun target => ⟨target, true⟩, events), store)

/-- Puts a query to the databases of a file. -/
def query (store : Store) (programs : Programs) (present : Text → Bool) (current file : Text)
    (query : Query) (site : Site) :
    Probed (Except Failure (List ResultLine) × Store × Site) := do
  let ((sources, events), store) ← store.querySources present site.machine current file query
  let site := events.foldl Site.tell site
  match sources with
  | .error failure => return (.error failure, store, site)
  | .ok sources =>
      let (result, session, site) := store.session.run programs query sources site
      return (result, { store with session := session }, site)

/-- Ends all queries and takes no more jobs. The jobs that were taken are still carried out. -/
def stop (store : Store) : Store :=
  { store with session := store.session.cleanup.2, worker := store.worker.stop }

/-- Carries out the jobs that are waiting. -/
def drain {State : Type} (carryOut : Job → State → Ending × State) (store : Store)
    (state : State) : Store × State :=
  let (worker, after) := store.worker.drain carryOut state
  ({ store with worker := worker }, after)

end Store

end ProjectTags

/-!
## Opening a store

The store that settings ask for, together with what carries out its jobs. The jobs work on the same
files as the store; `settleJobs` carries out those that are waiting and tells of them apart from
what the store tells.
-/

namespace ProjectTags.Store

/-- What a store takes from settings. -/
def settingsFrom (settings : Settings) (home : Text) : StoreSettings :=
  ⟨settings.indexing.indexerOptions home, settings.indexing.libraryRoots home,
    settings.indexing.queryProgram⟩

/-- How roots and databases are found. -/
def rulesFrom (settings : Settings) (machine : Machine) : Root.Rules :=
  ⟨settings.placement.rootMarkers, settings.databaseRoot machine, none⟩

/-- The store that settings ask for and what carries out its jobs, on a machine that has some
programs and listing tools. -/
def openOn (machine : Machine) (programs : Programs) (listers : List Text) (settings : Settings) :
    Except Failure (Store × Executor) := do
  let lister ← Lister.ofSettings settings.listing listers
  return (ofRules (rulesFrom settings machine) (settingsFrom settings machine.home),
    ⟨programs, settings.indexing.indexer, some lister⟩)

/-- Carries out the jobs that are waiting, on the files of the store. The site of the jobs keeps
what they tell and ask. -/
def settleJobs (store : Store) (executor : Executor) (site jobSite : Site) :
    Store × Site × Site :=
  let (store, jobSite) := store.drain executor.carryOut (jobSite.withFiles site.machine.files)
  (store, site.withFiles jobSite.machine.files, jobSite)

end ProjectTags.Store
