import ProjectTags.Proofs.Job.WorkerRun
import ProjectTags.Proofs.Store.Sources

/-!
# What requests for updates do

A request for an update comes to a store in any state that calls of any clients and the steps of
the worker can bring about. The file is resolved, and what is known about its project then decides
which jobs are called for. They are sent to the worker one behind the other, and the answer is
their number. A store that was stopped takes none of them: the first one is refused, and a request
that calls for no job is answered as before.

What carries this is that a store which was not stopped has a worker that takes every job. The
worker of a store goes through a run, so that is what is known about runs already.
-/

namespace ProjectTags

/-- A worker to which some more jobs were sent. -/
def Worker.sent (worker : Worker) (jobs : List Job) : Worker :=
  { worker with mailbox := worker.mailbox ++ jobs.map .job }

@[simp]
theorem Worker.sent_nil (worker : Worker) : worker.sent [] = worker := by
  simp [Worker.sent]

theorem Worker.sent_sent (worker : Worker) (first second : List Job) :
    (worker.sent first).sent second = worker.sent (first ++ second) := by
  simp [Worker.sent]

/-- The jobs that are sent come behind all that were taken before. -/
theorem Worker.accepted_sent (worker : Worker) (jobs : List Job) :
    (worker.sent jobs).accepted = worker.accepted ++ jobs := by
  have messages : (jobs.map Message.job).filterMap Message.job? = jobs := by
    rw [List.filterMap_map]
    exact List.filterMap_some
  simp [Worker.sent, Worker.accepted, Worker.begun, Worker.waiting, messages]

namespace Store

/-- The states that a store can come to, and whether it has not been stopped. Each operation of a
store is made of these steps, and those of several clients may come in any order; files may come
and go between any two of them. -/
inductive Life (rules : Root.Rules) (settings : StoreSettings) : Bool → Store → Prop where
  | opened : Life rules settings true (ofRules rules settings)
  | resolved {running : Bool} {store : Store} (life : Life rules settings running store)
      (call : Root.Call) :
      Life rules settings running { store with resolver := store.resolver.after call }
  | submitted {running : Bool} {store : Store} {worker : Worker} {job : Job}
      (life : Life rules settings running store) (answer : store.worker.submit job = .ok worker) :
      Life rules settings running { store with worker := worker }
  /-- Queries begin and end. -/
  | queried {running : Bool} {store : Store} (life : Life rules settings running store)
      (session : Session) : Life rules settings running { store with session := session }
  | received {running : Bool} {store : Store} {worker : Worker}
      (life : Life rules settings running store) (message : store.worker.receive? = some worker) :
      Life rules settings running { store with worker := worker }
  | ended {running : Bool} {store : Store} {job : Job} (life : Life rules settings running store)
      (busy : store.worker.activity = .running job) (ending : Ending) :
      Life rules settings running { store with worker := store.worker.finish job ending }
  | stopped {running : Bool} {store : Store} (life : Life rules settings running store) :
      Life rules settings false store.stop

variable {rules : Root.Rules} {settings : StoreSettings} {running : Bool} {store : Store}
  {worker : Worker} {present : Text → Bool} {current file : Text} {request : UpdateRequest}
  {jobs : List Job}

/-! ## The operations of a store -/

theorem Life.submitAll (life : Life rules settings running store) (jobs : List Job) :
    Life rules settings running (submitAll jobs store).2 := by
  induction jobs generalizing store with
  | nil => exact life
  | cons job others ih =>
      unfold Store.submitAll
      split
      · next worker answer => exact ih (life.submitted answer)
      · exact life

theorem Life.submitCounted (life : Life rules settings running store) (jobs : List Job) :
    Life rules settings running (store.submitCounted jobs).2 :=
  life.submitAll jobs

theorem Life.resolve (life : Life rules settings running store) (present : Text → Bool)
    (current file : Text) :
    Life rules settings running (store.resolve present current file).value.2 :=
  life.resolved ⟨.project, present, current, file⟩

theorem Life.submitUpdate (life : Life rules settings running store) (present : Text → Bool)
    (current file : Text) (request : UpdateRequest) :
    Life rules settings running (store.submitUpdate present current file request).value.2 := by
  have resolved := life.resolve present current file
  unfold Store.submitUpdate
  split
  · exact life
  · cases request with
    | single =>
        simp only [Probed.value_bind]
        split
        · exact resolved.submitCounted _
        · exact resolved
    | build => exact resolved.submitCounted _
    | automatic =>
        have marked := resolved.resolved ⟨.marked, present, current, file⟩
        simp only [Probed.value_bind]
        split
        · exact resolved
        · simp only [Probed.value_bind]
          split
          · exact marked.submitCounted _
          · exact marked

theorem Life.submitRemoval (life : Life rules settings running store) (present : Text → Bool)
    (current file : Text) :
    Life rules settings running (store.submitRemoval present current file).value.2 :=
  (life.resolve present current file).submitAll _

theorem Life.query (life : Life rules settings running store) (programs : Programs)
    (present : Text → Bool) (current file : Text) (query : Query) (site : Site) :
    Life rules settings running
      (store.query programs present current file query site).value.2.1 := by
  have asked : Life rules settings running
      (store.afterQuery present site.machine current file query) := by
    rw [afterQuery_eq]
    exact life.resolve present current file
  unfold Store.query
  simp only [Probed.value_bind]
  split
  · exact asked
  · exact asked.queried _

/-! ## The worker of a store -/

/-- A store goes by the rules and settings that it was opened with. -/
theorem Life.settled (life : Life rules settings running store) :
    store.resolver.rules = rules ∧ store.settings = settings := by
  induction life with
  | opened => exact ⟨rfl, rfl⟩
  | resolved _ call ih => exact ⟨(Root.Resolver.rules_after _ call).trans ih.1, ih.2⟩
  | submitted _ _ ih => exact ih
  | queried _ _ ih => exact ih
  | received _ _ ih => exact ih
  | ended _ _ _ ih => exact ih
  | stopped _ ih => exact ih

/-- The worker goes through a run, in which it is told to stop when the store is stopped. -/
theorem Life.workerRun (life : Life rules settings running store) :
    ∃ trace, Worker.Run trace store.worker ∧ (running = true ↔ .stopCalled ∉ trace) := by
  induction life with
  | opened => exact ⟨[], .idle, by simp⟩
  | resolved _ _ ih => exact ih
  | queried _ _ ih => exact ih
  | submitted _ answer ih =>
      rcases ih with ⟨trace, run, told⟩
      exact ⟨_, run.step (.accepted 0 _ answer), by simpa using told⟩
  | received _ message ih =>
      rcases ih with ⟨trace, run, told⟩
      rcases Worker.receive?_cases message with
        ⟨_, ⟨job, others, _, rfl⟩ | ⟨others, _, rfl⟩ | ⟨_, _, rfl⟩⟩
      · exact ⟨_, run.step (.started message rfl), by simpa using told⟩
      · exact ⟨_, run.step (.left message rfl), by simpa using told⟩
      · exact ⟨_, run.step (.left message rfl), by simpa using told⟩
  | ended _ busy ending ih =>
      rcases ih with ⟨trace, run, told⟩
      exact ⟨_, run.step (.ended ending busy), by simpa using told⟩
  | stopped _ ih =>
      rcases ih with ⟨trace, run, _⟩
      exact ⟨_, run.step (.stopCalled _), by simp⟩

/-- Until the store is stopped, its worker takes jobs. -/
theorem Life.takes (life : Life rules settings true store) :
    store.worker.accepting = true ∧ store.worker.activity ≠ .ended := by
  rcases life.workerRun with ⟨trace, run, told⟩
  have accepting := run.balanced.accepting.mpr (told.mp rfl)
  exact ⟨accepting, run.balanced.going accepting⟩

theorem Life.closed (life : Life rules settings false store) : store.worker.accepting = false := by
  rcases life.workerRun with ⟨trace, run, told⟩
  apply run.balanced.closed
  by_contra untold
  exact Bool.noConfusion (told.mpr untold)

/-! ## Sending jobs -/

/-- What becomes of some jobs that are sent to a worker: it takes them all, or the store was stopped
before and it takes none. -/
structure Sent (running : Bool) (worker : Worker) (jobs : List Job)
    (answer : Except Failure Nat × Store) : Prop where
  taken : running = true →
    answer.1 = .ok jobs.length ∧ answer.2.worker = worker.sent jobs ∧
      answer.2.worker.accepted = worker.accepted ++ jobs
  refused : running = false →
    answer.1 = (if jobs = [] then .ok 0 else .error .stopped) ∧ answer.2.worker = worker

theorem submitAll_of_open (jobs : List Job) (accepting : store.worker.accepting = true)
    (going : store.worker.activity ≠ .ended) :
    Store.submitAll jobs store = (.ok (), { store with worker := store.worker.sent jobs }) := by
  induction jobs generalizing store with
  | nil => simp [Store.submitAll]
  | cons job others ih =>
      have answer : store.worker.submit job = .ok (store.worker.sent [job]) :=
        Worker.submit_eq_ok_iff.mpr ⟨accepting, going, rfl⟩
      have rest := @ih { store with worker := store.worker.sent [job] } accepting going
      rw [Store.submitAll, answer]
      simpa [Worker.sent_sent] using rest

theorem submitAll_of_closed {job : Job} {others : List Job}
    (closed : store.worker.accepting = false) :
    Store.submitAll (job :: others) store = (.error .stopped, store) := by
  have answer : store.worker.submit job = .error .stopped := by simp [Worker.submit, closed]
  rw [Store.submitAll, answer]

theorem submitCounted_nil (store : Store) : store.submitCounted [] = (.ok 0, store) := rfl

theorem Life.sends (life : Life rules settings running store) (jobs : List Job) :
    Sent running store.worker jobs (store.submitCounted jobs) where
  taken := by
    rintro rfl
    rw [Store.submitCounted, submitAll_of_open jobs life.takes.1 life.takes.2]
    exact ⟨rfl, rfl, Worker.accepted_sent _ _⟩
  refused := by
    rintro rfl
    cases jobs with
    | nil => exact ⟨rfl, rfl⟩
    | cons job others =>
        rw [Store.submitCounted, submitAll_of_closed life.closed]
        exact ⟨rfl, rfl⟩

/-! ## Requests -/

/-- The libraries that some settings name, each with the database of its root. -/
def configuredLibraries (rules : Root.Rules) (settings : StoreSettings) (current : Text) :
    List Target :=
  settings.libraryPaths.map fun path =>
    let root := Path.absolutize path (rules.workingDirectory.getD current)
    ⟨root, Database.location rules.databases root⟩

/-- The jobs that build a project. That for its libraries comes first, if there are any. -/
def projectJobs (rules : Root.Rules) (settings : StoreSettings) (current : Text)
    (target : Target) : List Job :=
  (if settings.libraryPaths = [] then []
    else [.libraryBuild target.database (configuredLibraries rules settings current)
      settings.indexerOptions]) ++ [.fullBuild target settings.indexerOptions]

/-- Whether the database of a file is there. -/
def indexed (store : Store) (present : Text → Bool) (current file : Text) : Bool :=
  (store.resolve present current file).value.1.indexed

/-- Whether a file that has just been resolved is under a root with a marker. -/
def marked (store : Store) (present : Text → Bool) (current file : Text) : Bool :=
  ((store.resolve present current file).value.2.resolver.isUnderMarker present current file).value.1

/-- The jobs that a request calls for. One for a file needs a database that is there; one that is
made on its own builds only where a marker is and no database. -/
def calledFor (rules : Root.Rules) (settings : StoreSettings) (store : Store)
    (present : Text → Bool) (current file : Text) (request : UpdateRequest) : List Job :=
  let target := store.primaryOf present current file
  if file = [] then []
  else
    match request with
    | .single =>
        if store.indexed present current file then
          [.singleUpdate target file settings.indexerOptions]
        else []
    | .build => projectJobs rules settings current target
    | .automatic =>
        if store.indexed present current file = false ∧ store.marked present current file then
          projectJobs rules settings current target
        else []

/-- What comes of a request that calls for some jobs. -/
structure Obeys (running : Bool) (store : Store) (present : Text → Bool) (current file : Text)
    (request : UpdateRequest) (jobs : List Job) : Prop where
  /-- Without a file no path is asked for and nothing changes. -/
  nameless : file = [] → store.submitUpdate present current file request = pure (.ok 0, store)
  /-- All jobs are for the database that the file was resolved to. -/
  database : ∀ job ∈ jobs, job.database = (store.primaryOf present current file).database
  sent : Sent running store.worker jobs (store.submitUpdate present current file request).value

theorem Life.libraries (life : Life rules settings running store) (current : Text) :
    store.libraries current = configuredLibraries rules settings current := by
  rcases life.settled with ⟨sameRules, sameSettings⟩
  simp only [Store.libraries, configuredLibraries, sameSettings, Root.Resolver.absolute,
    Root.Resolver.base, Root.Resolver.databaseOf, sameRules]

theorem Life.buildJobs (life : Life rules settings running store) (current : Text)
    (target : Target) :
    store.buildJobs current target = projectJobs rules settings current target := by
  have none : (configuredLibraries rules settings current).isEmpty = true ↔
      settings.libraryPaths = [] := by
    simp [configuredLibraries]
  simp only [Store.buildJobs, projectJobs, life.libraries, life.settled.2, none]

/-- Whatever is asked for, the jobs that it calls for are submitted to the worker as it was. -/
theorem Life.exists_submitCounted (life : Life rules settings running store)
    (present : Text → Bool) (current file : Text) (request : UpdateRequest) :
    ∃ after, Life rules settings running after ∧ after.worker = store.worker ∧
      (store.submitUpdate present current file request).value =
        after.submitCounted (calledFor rules settings store present current file request) := by
  by_cases nameless : file = []
  · subst nameless
    exact ⟨store, life, rfl, rfl⟩
  · have named : file.isEmpty = false := by simpa using nameless
    have resolved := life.resolve present current file
    simp only [Store.submitUpdate, calledFor, named, nameless, Bool.false_eq_true, if_false,
      Probed.value_bind]
    cases request with
    | single =>
        refine ⟨_, resolved, rfl, ?_⟩
        cases there : (store.resolve present current file).value.1.indexed with
        | true => simp [indexed, primaryOf, there, resolved.settled.2]
        | false => simp [indexed, there, submitCounted_nil]
    | build =>
        refine ⟨_, resolved, rfl, ?_⟩
        rw [resolved.buildJobs]
        rfl
    | automatic =>
        cases there : (store.resolve present current file).value.1.indexed with
        | true => exact ⟨_, resolved, rfl, by simp [indexed, there, submitCounted_nil]⟩
        | false =>
            have asked := resolved.resolved ⟨.marked, present, current, file⟩
            refine ⟨_, asked, rfl, ?_⟩
            have builds := asked.buildJobs current (store.primaryOf present current file)
            cases under : store.marked present current file with
            | true =>
                have answer := under
                unfold marked at answer
                simp only [Bool.false_eq_true, if_false, Probed.value_bind, answer, if_true,
                  indexed, there, and_self, ← builds]
                rfl
            | false =>
                have answer := under
                unfold marked at answer
                simp only [Bool.false_eq_true, if_false, Probed.value_bind, answer, indexed, there,
                  and_false, submitCounted_nil]
                rfl

theorem database_projectJobs (target : Target) :
    ∀ job ∈ projectJobs rules settings current target, job.database = target.database := by
  intro job mem
  rcases List.mem_append.mp mem with library | own
  · split at library
    · cases library
    · rw [List.mem_singleton.mp library]
      rfl
  · rw [List.mem_singleton.mp own]
    rfl

theorem database_calledFor :
    ∀ job ∈ calledFor rules settings store present current file request,
      job.database = (store.primaryOf present current file).database := by
  intro job mem
  unfold calledFor at mem
  split at mem
  · cases mem
  · cases request with
    | single =>
        simp only at mem
        split at mem
        · rw [List.mem_singleton.mp mem]
          rfl
        · cases mem
    | build => exact database_projectJobs _ job mem
    | automatic =>
        simp only at mem
        split at mem
        · exact database_projectJobs _ job mem
        · cases mem

/-- In every state of a store, with any files there: a request is answered with the number of the
jobs that it calls for, and these are what the worker is sent. A store that was stopped refuses a
request that calls for any. -/
theorem Life.answers_update (life : Life rules settings running store) (present : Text → Bool)
    (current file : Text) (request : UpdateRequest) :
    Obeys running store present current file request
      (calledFor rules settings store present current file request) where
  nameless := by
    rintro rfl
    rfl
  database := database_calledFor
  sent := by
    rcases life.exists_submitCounted present current file request with
      ⟨after, afterLife, sameWorker, value⟩
    rw [value, ← sameWorker]
    exact afterLife.sends _

/-- The new project `/q` is opened while `/p` is waiting to be built, and once more after the store
was stopped. The library `l` is taken from the working directory. -/
theorem answers_new_project :
    let rules : Root.Rules := ⟨[['m']], ['/', 'd'], some ['/', 'w']⟩
    let settings : StoreSettings := ⟨.default, [['l']], ['g']⟩
    let present : Text → Bool := fun path =>
      path = ['/', 'p', '/', 'm'] || path = ['/', 'q', '/', 'm']
    let file : Text := ['/', 'q', '/', 'y']
    let store := ((ofRules rules settings).submitUpdate present ['/'] ['/', 'p', '/', 'x']
      .build).value.2
    let target : Target := ⟨['/', 'q'], ['/', 'd', '/', '%', 'q']⟩
    let library : Target := ⟨['/', 'w', '/', 'l'], ['/', 'd', '/', '%', 'w', '%', 'l']⟩
    let jobs : List Job :=
      [.libraryBuild target.database [library] .default, .fullBuild target .default]
    store.worker.waiting.length = 2 ∧ Obeys true store present ['/'] file .automatic jobs ∧
      Obeys false store.stop present ['/'] file .automatic jobs := by
  intro rules settings present file store target library jobs
  have life : Life rules settings true store := Life.opened.submitUpdate _ _ _ _
  have called : calledFor rules settings store present ['/'] file .automatic = jobs := by
    decide +kernel
  have calledLate : calledFor rules settings store.stop present ['/'] file .automatic = jobs := by
    decide +kernel
  refine ⟨by decide +kernel, ?_, ?_⟩
  · rw [← called]
    exact life.answers_update present ['/'] file .automatic
  · rw [← calledLate]
    exact life.stopped.answers_update present ['/'] file .automatic

end Store

end ProjectTags
