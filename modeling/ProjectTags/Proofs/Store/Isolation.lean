import ProjectTags.Proofs.Job.Isolation
import ProjectTags.Proofs.Job.WorkerRun
import ProjectTags.Proofs.Store.Sources

/-!
# Databases do not interfere

A store is asked for anything in any order, its worker carries out one job after the other, and
files come and go at any time. Whatever was resolved, the jobs that are taken are for the databases
of absolute roots; so each of them changes its own database and those of its libraries, and leaves
those of all other roots as they are.
-/

namespace ProjectTags

/-- The jobs that were taken and have not ended. -/
def Worker.pending (worker : Worker) : List Job :=
  worker.activity.job?.toList ++ worker.waiting

/-- What carrying out a job leaves as it is, if its databases are those of absolute roots. -/
structure Deed.Isolated (databases : Text) (deed : Deed) : Prop where
  encoded : deed.job.IsEncoded databases
  /-- Nothing changes outside of the databases of the job, but that they and the directories above
  them are made where they are missing. -/
  changesWithin : FileTree.ChangesWithin
    (Executor.Inside deed.before.machine.current deed.job.databases)
    (Executor.OnTheWay deed.before.machine.current deed.job.databases)
    deed.before.machine.files deed.after.machine.files
  /-- A removal leaves what is in the database of any other root. -/
  others : ∀ target, deed.job = .removal target → ∀ other, Path.isAbsolute other = true →
    other ≠ target.root → ∀ place,
      FileTree.destination deed.before.machine.current (Database.location databases other) <+:
          place →
        deed.after.machine.files.node? place = deed.before.machine.files.node? place
  declined : ∀ target, deed.job = .removal target → deed.before.answers.headD false = false →
    deed.ending = .failed (.declined target.database) ∧ deed.after.machine = deed.before.machine
  skipped : ∀ target file options reason, deed.job = .singleUpdate target file options →
    deed.ending = .done (.skipped reason) → deed.after.machine = deed.before.machine

namespace Store

/-- The project of a file and the libraries that it links to. -/
def targetsOf (store : Store) (present : Text → Bool) (current file : Text) : List Target :=
  store.primaryOf present current file :: store.libraries current

/-- What happens to a store and around it: the jobs that were carried out so far, and what has
become of the store and of the machine. Updates and removals are asked for with absolute roots. -/
inductive Run (executor : Executor) (rules : Root.Rules) (settings : StoreSettings) :
    List Deed → Store → Site → Prop where
  | start (machine : Machine) (answers : List Bool) :
      Run executor rules settings [] (ofRules rules settings) (.ofMachine machine answers)
  | resolved {deeds : List Deed} {store : Store} {site : Site}
      (run : Run executor rules settings deeds store site) (call : Root.Call) :
      Run executor rules settings deeds { store with resolver := store.resolver.after call } site
  | queried {deeds : List Deed} {store : Store} {site : Site}
      (run : Run executor rules settings deeds store site) (present : Text → Bool)
      (current file : Text) (query : Query) :
      Run executor rules settings deeds
        (store.query executor.programs present current file query site).value.2.1
        (store.query executor.programs present current file query site).value.2.2
  | updated {deeds : List Deed} {store : Store} {site : Site}
      (run : Run executor rules settings deeds store site) (present : Text → Bool)
      (current file : Text) (request : UpdateRequest)
      (rooted : ∀ target ∈ store.targetsOf present current file,
        Path.isAbsolute target.root = true) :
      Run executor rules settings deeds
        (store.submitUpdate present current file request).value.2 site
  | removed {deeds : List Deed} {store : Store} {site : Site}
      (run : Run executor rules settings deeds store site) (present : Text → Bool)
      (current file : Text)
      (rooted : Path.isAbsolute (store.primaryOf present current file).root = true) :
      Run executor rules settings deeds (store.submitRemoval present current file).value.2 site
  | received {deeds : List Deed} {store : Store} {site : Site} {worker : Worker}
      (run : Run executor rules settings deeds store site)
      (message : store.worker.receive? = some worker) :
      Run executor rules settings deeds { store with worker := worker } site
  | carriedOut {deeds : List Deed} {store : Store} {site after : Site} {job : Job}
      {ending : Ending} (run : Run executor rules settings deeds store site)
      (running : store.worker.activity = .running job)
      (did : executor.carryOut job site = (ending, after)) :
      Run executor rules settings (deeds ++ [⟨job, site, ending, after⟩])
        { store with worker := store.worker.finish job ending } after
  | stopped {deeds : List Deed} {store : Store} {site : Site}
      (run : Run executor rules settings deeds store site) :
      Run executor rules settings deeds store.stop site
  /-- Someone else changes files. -/
  | meanwhile {deeds : List Deed} {store : Store} {site : Site}
      (run : Run executor rules settings deeds store site) (files : FileTree) :
      Run executor rules settings deeds store (site.withFiles files)

variable {executor : Executor} {rules : Root.Rules} {settings : StoreSettings}
  {deeds : List Deed} {store : Store} {site : Site} {worker : Worker} {present : Text → Bool}
  {current file : Text} {jobs : List Job} {job : Job} {ending : Ending}

/-! ## The jobs of a store -/

/-- The jobs that a store holds are for databases of absolute roots. -/
structure Sound (rules : Root.Rules) (store : Store) : Prop where
  rules_eq : store.resolver.rules = rules
  encoded : ∀ job ∈ store.worker.pending, job.IsEncoded rules.databases

theorem Sound.congr {other : Store} (sound : Sound rules store)
    (sameRules : other.resolver.rules = store.resolver.rules)
    (sameWorker : other.worker = store.worker) : Sound rules other :=
  ⟨sameRules.trans sound.rules_eq, sameWorker ▸ sound.encoded⟩

theorem pending_submit {after : Worker} (answer : worker.submit job = .ok after) :
    after.pending = worker.pending ++ [job] := by
  rcases Worker.submit_eq_ok_iff.mp answer with ⟨_, _, rfl⟩
  simp [Worker.pending, Worker.waiting, Message.job?]

theorem Sound.submitAll (sound : Sound rules store)
    (encoded : ∀ job ∈ jobs, job.IsEncoded rules.databases) :
    Sound rules (submitAll jobs store).2 := by
  induction jobs generalizing store with
  | nil => exact sound
  | cons job others ih =>
      unfold Store.submitAll
      split
      · next worker answer =>
          apply ih _ fun other mem => encoded other (List.mem_cons_of_mem _ mem)
          refine ⟨sound.rules_eq, ?_⟩
          intro task mem
          rw [pending_submit answer] at mem
          rcases List.mem_append.mp mem with old | new
          · exact sound.encoded task old
          · rw [List.mem_singleton.mp new]
            exact encoded job (List.mem_cons_self ..)
      · exact sound

theorem Sound.submitCounted (sound : Sound rules store)
    (encoded : ∀ job ∈ jobs, job.IsEncoded rules.databases) :
    Sound rules (store.submitCounted jobs).2 :=
  sound.submitAll encoded

theorem Sound.resolve (sound : Sound rules store) (present : Text → Bool) (current file : Text) :
    Sound rules (store.resolve present current file).value.2 :=
  sound.congr (rules_resolve store present current file) rfl

theorem libraries_congr {other : Store} (sameRules : other.resolver.rules = store.resolver.rules)
    (sameSettings : other.settings = store.settings) (current : Text) :
    other.libraries current = store.libraries current := by
  simp only [libraries, sameSettings, Root.Resolver.absolute, Root.Resolver.base,
    Root.Resolver.databaseOf, sameRules]

/-- What an update or a removal is asked for has the database of its root. -/
theorem Sound.targetsOf (sound : Sound rules store)
    (rooted : ∀ target ∈ store.targetsOf present current file, Path.isAbsolute target.root = true) :
    ∀ target ∈ store.targetsOf present current file, target.IsEncoded rules.databases := by
  intro target mem
  refine ⟨rooted target mem, ?_⟩
  rw [← sound.rules_eq]
  rcases List.mem_cons.mp mem with rfl | mem
  · rfl
  · rcases List.mem_map.mp mem with ⟨path, _, rfl⟩
    rfl

theorem isEncoded_buildJobs {target : Target}
    (encoded : ∀ other ∈ target :: store.libraries current, other.IsEncoded rules.databases) :
    ∀ job ∈ store.buildJobs current target, job.IsEncoded rules.databases := by
  have own := encoded target (List.mem_cons_self ..)
  intro job mem
  rcases List.mem_append.mp mem with mem | mem
  · split at mem
    · cases mem
    · rw [List.mem_singleton.mp mem]
      exact ⟨⟨target.root, own.rooted, own.database_eq⟩, fun library mem =>
        encoded library (List.mem_cons_of_mem _ mem)⟩
  · rw [List.mem_singleton.mp mem]
    exact own

theorem Sound.submitUpdate (sound : Sound rules store)
    (rooted : ∀ target ∈ store.targetsOf present current file, Path.isAbsolute target.root = true)
    (request : UpdateRequest) :
    Sound rules (store.submitUpdate present current file request).value.2 := by
  have encoded := sound.targetsOf rooted
  have resolved := sound.resolve present current file
  have own := encoded _ (List.mem_cons_self ..)
  -- The libraries do not depend on what the resolver remembers.
  have build : ∀ other : Store, Sound rules other →
      other.resolver.rules = store.resolver.rules → other.settings = store.settings →
        Sound rules (other.submitCounted
          (other.buildJobs current (store.primaryOf present current file))).2 := by
    intro other otherSound sameRules sameSettings
    apply otherSound.submitCounted
    apply isEncoded_buildJobs
    rw [libraries_congr sameRules sameSettings]
    exact encoded
  have sameRules := rules_resolve store present current file
  unfold Store.submitUpdate
  split
  · exact sound
  · cases request with
    | single =>
        simp only [Probed.value_bind]
        split
        · apply resolved.submitCounted
          intro job mem
          rw [List.mem_singleton.mp mem]
          exact own
        · exact resolved
    | build => exact build _ resolved sameRules rfl
    | automatic =>
        simp only [Probed.value_bind]
        split
        · exact resolved
        · simp only [Probed.value_bind]
          have sameAfter := Root.Resolver.rules_after
            (store.resolve present current file).value.2.resolver
            ⟨.marked, present, current, file⟩
          split
          · exact build _ (resolved.congr sameAfter rfl) (sameAfter.trans sameRules) rfl
          · exact resolved.congr sameAfter rfl

theorem Sound.submitRemoval (sound : Sound rules store)
    (rooted : Path.isAbsolute (store.primaryOf present current file).root = true) :
    Sound rules (store.submitRemoval present current file).value.2 := by
  apply (sound.resolve present current file).submitAll
  intro job mem
  rw [List.mem_singleton.mp mem]
  refine ⟨rooted, ?_⟩
  rw [← sound.rules_eq]
  rfl

theorem Sound.received (sound : Sound rules store)
    (message : store.worker.receive? = some worker) :
    Sound rules { store with worker := worker } := by
  refine ⟨sound.rules_eq, ?_⟩
  intro job mem
  apply sound.encoded
  rcases Worker.receive?_cases message with
    ⟨_, ⟨first, others, mailbox, rfl⟩ | ⟨others, mailbox, rfl⟩ | ⟨mailbox, _, rfl⟩⟩
  · simpa [Worker.pending, Worker.waiting, mailbox, Message.job?, Activity.job?, *] using mem
  · simp [Worker.pending, Worker.waiting, Activity.job?] at mem
  · simp [Worker.pending, Worker.waiting, mailbox, Activity.job?] at mem

theorem Sound.finish (sound : Sound rules store) (job : Job) (ending : Ending) :
    Sound rules { store with worker := store.worker.finish job ending } := by
  refine ⟨sound.rules_eq, ?_⟩
  intro task mem
  exact sound.encoded task (List.mem_append_right _ mem)

theorem Sound.stop (sound : Sound rules store) : Sound rules store.stop := by
  refine ⟨sound.rules_eq, ?_⟩
  intro job mem
  apply sound.encoded
  simp only [Store.stop, Worker.stop, Worker.send] at mem
  split at mem
  · split at mem
    · exact mem
    · simpa [Worker.pending, Worker.waiting, List.filterMap_cons, Message.job?] using mem
  · exact mem

theorem Sound.query (sound : Sound rules store) (present : Text → Bool) (current file : Text)
    (query : Query) (site : Site) :
    Sound rules (store.query executor.programs present current file query site).value.2.1 := by
  have asked : Sound rules (store.afterQuery present site.machine current file query) := by
    rw [afterQuery_eq]
    exact sound.resolve present current file
  unfold Store.query
  simp only [Probed.value_bind]
  split
  · exact asked
  · exact asked.congr rfl rfl

theorem Run.carriesOut (run : Run executor rules settings deeds store site)
    (running : store.worker.activity = .running job) :
    Run executor rules settings
      (deeds ++ [⟨job, site, (executor.carryOut job site).1, (executor.carryOut job site).2⟩])
      { store with worker := store.worker.finish job (executor.carryOut job site).1 }
      (executor.carryOut job site).2 :=
  run.carriedOut running rfl

theorem Run.sound (run : Run executor rules settings deeds store site) : Sound rules store := by
  induction run with
  | start => exact ⟨rfl, by simp [ofRules, Worker.pending, Worker.waiting, Worker.idle, Activity.job?]⟩
  | resolved _ call ih => exact ih.congr (Root.Resolver.rules_after _ call) rfl
  | queried _ present current file query ih => exact ih.query present current file query _
  | updated _ present current file request rooted ih => exact ih.submitUpdate rooted request
  | removed _ present current file rooted ih => exact ih.submitRemoval rooted
  | received _ message ih => exact ih.received message
  | carriedOut _ _ _ ih => exact ih.finish _ _
  | stopped _ ih => exact ih.stop
  | meanwhile _ _ ih => exact ih

/-! ## What the jobs change -/

theorem isolated_of_carryOut {databases : Text} {after : Site} (confined : executor.Confined)
    (encoded : job.IsEncoded databases) (did : executor.carryOut job site = (ending, after)) :
    Deed.Isolated databases ⟨job, site, ending, after⟩ where
  encoded := encoded
  changesWithin := by
    have changes := Executor.execute_changesWithin site confined encoded
    rw [← Executor.machine_carryOut, did] at changes
    exact changes
  others := by
    rintro target rfl other otherRooted different place inside
    have machine := Executor.machine_carryOut executor (.removal target) site
    rw [did] at machine
    change after.machine.files.node? place = _
    rw [machine, Executor.execute, Executor.files_removal]
    exact Executor.removal_keeps site encoded otherRooted different inside
  declined := by
    rintro target rfl refused
    have ended := Executor.ending_carryOut executor (.removal target) site
    have machine := Executor.machine_carryOut executor (.removal target) site
    rw [did] at ended machine
    simp only [Executor.execute, Executor.removal_of_refused refused] at ended machine
    exact ⟨ended, machine⟩
  skipped := by
    rintro target file options reason rfl rfl
    have ended := Executor.ending_carryOut executor (.singleUpdate target file options) site
    have machine := Executor.machine_carryOut executor (.singleUpdate target file options) site
    rw [did] at ended machine
    simp only at ended
    split at ended
    · next outcome result =>
        cases ended
        rw [Executor.execute] at result machine
        rw [Executor.singleUpdate_of_skipped result] at machine
        exact machine
    · cases ended

/-- Whatever a run is made of, each job changes the databases that it is for and nothing else, but
that missing directories above them are made. The removal of one database leaves all others as they
are, and a removal that is declined and an update that is skipped change nothing. -/
theorem Run.isolates (confined : executor.Confined)
    (run : Run executor rules settings deeds store site) :
    ∀ deed ∈ deeds, deed.Isolated rules.databases := by
  induction run with
  | start => simp
  | carriedOut run running did ih =>
      -- The job was pending until now.
      have encoded := run.sound.encoded _
        (List.mem_append_left _ (by rw [running]; exact List.mem_singleton_self _))
      intro deed mem
      rcases List.mem_append.mp mem with earlier | last
      · exact ih deed earlier
      · rw [List.mem_singleton.mp last]
        exact isolated_of_carryOut confined encoded did
  | _ => assumption

/-- The roots `/x` and `/y` are indexed, and the database of `/y` is removed. -/
theorem isolates_two_roots :
    let rules : Root.Rules := ⟨[['m']], ['/', 'd'], none⟩
    let executor : Executor := ⟨Executor.writingIndex, ['i'], none⟩
    let target := fun root : Text => (⟨root, Database.location ['/', 'd'] root⟩ : Target)
    ∃ deeds store site,
      Run executor rules ⟨.default, [], ['g']⟩ deeds store site ∧
        deeds.map (·.job) = [.fullBuild (target ['/', 'x']) .default,
          .fullBuild (target ['/', 'y']) .default, .removal (target ['/', 'y'])] ∧
        site.machine.files.node? [['d'], ['%', 'x'], Database.indexFile] =
          some (.file [] false) ∧
        ∀ deed ∈ deeds, deed.Isolated rules.databases := by
  intro rules executor target
  let present : Text → Bool := fun path =>
    path = ['/', 'x', '/', 'm'] || path = ['/', 'y', '/', 'm']
  let buildX : Job := .fullBuild (target ['/', 'x']) .default
  let buildY : Job := .fullBuild (target ['/', 'y']) .default
  let removeY : Job := .removal (target ['/', 'y'])
  have run : Run executor rules ⟨.default, [], ['g']⟩ [] _ _ := .start ⟨.empty, [], []⟩ [true]
  replace run := run.updated present ['/'] ['/', 'x', '/', 'f'] .build (by decide +kernel)
  replace run := @Run.received _ _ _ _ _ _ ⟨true, [], .running buildX, []⟩ run (by decide +kernel)
  replace run := @Run.carriesOut _ _ _ _ _ _ buildX run rfl
  replace run := run.updated present ['/'] ['/', 'y', '/', 'f'] .build (by decide +kernel)
  replace run := @Run.received _ _ _ _ _ _
    ⟨true, [], .running buildY, [(buildX, .done .completed)]⟩ run (by decide +kernel)
  replace run := @Run.carriesOut _ _ _ _ _ _ buildY run rfl
  replace run := run.removed present ['/'] ['/', 'y', '/', 'f'] (by decide +kernel)
  replace run := @Run.received _ _ _ _ _ _
    ⟨true, [], .running removeY, [(buildX, .done .completed), (buildY, .done .completed)]⟩ run
    (by decide +kernel)
  replace run := @Run.carriesOut _ _ _ _ _ _ removeY run rfl
  exact ⟨_, _, _, run, by rfl, by decide +kernel,
    run.isolates (Executor.confined_writingIndex ['i'])⟩

end Store

end ProjectTags
