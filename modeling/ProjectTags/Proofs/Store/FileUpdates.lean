import ProjectTags.Proofs.Job.Acts
import ProjectTags.Proofs.Path.Spelling
import ProjectTags.Proofs.Store.Requests

/-!
# Updates of single files

A request for one file resolves the file from the working directory and then hands its name to the
indexer as it was given. The indexer runs in the root that was found. An absolute name is the same
there, but a relative one leads from the root to another file, unless it climbs so far that the
root and the working directory no longer differ.
-/

namespace ProjectTags

/-- The file that the indexer is told to bring up to date, from the directory in which it runs. -/
def CommandLine.updatedFile? (line : CommandLine) : Option Text :=
  line.directory.bind fun directory =>
    line.arguments.dropLast.getLast?.map fun file => Path.absolutize file directory

theorem CommandLine.updatedFile?_singleUpdate (indexer : Text) (target : Target) (file : Text)
    (options : IndexerOptions) :
    (singleUpdate indexer target file options).updatedFile? =
      some (Path.absolutize file target.root) := by
  simp [singleUpdate, updatedFile?]

theorem Executor.called_singleUpdate (executor : Executor) (target : Target) (file : Text)
    (options : IndexerOptions) (site : Site) :
    (executor.execute (.singleUpdate target file options) site).2.called =
      site.called ++
        if site.holds (Path.join target.database Database.indexFile) then
          [CommandLine.singleUpdate executor.indexer target file options]
        else [] := by
  rw [execute, singleUpdate_snd]
  split <;> simp

namespace Root.Resolver

variable {resolver : Resolver} {present : Text → Bool} {current file : Text}

/-- Files are resolved from the working directory. -/
theorem resolve_absolute (resolver : Resolver) (present : Text → Bool) (file : Text)
    (rooted : Path.isAbsolute (resolver.base current) = true) :
    resolver.resolve present current (resolver.absolute current file) =
      resolver.resolve present current file :=
  (treatsAlike_of_same (Path.absolutize_absolutize rooted file _)).project present

/-- A root is remembered, found by a search, or the working directory. -/
theorem isAbsolute_rootOf (rooted : Path.isAbsolute (resolver.base current) = true)
    (remembered : ∀ root, resolver.remembered = some root → Path.IsNormal root) :
    Path.isAbsolute (resolver.rootOf present current file).value.1 = true := by
  let call : Call := ⟨.project, present, current, file⟩
  cases held : resolver.rememberedFor? (resolver.pathOf call) with
  | some root =>
      have stored : resolver.remembered = some root := (Option.filter_eq_some_iff.mp held).1
      rw [rootOf_of_remembered held]
      exact (remembered root stored).isAbsolute
  | none =>
      have searched := value_rootOf_of_searched held
      cases search : (resolver.foundFromFile call).or (resolver.foundFromBase call) with
      | none =>
          rw [search] at searched
          rw [searched]
          exact rooted
      | some root =>
          rw [search] at searched
          rw [searched]
          have found : resolver.found call = some root := search
          rcases isNearest_of_found found with ⟨place, nearest⟩
          exact nearest.isNormal.isAbsolute

end Root.Resolver

namespace Store

variable {rules : Root.Rules} {settings : StoreSettings} {running : Bool} {store : Store}
  {present : Text → Bool} {current file : Text}

theorem Life.remembered_normal (life : Life rules settings running store) :
    ∀ root, store.resolver.remembered = some root → Path.IsNormal root := by
  induction life with
  | opened => simp [ofRules, Root.Resolver.fresh]
  | @resolved _ store _ call ih =>
      intro root held
      rcases Root.Resolver.after_cases store.resolver call with same | ⟨found, _, search, stored⟩
      · exact ih root (same ▸ held)
      · rw [stored] at held
        rcases Root.Resolver.isNearest_of_found search with ⟨place, nearest⟩
        exact Option.some.inj held ▸ nearest.isNormal
  | submitted _ _ ih => exact ih
  | queried _ _ ih => exact ih
  | received _ _ ih => exact ih
  | ended _ _ _ ih => exact ih
  | stopped _ ih => exact ih

/-- The directory that a store takes relative paths from. -/
def baseOf (rules : Root.Rules) (current : Text) : Text :=
  rules.workingDirectory.getD current

theorem Life.isAbsolute_root (life : Life rules settings running store)
    (rooted : Path.isAbsolute (baseOf rules current) = true) (present : Text → Bool)
    (file : Text) : Path.isAbsolute (store.primaryOf present current file).root = true := by
  apply Root.Resolver.isAbsolute_rootOf _ life.remembered_normal
  rw [Root.Resolver.base, life.settled.1]
  exact rooted

/-- The job that a request for one file calls for. -/
def updateJob (settings : StoreSettings) (store : Store) (present : Text → Bool)
    (current file : Text) : Job :=
  .singleUpdate (store.primaryOf present current file) file settings.indexerOptions

/-- The call of the indexer that the job comes to. -/
def updateLine (indexer : Text) (settings : StoreSettings) (store : Store)
    (present : Text → Bool) (current file : Text) : CommandLine :=
  .singleUpdate indexer (store.primaryOf present current file) file settings.indexerOptions

/-- What is queued when one file is asked for, and when it is that file which is brought up to
date. -/
structure QueuesUpdate (rules : Root.Rules) (settings : StoreSettings) (store : Store)
    (present : Text → Bool) (current file : Text) : Prop where
  sent : (store.submitUpdate present current file .single).value.2.worker =
    store.worker.sent [updateJob settings store present current file]
  /-- The root is that of the file as it is taken from the working directory. -/
  resolved : store.primaryOf present current (Path.absolutize file (baseOf rules current)) =
    store.primaryOf present current file
  /-- The indexer is called once for the job, if the database is still there. -/
  called : ∀ (executor : Executor) (site : Site),
    (executor.execute (updateJob settings store present current file) site).2.called =
      site.called ++
        if site.holds (Path.join (store.primaryOf present current file).database
            Database.indexFile) then
          [updateLine executor.indexer settings store present current file]
        else []
  /-- It is told of the right file exactly if the name is absolute, or climbs so far that the root
  and the working directory agree. -/
  asked_iff : ∀ indexer : Text,
    (updateLine indexer settings store present current file).updatedFile? =
      some (Path.absolutize file (baseOf rules current)) ↔
    Path.isAbsolute file = true ∨
      (Path.names (store.primaryOf present current file).root).rdrop
          (Path.Way.ofPath file).climbed =
        (Path.names (baseOf rules current)).rdrop (Path.Way.ofPath file).climbed

/-- Only a request that calls for the job is answered with one. -/
theorem Life.sent_of_queued (life : Life rules settings running store)
    (queued : (store.submitUpdate present current file .single).value.1 = .ok 1) :
    (store.submitUpdate present current file .single).value.2.worker =
      store.worker.sent [updateJob settings store present current file] := by
  have sent := (life.answers_update present current file .single).sent
  cases running with
  | false =>
      rw [(sent.refused rfl).1] at queued
      split at queued <;> simp at queued
  | true =>
      rcases sent.taken rfl with ⟨count, worker, -⟩
      rw [count] at queued
      have called : calledFor rules settings store present current file .single =
          [updateJob settings store present current file] := by
        unfold calledFor at queued ⊢
        by_cases nameless : file = []
        · simp [nameless] at queued
        · by_cases there : store.indexed present current file = true
          · simp [nameless, there, updateJob]
          · simp [nameless, there] at queued
      rw [worker, called]

/-- Whenever a request for one file queues a job, in any state of a store with an absolute working
directory, the indexer is told of that file exactly if its name means the same in the root. -/
theorem Life.updates_asked_file_iff (life : Life rules settings running store)
    (rooted : Path.isAbsolute (baseOf rules current) = true)
    (queued : (store.submitUpdate present current file .single).value.1 = .ok 1) :
    QueuesUpdate rules settings store present current file where
  sent := life.sent_of_queued queued
  resolved := by
    have base : store.resolver.base current = baseOf rules current := by
      rw [Root.Resolver.base, life.settled.1, baseOf]
    have same := store.resolver.resolve_absolute present file (base ▸ rooted)
    rw [Root.Resolver.absolute, base] at same
    simp only [primaryOf, Store.resolve, same]
  called := fun executor site => executor.called_singleUpdate _ _ _ site
  asked_iff := by
    intro indexer
    rw [updateLine, CommandLine.updatedFile?_singleUpdate, Option.some.injEq]
    exact Path.absolutize_eq_iff (life.isAbsolute_root rooted present file) rooted file

/-- A relative name in a directory below the root. -/
theorem updates_asked_below_root :
    let rules : Root.Rules := ⟨[['m']], ['/', 'd'], some ['/', 'w', '/', 's']⟩
    let settings : StoreSettings := ⟨.default, [], ['g']⟩
    let present : Text → Bool := fun path =>
      path = ['/', 'w', '/', 'm'] || path = Path.join ['/', 'd', '/', '%', 'w'] Database.indexFile
    ((ofRules rules settings).submitUpdate present ['/'] ['x'] .single).value.1 = .ok 1 ∧
      QueuesUpdate rules settings (ofRules rules settings) present ['/'] ['x'] := by
  intro rules settings present
  have queued : ((ofRules rules settings).submitUpdate present ['/'] ['x'] .single).value.1 =
      .ok 1 := by
    decide +kernel
  exact ⟨queued, Life.opened.updates_asked_file_iff rfl queued⟩

/-- From `/w/s` the name `x` is that of `/w/s/x`, and the indexer is told of `/w/x`. -/
theorem updates_other_file :
    let rules : Root.Rules := ⟨[['m']], ['/', 'd'], some ['/', 'w', '/', 's']⟩
    let settings : StoreSettings := ⟨.default, [], ['g']⟩
    let present : Text → Bool := fun path =>
      path = ['/', 'w', '/', 'm'] || path = Path.join ['/', 'd', '/', '%', 'w'] Database.indexFile
    let store := ofRules rules settings
    (store.submitUpdate present ['/'] ['x'] .single).value.2.worker.waiting =
        [.singleUpdate ⟨['/', 'w'], ['/', 'd', '/', '%', 'w']⟩ ['x'] .default] ∧
      (updateLine ['t'] settings store present ['/'] ['x']).updatedFile? =
        some ['/', 'w', '/', 'x'] ∧
      Path.absolutize ['x'] (baseOf rules ['/']) = ['/', 'w', '/', 's', '/', 'x'] := by
  intro rules settings present store
  exact ⟨by decide +kernel, by decide +kernel, by decide +kernel⟩

end Store

end ProjectTags
