import Mathlib.Data.List.Induction
import ProjectTags.Proofs.Job.Report

/-!
# What jobs do to registries

Of the four kinds of jobs only two touch a registry: a library build writes that of its database,
and a removal that the user agrees to takes it away. Each of them decides alone what the registry
holds from then on, as long as the file system does not fail.
-/

namespace ProjectTags

namespace Executor

variable {executor : Executor} {databases : List Text} {before after : Site}

/-- The programs that jobs run write no registry. -/
structure SparesRegistries (executor : Executor) : Prop where
  indexer : ∀ (machine : Machine) (line : CommandLine) (input : Bytes) (finished : Finished)
    (files : FileTree),
      line.program = executor.indexer →
        executor.programs machine line input = .ok (finished, files) →
          machine.files.SparesRegistries files
  lister : ∀ (machine : Machine) (root : Text) (line : CommandLine) (finished : Finished)
    (files : FileTree),
      executor.listing? machine root = some line →
        executor.programs machine line [] = .ok (finished, files) →
          machine.files.SparesRegistries files

theorem sparesRegistries_writingIndex (indexer : Text) :
    SparesRegistries ⟨writingIndex, indexer, none⟩ where
  indexer := by
    intro machine line input finished files _ answer
    rcases files_writingIndex input answer with rfl | success
    · exact .refl _
    · refine ⟨fun isTree => isTree.write success, fun directory =>
        (FileTree.ChangesWithin.write success).registry?_eq ?_⟩
      rw [FileTree.destination_join isOrdinary_indexFile]
      intro same
      exact absurd (List.append_inj' same rfl).2 (by decide)
  lister := by
    intro machine root line finished files listing
    cases listing

/-! ## Acts -/

theorem Act.sparesRegistries (spares : executor.SparesRegistries)
    (act : Act executor databases before after) :
    before.machine.files.SparesRegistries after.machine.files := by
  cases act with
  | told | asked => exact .refl _
  | @prepared database own =>
      rw [makeDirectories_snd]
      exact .makeDirectories before.machine.files before.machine.current database
  | listed listing =>
      apply call_keeps before.machine.files.SparesRegistries (.refl _)
      exact fun finished files answer => spares.lister _ _ _ finished files listing answer
  | indexed input own indexer last =>
      apply call_keeps before.machine.files.SparesRegistries (.refl _)
      exact fun finished files answer => spares.indexer _ _ _ finished files indexer answer

theorem Acts.sparesRegistries (spares : executor.SparesRegistries)
    (acts : Acts executor databases before after) :
    before.machine.files.SparesRegistries after.machine.files := by
  induction acts with
  | refl => exact .refl _
  | tail _ act ih => exact ih.trans (act.sparesRegistries spares)

end Executor

/-! ## What a job decides -/

namespace Deed

/-- The job recorded the libraries of a database. -/
def Builds (database : Text) (deed : Deed) : Prop :=
  ∃ libraries options, deed.job = .libraryBuild database libraries options

/-- The job removed a database, as the user agreed to it. -/
def Removes (database : Text) (deed : Deed) : Prop :=
  deed.before.answers.headD false = true ∧
    ∃ target, deed.job = .removal target ∧ target.database = database

/-- What a job decides about the registry of a database, if anything: that it holds some libraries,
or that it is gone. -/
def decision? (database : Text) (deed : Deed) : Option (Option (List Target)) :=
  match deed.job with
  | .libraryBuild primary libraries _ =>
      if primary = database then
        some (some (Registry.present deed.before.machine.files deed.before.machine.current primary
          libraries))
      else none
  | .removal target =>
      if target.database = database ∧ deed.before.answers.headD false = true then some none
      else none
  | .fullBuild _ _ | .singleUpdate _ _ _ => none

variable {database : Text} {deed : Deed} {entries : List Target}

theorem decision?_of_builds {libraries : List Target} {options : IndexerOptions}
    (builds : deed.job = .libraryBuild database libraries options) :
    deed.decision? database = some (some (Registry.present deed.before.machine.files
      deed.before.machine.current database libraries)) := by
  simp [decision?, builds]

theorem decision?_of_removes (removes : deed.Removes database) :
    deed.decision? database = some none := by
  rcases removes with ⟨agreed, target, removal, rfl⟩
  rw [decision?, removal]
  exact if_pos ⟨rfl, agreed⟩

theorem builds_of_decision? (decided : deed.decision? database = some (some entries)) :
    deed.Builds database := by
  unfold decision? at decided
  split at decided
  · next primary libraries options job =>
      split at decided
      · next same => exact ⟨libraries, options, same ▸ job⟩
      · cases decided
  · split at decided <;> cases decided
  · cases decided
  · cases decided

theorem removes_of_decision? (decided : deed.decision? database = some none) :
    deed.Removes database := by
  unfold decision? at decided
  split at decided
  · split at decided <;> cases decided
  · next target job =>
      split at decided
      · next same => exact ⟨same.2, target, job, same.1⟩
      · cases decided
  · cases decided
  · cases decided

end Deed

/-- The libraries of a database that were recorded by some jobs and not removed since. -/
def recorded? (database : Text) (deeds : List Deed) : Option (List Target) :=
  deeds.foldl (fun recorded deed => (deed.decision? database).getD recorded) none

variable {database databases root : Text} {deeds earlier since : List Deed} {deed : Deed}
  {executor : Executor} {job : Job} {site after : Site} {ending : Ending}
  {entries : List Target} {record : Option (List Target)}

theorem recorded?_concat (database : Text) (deeds : List Deed) (deed : Deed) :
    recorded? database (deeds ++ [deed]) =
      (deed.decision? database).getD (recorded? database deeds) := by
  simp [recorded?]

theorem recorded?_of_undecided (undecided : ∀ deed ∈ since, deed.decision? database = none) :
    recorded? database (earlier ++ since) = recorded? database earlier := by
  induction since using List.reverseRecOn with
  | nil => rw [List.append_nil]
  | append_singleton others last ih =>
      rw [← List.append_assoc, recorded?_concat, undecided last (by simp), Option.getD_none]
      exact ih fun deed mem => undecided deed (List.mem_append_left _ mem)

/-- Without a library build since the last removal nothing is recorded. -/
theorem recorded?_of_removed
    (removed : ∀ deed, earlier.getLast? = some deed → deed.Removes database)
    (notBuilt : ∀ deed ∈ since, ¬deed.Builds database) :
    recorded? database (earlier ++ since) = none := by
  induction since using List.reverseRecOn with
  | nil =>
      rw [List.append_nil]
      rcases List.eq_nil_or_concat earlier with rfl | ⟨others, last, rfl⟩
      · rfl
      · rw [List.concat_eq_append] at removed ⊢
        rw [recorded?_concat, Deed.decision?_of_removes (removed last List.getLast?_concat)]
        rfl
  | append_singleton others last ih =>
      rw [← List.append_assoc, recorded?_concat,
        ih fun deed mem => notBuilt deed (List.mem_append_left _ mem)]
      cases decided : last.decision? database with
      | none => rfl
      | some record =>
          cases record with
          | none => rfl
          | some entries =>
              exact absurd (Deed.builds_of_decision? decided) (notBuilt last (by simp))

/-- After a library build its libraries are recorded until the next build or removal. -/
theorem recorded?_of_built {libraries : List Target} {options : IndexerOptions}
    (builds : deed.job = .libraryBuild database libraries options)
    (kept : ∀ other ∈ since, ¬other.Builds database ∧ ¬other.Removes database) :
    recorded? database (earlier ++ deed :: since) =
      some (Registry.present deed.before.machine.files deed.before.machine.current database
        libraries) := by
  rw [List.append_cons, recorded?_of_undecided, recorded?_concat,
    Deed.decision?_of_builds builds]
  · rfl
  · intro other mem
    cases decided : other.decision? database with
    | none => rfl
    | some record =>
        cases record with
        | none => exact absurd (Deed.removes_of_decision? decided) (kept other mem).2
        | some entries => exact absurd (Deed.builds_of_decision? decided) (kept other mem).1

/-! ## What a job does to a registry -/

namespace Executor

theorem isTree_execute (spares : executor.SparesRegistries) (isTree : site.machine.files.IsTree)
    (job : Job) : (executor.execute job site).2.machine.files.IsTree := by
  have own : (job.ownFiles site).IsTree := by
    cases job with
    | fullBuild | singleUpdate => exact isTree
    | libraryBuild => exact Registry.isTree_write isTree _ _ _
    | removal target =>
        simp only [Job.ownFiles]
        split
        · exact isTree.removeDirectory _ _
        · exact isTree
  exact ((acts_execute executor job site).sparesRegistries spares).isTree own

/-- A job that decides nothing about a registry leaves it as it is. -/
theorem registry?_of_undecided (spares : executor.SparesRegistries)
    (encoded : job.IsEncoded databases) (rooted : Path.isAbsolute root = true)
    (undecided : Deed.decision? (Database.location databases root) ⟨job, site, ending, after⟩ =
      none) :
    (executor.execute job site).2.machine.files.registry?
        (FileTree.destination site.machine.current (Database.location databases root)) =
      site.machine.files.registry?
        (FileTree.destination site.machine.current (Database.location databases root)) := by
  have acts := acts_execute executor job site
  refine ((acts.sparesRegistries spares).registry _).trans ?_
  cases job with
  | fullBuild | singleUpdate => rfl
  | libraryBuild primary libraries options =>
      rcases encoded with ⟨⟨other, otherRooted, rfl⟩, _⟩
      have wrote := Registry.changesWithin_write (Database.isOrdinary_name otherRooted)
        site.machine.files site.machine.current databases libraries
      apply wrote.registry?_eq
      intro inside
      have same := Database.eq_of_inside otherRooted rooted inside (List.prefix_append ..)
      simp [Deed.decision?, same] at undecided
  | removal target =>
      by_cases agreed : site.answers.headD false = true
      · have different : root ≠ target.root := by
          rintro rfl
          rw [← encoded.database_eq] at undecided
          simp only [Deed.decision?, true_and, if_pos agreed] at undecided
          cases undecided
        have kept := removal_keeps site encoded rooted different
          (List.prefix_append _ [Registry.fileName])
        unfold FileTree.registry?
        rw [Site.withFiles, kept]
      · simp only [Job.ownFiles, if_neg agreed]
        rfl

/-- A job decides about a registry what it holds, if the file system does not fail. -/
theorem registry?_of_decided (spares : executor.SparesRegistries)
    (untroubled : (executor.carryOut job site).2.Untroubled)
    (decided : Deed.decision? database ⟨job, site, ending, after⟩ = some record) :
    (record ≠ none → FileTree.Fits (Registry.path database)) ∧
      (executor.execute job site).2.machine.files.registry?
          (FileTree.destination site.machine.current database) =
        record.map Registry.render := by
  have acts := acts_execute executor job site
  rw [(acts.sparesRegistries spares).registry]
  cases record with
  | some entries =>
      rcases Deed.builds_of_decision? decided with ⟨libraries, options, rfl⟩
      rw [Deed.decision?_of_builds rfl] at decided
      cases decided
      rcases exists_written untroubled with ⟨written, wrote⟩
      rcases Registry.registry?_write wrote with ⟨fits, held⟩
      refine ⟨fun _ => fits, held.trans ?_⟩
      rw [(Registry.write_eq_ok wrote).1]
      rfl
  | none =>
      rcases Deed.removes_of_decision? decided with ⟨agreed, target, rfl, rfl⟩
      refine ⟨fun recorded => absurd rfl recorded, ?_⟩
      have gone := FileTree.node?_removeDirectory (removed_of_untroubled untroubled agreed)
        (List.cons_ne_nil Registry.fileName [])
      simp only [Job.ownFiles, if_pos agreed]
      unfold FileTree.registry?
      rw [Site.withFiles, gone]
      rfl

end Executor

end ProjectTags
