import ProjectTags.Proofs.Database.Naming
import ProjectTags.Proofs.Job.Acts

/-!
# What a job changes

A job changes the databases that it is for and makes the directories above them. As the databases
of two roots lie side by side below one directory, a job that is for one of them leaves the other
one as it is.
-/

namespace ProjectTags

/-- A target whose database is that of its root, below a directory for all databases. -/
structure Target.IsEncoded (databases : Text) (target : Target) : Prop where
  rooted : Path.isAbsolute target.root = true
  database_eq : target.database = Database.location databases target.root

/-- A job whose databases are those of absolute roots, below a directory for all databases. -/
def Job.IsEncoded (databases : Text) : Job → Prop
  | fullBuild target _ | singleUpdate target _ _ | removal target => target.IsEncoded databases
  | libraryBuild primary libraries _ =>
      (∃ root, Path.isAbsolute root = true ∧ primary = Database.location databases root) ∧
        ∀ library ∈ libraries, library.IsEncoded databases

/-- A job that was carried out. -/
structure Deed where
  job : Job
  before : Site
  ending : Ending
  after : Site

variable {databases root other : Text} {current place : Location} {target : Target}
  {job : Job} {executor : Executor} {site : Site}

namespace Database

theorem name_injective : Function.Injective name :=
  Function.LeftInverse.injective rootOf_name

theorem destination_location (rooted : Path.isAbsolute root = true) (current : Location)
    (databases : Text) :
    FileTree.destination current (location databases root) =
      FileTree.destination current databases ++ [name root] :=
  FileTree.destination_join (isOrdinary_name rooted) current databases

/-- No place is in the databases of two roots. -/
theorem eq_of_inside (rooted : Path.isAbsolute root = true)
    (otherRooted : Path.isAbsolute other = true)
    (inside : FileTree.destination current (location databases root) <+: place)
    (insideOther : FileTree.destination current (location databases other) <+: place) :
    root = other := by
  rw [destination_location rooted] at inside
  rw [destination_location otherRooted] at insideOther
  have within := List.prefix_of_prefix_length_le inside insideOther (by simp)
  have same := within.eq_of_length (by simp)
  exact name_injective (by simpa using same)

end Database

namespace Executor

theorem current_execute (executor : Executor) (job : Job) (site : Site) :
    (executor.execute job site).2.machine.current = site.machine.current :=
  (acts_execute executor job site).current_eq

theorem ownFiles_changesWithin (site : Site) (encoded : job.IsEncoded databases) :
    FileTree.ChangesWithin (Inside site.machine.current job.databases)
      (OnTheWay site.machine.current job.databases) site.machine.files (job.ownFiles site) := by
  cases job with
  | fullBuild | singleUpdate => exact .refl _
  | libraryBuild primary libraries options =>
      rcases encoded with ⟨⟨root, rooted, rfl⟩, _⟩
      have wrote := Registry.changesWithin_write (Database.isOrdinary_name rooted)
        site.machine.files site.machine.current databases libraries
      exact wrote.mono (fun _ inside => ⟨_, List.mem_cons_self .., inside⟩)
        fun _ above => ⟨_, List.mem_cons_self .., above⟩
  | removal target =>
      simp only [Job.ownFiles]
      split
      · have removed := FileTree.ChangesWithin.removeDirectory site.machine.files
          site.machine.current target.database
        exact removed.mono (fun _ inside => ⟨_, List.mem_singleton_self _, inside⟩)
          fun _ nowhere => nowhere.elim
      · exact .refl _

/-- Nothing changes outside of the databases of a job, but that they and the directories above them
are made. -/
theorem execute_changesWithin (site : Site) (confined : executor.Confined)
    (encoded : job.IsEncoded databases) :
    FileTree.ChangesWithin (Inside site.machine.current job.databases)
      (OnTheWay site.machine.current job.databases) site.machine.files
      (executor.execute job site).2.machine.files :=
  (ownFiles_changesWithin site encoded).trans
    ((acts_execute executor job site).changesWithin confined)

/-- The removal of one database leaves all others as they are. -/
theorem removal_keeps (site : Site) (encoded : target.IsEncoded databases)
    (otherRooted : Path.isAbsolute other = true) (different : other ≠ target.root)
    (inside : FileTree.destination site.machine.current (Database.location databases other) <+:
      place) :
    ((Job.removal target).ownFiles site).node? place = site.machine.files.node? place := by
  simp only [Job.ownFiles]
  split
  · have removed := FileTree.ChangesWithin.removeDirectory site.machine.files
      site.machine.current target.database
    have outside : ¬FileTree.destination site.machine.current target.database <+: place := by
      rw [encoded.database_eq]
      exact fun within =>
        different (Database.eq_of_inside encoded.rooted otherRooted within inside).symm
    rcases removed place outside with same | ⟨nowhere, _⟩
    · exact same
    · exact nowhere.elim
  · rfl

theorem removal_of_refused (refused : site.answers.headD false = false) :
    removal target site =
      (.error (.declined target.database), (site.ask (question target.database)).2) := by
  unfold removal Site.ask
  rw [refused]

theorem singleUpdate_of_skipped {file reason : Text} {options : IndexerOptions}
    (skipped : (executor.singleUpdate target file options site).1 = .ok (.skipped reason)) :
    (executor.singleUpdate target file options site).2 = site := by
  rw [singleUpdate_snd, if_neg]
  intro held
  rw [singleUpdate, if_pos held] at skipped
  simp only at skipped
  split at skipped <;> cases skipped

theorem ending_carryOut (executor : Executor) (job : Job) (site : Site) :
    (executor.carryOut job site).1 =
      match (executor.execute job site).1 with
      | .ok outcome => .done outcome
      | .error failure => .failed failure := by
  unfold carryOut
  split <;> next done => rw [done]

theorem machine_carryOut (executor : Executor) (job : Job) (site : Site) :
    (executor.carryOut job site).2.machine = (executor.execute job site).2.machine := by
  unfold carryOut
  split <;> next done => rw [done]; rfl

end Executor

end ProjectTags
