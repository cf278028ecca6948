import ProjectTags.Proofs.Job.Attempts
import ProjectTags.Proofs.Job.Isolation

/-!
# What is told and called while a job is carried out

What was told stays told, so that the log of a job that ended shows whether the file system failed
at any time. If it did not, a library build hands all the libraries that it recorded to the
indexer, also those that the indexer fails for.
-/

namespace ProjectTags

/-- Whether the file system failed. -/
def Event.reportsFault : Event → Bool
  | .jobFailed _ (.fileSystem _ _) | .libraryFailed _ (.fileSystem _ _) => true
  | _ => false

/-- No failure of the file system was told. -/
def Site.Untroubled (site : Site) : Prop :=
  ∀ event ∈ site.log, event.reportsFault = false

instance (site : Site) : Decidable site.Untroubled :=
  inferInstanceAs (Decidable (∀ event ∈ site.log, event.reportsFault = false))

theorem Site.Untroubled.earlier {before after : Site} (untroubled : after.Untroubled)
    (grown : before.log <+: after.log) : before.Untroubled :=
  fun event mem => untroubled event (grown.subset mem)

namespace Executor

variable {executor : Executor} {databases : List Text} {before after site : Site}
  {target library : Target} {options : IndexerOptions} {libraries : List Target} {job : Job}
  {primary : Text} {attempt : BuildAttempt}

/-! ## What is told and called -/

theorem carryOut_snd (executor : Executor) (job : Job) (site : Site) :
    (executor.carryOut job site).2 =
      (executor.execute job site).2.tell ((executor.carryOut job site).1.event job) := by
  unfold carryOut
  split <;> next done => rw [done]

theorem untroubled_execute (untroubled : (executor.carryOut job site).2.Untroubled) :
    (executor.execute job site).2.Untroubled := by
  rw [carryOut_snd] at untroubled
  exact untroubled.earlier (List.prefix_append ..)

theorem ne_fileSystem_of_untroubled (untroubled : (executor.carryOut job site).2.Untroubled)
    (path : Text) (fault : Fault) :
    (executor.execute job site).1 ≠ .error (.fileSystem path fault) := by
  intro failed
  have ending := ending_carryOut executor job site
  rw [failed] at ending
  rw [carryOut_snd, ending] at untroubled
  exact Bool.noConfusion (untroubled (.jobFailed job.render (.fileSystem path fault))
    (by simp [Site.tell, Ending.event]))

theorem removed_of_untroubled
    (untroubled : (executor.carryOut (.removal target) site).2.Untroubled)
    (agreed : site.answers.headD false = true) :
    (site.machine.files.removeDirectory site.machine.current target.database).2 = none := by
  have result : (removal target site).1 =
      match (site.machine.files.removeDirectory site.machine.current target.database).2 with
      | some fault => .error (.fileSystem target.database fault)
      | none => .ok .completed := by
    unfold removal Site.ask
    rw [agreed]
    simp only
    split <;> next removed => rw [removed]
  cases failed : (site.machine.files.removeDirectory site.machine.current target.database).2 with
  | none => rfl
  | some fault =>
      rw [failed] at result
      exact absurd result (ne_fileSystem_of_untroubled untroubled target.database fault)

/-- An attempt for which there is no directory tells that the file system failed. -/
theorem isPrepared_of_untroubled
    (untroubled : ∀ event ∈ attempt.events executor options, event.reportsFault = false) :
    attempt.isPrepared = true := by
  rcases attempt with ⟨library, fault | fault | finished⟩
  · have told := untroubled (.libraryFailed library.root (.fileSystem library.database fault))
      (by simp [BuildAttempt.events, BuildAttempt.result])
    exact Bool.noConfusion told
  · rfl
  · rfl

/-- All libraries are handed to the indexer, whatever it makes of them. -/
theorem called_buildLibraries
    (untroubled : (executor.buildLibraries options libraries site).2.Untroubled) :
    (executor.buildLibraries options libraries site).2.called =
      site.called ++ libraries.map fun library =>
        CommandLine.build executor.indexer library options false := by
  rcases exists_triesAll executor options libraries site.machine with ⟨attempts, left, rfl, tries⟩
  rw [buildLibraries_of_triesAll rfl tries] at untroubled ⊢
  have prepared : attempts.filter (·.isPrepared) = attempts := by
    rw [List.filter_eq_self]
    intro attempt mem
    apply isPrepared_of_untroubled
    intro event told
    exact untroubled event (List.mem_append_right _ (List.mem_flatMap.mpr ⟨attempt, mem, told⟩))
  simp only [siteAfter, prepared, List.map_map]
  rfl

theorem exists_written
    (untroubled : (executor.carryOut (.libraryBuild primary libraries options) site).2.Untroubled) :
    ∃ written, (Registry.write site.machine.files site.machine.current primary libraries).outcome =
      .ok written := by
  rcases Registry.outcome_write_cases site.machine.files site.machine.current primary libraries with
    wrote | ⟨path, fault, failed⟩
  · exact wrote
  · have fine := ne_fileSystem_of_untroubled untroubled path fault
    rw [execute, libraryBuild_of_failed failed] at fine
    exact absurd rfl fine

/-- The indexer is called for each library that is written to the registry. -/
theorem called_libraryBuild
    (untroubled : (executor.carryOut (.libraryBuild primary libraries options) site).2.Untroubled) :
    (executor.carryOut (.libraryBuild primary libraries options) site).2.called =
      site.called ++ (Registry.present site.machine.files site.machine.current primary
        libraries).map fun library => CommandLine.build executor.indexer library options false := by
  have calm := untroubled_execute untroubled
  rw [carryOut_snd]
  simp only [execute] at calm
  change (executor.libraryBuild primary libraries options site).2.called = _
  rcases exists_written untroubled with ⟨written, wrote⟩
  rw [libraryBuild_of_wrote wrote] at calm ⊢
  rw [called_buildLibraries calm, (Registry.write_eq_ok wrote).1]
  rfl

end Executor

end ProjectTags
