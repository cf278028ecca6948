import ProjectTags.Proofs.Store.Requests

/-!
# Projects that get a database on their own

When a file is opened, its project gets a database if it has none and a marker shows that it is a
project. To tell that, the file is resolved first and then looked for under a marker, and both
questions go to one resolver, which may remember a root after the first that it did not know before.

The root was come by in one of four ways. Each of them decides the second answer, and in none does
the second question change what the resolver remembers: a root that was found stays the one that is
found as long as no file comes or goes.
-/

namespace ProjectTags

namespace Root

/-- The ways to come by the root of a file: it is remembered, or found by a marker from the file or
from the working directory, or it is the working directory for want of a marker. -/
inductive Origin where
  | memory
  | file
  | base
  | fallback
  deriving DecidableEq, Repr

namespace Resolver

variable {resolver after : Resolver} {call : Call} {origin : Origin} {root : Text}

/-- A resolver comes by the root of a file, and remembers the root if a search found it. -/
inductive Settles (resolver : Resolver) (call : Call) : Origin → Text → Resolver → Prop where
  | memory {root : Text} (held : resolver.rememberedFor? (resolver.pathOf call) = some root) :
      Settles resolver call .memory root resolver
  | file {root : Text} (missed : resolver.rememberedFor? (resolver.pathOf call) = none)
      (found : resolver.foundFromFile call = some root) :
      Settles resolver call .file root (resolver.remember (some root))
  | base {root : Text} (missed : resolver.rememberedFor? (resolver.pathOf call) = none)
      (unmarked : resolver.foundFromFile call = none)
      (found : resolver.foundFromBase call = some root) :
      Settles resolver call .base root (resolver.remember (some root))
  | fallback (missed : resolver.rememberedFor? (resolver.pathOf call) = none)
      (unmarked : resolver.foundFromFile call = none)
      (nowhere : resolver.foundFromBase call = none) :
      Settles resolver call .fallback (resolver.base call.current) resolver

theorem exists_settles (resolver : Resolver) (call : Call) :
    ∃ origin, Settles resolver call origin
      (resolver.rootOf call.present call.current call.file).value.1
      (resolver.rootOf call.present call.current call.file).value.2 := by
  cases held : resolver.rememberedFor? (resolver.pathOf call) with
  | some root =>
      rw [rootOf_of_remembered held]
      exact ⟨_, .memory held⟩
  | none =>
      rw [value_rootOf_of_searched held]
      cases fromFile : resolver.foundFromFile call with
      | some root => exact ⟨_, .file held fromFile⟩
      | none =>
          cases fromBase : resolver.foundFromBase call with
          | some root => exact ⟨_, .base held fromFile fromBase⟩
          | none => exact ⟨_, .fallback held fromFile fromBase⟩

/-- With a root that a search found in memory, the next question is answered from memory if the
root begins the path of the file, and else by the search from the file, as before. -/
theorem value_isUnderMarker_remember
    (kept : ∀ other, resolver.foundFromFile call = some other → other = root) :
    ((resolver.remember (some root)).isUnderMarker call.present call.current call.file).value =
      (Path.hasTextPrefix (resolver.pathOf call) root || (resolver.foundFromFile call).isSome,
        resolver.remember (some root)) := by
  have remembered : (resolver.remember (some root)).remembered = some root := rfl
  cases begins : Path.hasTextPrefix (resolver.pathOf call) root with
  | true =>
      rw [value_isUnderMarker_of_remembered (rememberedFor?_eq_some remembered begins)]
      rfl
  | false =>
      -- The root was found from elsewhere, so the search from the file is made once more.
      have missed : (resolver.remember (some root)).rememberedFor?
          ((resolver.remember (some root)).pathOf call) = none :=
        rememberedFor?_eq_none_iff.mpr fun other held => Option.some.inj held ▸ begins
      have same : (resolver.remember (some root)).foundFromFile call =
          resolver.foundFromFile call := rfl
      rw [value_isUnderMarker_of_searched missed, same]
      cases found : resolver.foundFromFile call with
      | none => rfl
      | some other =>
          rw [kept other found]
          rfl

/-- Whether a file that has just been resolved is under a marker follows from how its root was come
by. Asking for it changes nothing. -/
theorem Settles.marked (settles : Settles resolver call origin root after) :
    (after.isUnderMarker call.present call.current call.file).value.2 = after ∧
      ((after.isUnderMarker call.present call.current call.file).value.1 = true ↔
        origin ≠ .fallback ∧
          (Path.hasTextPrefix (resolver.pathOf call) root = true ∨ origin = .file)) := by
  cases settles with
  | memory held =>
      have begins : Path.hasTextPrefix (resolver.pathOf call) root = true :=
        (Option.filter_eq_some_iff.mp held).2
      rw [value_isUnderMarker_of_remembered held]
      simp [begins]
  | file missed found =>
      rw [value_isUnderMarker_remember (by simp [found])]
      simp [found]
  | base missed unmarked found =>
      rw [value_isUnderMarker_remember (by simp [unmarked])]
      simp [unmarked]
  | fallback missed unmarked nowhere =>
      rw [value_isUnderMarker_of_searched missed, unmarked]
      simp

theorem Settles.found_of_file (settles : Settles resolver call .file root after) :
    resolver.foundFromFile call = some root := by
  cases settles with
  | file _ found => exact found

/-- A root that is found from a file with an absolute path begins the text of that path. -/
theorem hasTextPrefix_of_foundFromFile
    (found : resolver.foundFromFile call = some root)
    (rooted : Path.isAbsolute (resolver.pathOf call) = true) :
    Path.hasTextPrefix (resolver.pathOf call) root = true := by
  have normal : Path.IsNormal (resolver.pathOf call) :=
    Path.isNormal_of_isAbsolute_absolutize rooted
  have above : Path.IsAtOrAbove (resolver.pathOf call)
      ((Path.parent? (resolver.pathOf call)).getD (resolver.pathOf call)) := by
    cases up : Path.parent? (resolver.pathOf call) with
    | none => exact Or.inl rfl
    | some directory => exact Or.inr (.parent up)
  have startNormal := Path.IsAtOrAbove.isNormal above normal
  have nearest := (isNearest_iff startNormal).mp
    ((isNearest_absolutize_iff startNormal.isAbsolute).mp (value_nearest_eq_some_iff.mp found))
  exact (Path.IsAtOrAbove.trans above nearest.1).hasTextPrefix normal

end Resolver

end Root

namespace Store

variable {rules : Root.Rules} {settings : StoreSettings} {running : Bool} {store : Store}
  {present : Text → Bool} {current file : Text}

theorem fullBuild_mem_projectJobs {target other : Target} {options : IndexerOptions} :
    Job.fullBuild other options ∈ projectJobs rules settings current target ↔
      other = target ∧ options = settings.indexerOptions := by
  unfold projectJobs
  split <;> simp

theorem resolver_submitAll (jobs : List Job) (store : Store) :
    (submitAll jobs store).2.resolver = store.resolver := by
  induction jobs generalizing store with
  | nil => rfl
  | cons job others ih =>
      unfold submitAll
      split
      · exact ih _
      · rfl

/-- The resolver once a file is resolved. -/
def resolverAfter (store : Store) (present : Text → Bool) (current file : Text) : Root.Resolver :=
  (store.resolve present current file).value.2.resolver

/-- The root of a file is come by in some way. -/
def SettlesFrom (store : Store) (present : Text → Bool) (current file : Text)
    (origin : Root.Origin) : Prop :=
  store.resolver.Settles ⟨.project, present, current, file⟩ origin
    (store.primaryOf present current file).root (store.resolverAfter present current file)

theorem exists_settlesFrom (store : Store) (present : Text → Bool) (current file : Text) :
    ∃ origin, store.SettlesFrom present current file origin :=
  Root.Resolver.exists_settles store.resolver ⟨.project, present, current, file⟩

/-- What comes of a file that is opened, if its root was come by in some way. -/
structure Generates (store : Store) (present : Text → Bool) (current file : Text)
    (origin : Root.Origin) (jobs : List Job) : Prop where
  sent : (store.submitUpdate present current file .automatic).value.2.worker =
    store.worker.sent jobs
  /-- The project is built exactly if it has no database, a marker showed its root, and the root
  begins the path of the file. If that path is not absolute, a root found from the file will do. -/
  builds_iff : (∃ target options, Job.fullBuild target options ∈ jobs) ↔
    present (Path.join (store.primaryOf present current file).database Database.indexFile) = false ∧
      origin ≠ .fallback ∧
      (Path.hasTextPrefix (store.resolver.absolute current file)
          (store.primaryOf present current file).root = true ∨
        Path.isAbsolute (store.resolver.absolute current file) = false ∧ origin = .file)
  target : ∀ target options, Job.fullBuild target options ∈ jobs →
    target = store.primaryOf present current file
  /-- The second question changes nothing. -/
  question : ((store.resolverAfter present current file).isUnderMarker present current file).value.2 =
    store.resolverAfter present current file
  memory : (store.submitUpdate present current file .automatic).value.2.resolver =
    store.resolverAfter present current file

theorem SettlesFrom.marked {origin : Root.Origin}
    (settles : store.SettlesFrom present current file origin) :
    ((store.resolverAfter present current file).isUnderMarker present current file).value.2 =
        store.resolverAfter present current file ∧
      (store.marked present current file = true ↔ origin ≠ .fallback ∧
        (Path.hasTextPrefix (store.resolver.absolute current file)
            (store.primaryOf present current file).root = true ∨ origin = .file)) := by
  -- Matched with the goal first, the call would have to be read off the questions about it.
  have answer := Root.Resolver.Settles.marked settles
  exact answer

/-- Whatever is queued for a file that is opened, the resolver is left as the questions leave it. -/
theorem resolver_submitUpdate (named : file ≠ [])
    (unchanged : ((store.resolverAfter present current file).isUnderMarker
      present current file).value.2 = store.resolverAfter present current file) :
    (store.submitUpdate present current file .automatic).value.2.resolver =
      store.resolverAfter present current file := by
  have nonempty : file.isEmpty = false := by simpa using named
  rw [resolverAfter] at unchanged
  simp only [submitUpdate, nonempty, Bool.false_eq_true, if_false, Probed.value_bind,
    resolverAfter]
  split
  · rfl
  · simp only [Probed.value_bind]
    split
    · rw [Probed.value_pure, submitCounted, resolver_submitAll]
      exact unchanged
    · exact unchanged

/-- In every state of a store that was not stopped, a file that is opened has its project built
exactly if that has no database, a marker showed its root, and the root begins the path. -/
theorem Life.generates (life : Life rules settings true store) (named : file ≠ [])
    (present : Text → Bool) (current : Text) :
    ∃ origin jobs, store.SettlesFrom present current file origin ∧
      Generates store present current file origin jobs := by
  rcases exists_settlesFrom store present current file with ⟨origin, settles⟩
  rcases settles.marked with ⟨question, marked_iff⟩
  refine ⟨origin, calledFor rules settings store present current file .automatic, settles, ?_⟩
  have built : ∀ target options,
      Job.fullBuild target options ∈
          calledFor rules settings store present current file .automatic ↔
        (store.indexed present current file = false ∧ store.marked present current file = true) ∧
          target = store.primaryOf present current file ∧ options = settings.indexerOptions := by
    intro target options
    simp only [calledFor, if_neg named]
    split
    · next called => simp [fullBuild_mem_projectJobs, called]
    · next uncalled => simp [uncalled]
  -- A root that was found from a file with an absolute path begins that path anyway.
  have covered : Path.isAbsolute (store.resolver.absolute current file) = true →
      origin = .file → Path.hasTextPrefix (store.resolver.absolute current file)
        (store.primaryOf present current file).root = true := by
    rintro rooted rfl
    exact Root.Resolver.hasTextPrefix_of_foundFromFile settles.found_of_file rooted
  refine ⟨((life.answers_update present current file .automatic).sent.taken rfl).2.1, ⟨?_, ?_⟩,
    fun target options mem => ((built target options).mp mem).2.1, question,
    resolver_submitUpdate named question⟩
  · rintro ⟨target, options, mem⟩
    rcases (built target options).mp mem with ⟨⟨unindexed, marked⟩, _⟩
    rcases marked_iff.mp marked with ⟨byMarker, begins | fromFile⟩
    · exact ⟨unindexed, byMarker, Or.inl begins⟩
    · cases rooted : Path.isAbsolute (store.resolver.absolute current file) with
      | true => exact ⟨unindexed, byMarker, Or.inl (covered rooted fromFile)⟩
      | false => exact ⟨unindexed, byMarker, Or.inr ⟨rfl, fromFile⟩⟩
  · rintro ⟨unindexed, byMarker, begins⟩
    have marked : store.marked present current file = true :=
      marked_iff.mpr ⟨byMarker, begins.imp_right And.right⟩
    exact ⟨_, _, (built _ _).mpr ⟨⟨unindexed, marked⟩, rfl, rfl⟩⟩

/-- While `/p` is remembered, a file below `/pp` has it built: the text of its path begins so. -/
theorem generates_by_memory :
    let rules : Root.Rules := ⟨[['m']], ['/', 'd'], some ['/', 'w']⟩
    let settings : StoreSettings := ⟨.default, [], ['g']⟩
    let present : Text → Bool := fun path => path = ['/', 'p', '/', 'm']
    let store := ((ofRules rules settings).resolve present ['/'] ['/', 'p', '/', 'x']).value.2
    let file : Text := ['/', 'p', 'p', '/', 'x']
    file ≠ [] ∧
      (∃ origin jobs, store.SettlesFrom present ['/'] file origin ∧
        Generates store present ['/'] file origin jobs) ∧
      (store.submitUpdate present ['/'] file .automatic).value.2.worker.waiting =
        [.fullBuild ⟨['/', 'p'], ['/', 'd', '/', '%', 'p']⟩ .default] := by
  intro rules settings present store file
  have life : Life rules settings true store := Life.opened.resolve _ _ _
  have named : file ≠ [] := by decide
  exact ⟨named, life.generates named present ['/'], by decide +kernel⟩

/-- From a working directory that is not absolute, the marker in `/w` is found for the path `w/x`,
which does not begin with `/w`, and `/w` is built. -/
theorem generates_from_relative_directory :
    let rules : Root.Rules := ⟨[['m']], ['/', 'd'], some ['w']⟩
    let settings : StoreSettings := ⟨.default, [], ['g']⟩
    let present : Text → Bool := fun path => path = ['/', 'w', '/', 'm']
    let store := ofRules rules settings
    let target : Target := ⟨['/', 'w'], ['/', 'd', '/', '%', 'w']⟩
    store.primaryOf present ['/'] ['x'] = target ∧
      (store.submitUpdate present ['/'] ['x'] .automatic).value.2.worker.waiting =
        [.fullBuild target .default] ∧
      store.resolver.absolute ['/'] ['x'] = ['w', '/', 'x'] ∧
      Path.hasTextPrefix ['w', '/', 'x'] target.root = false := by
  intro rules settings present store target
  exact ⟨by decide +kernel, by decide +kernel, by decide, by decide⟩

end Store

end ProjectTags
