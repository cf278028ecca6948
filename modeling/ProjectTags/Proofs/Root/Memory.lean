import Mathlib.Data.List.Induction
import ProjectTags.Proofs.Root.Nearest
import ProjectTags.Root.Resolver

/-!
# What a resolver remembers

A resolver is called again and again, and files may come and go between its calls. The root that
it remembers is always one that a search found by a marker, and only such a search changes it.

A root that is remembered stands for the search as long as the file's path begins with its text.
So the answer is that of a resolver without memory whenever each directory with a marker whose
text begins the path is also the one that the search finds.
-/

namespace ProjectTags.Root

/-- What a resolver is asked about a file. -/
inductive Question where
  /-- To which project it belongs. -/
  | project
  /-- Whether it is under a root with a marker. -/
  | marked
  deriving DecidableEq

/-- A call of a resolver. -/
structure Call where
  question : Question
  /-- What is there at the time of the call. -/
  present : Text → Bool
  /-- The current directory at that time. -/
  current : Text
  file : Text

namespace Resolver

def after (resolver : Resolver) (call : Call) : Resolver :=
  match call.question with
  | .project => (resolver.resolve call.present call.current call.file).value.2
  | .marked => (resolver.isUnderMarker call.present call.current call.file).value.2

/-- The resolver after some calls, one after the other. -/
def afterAll (resolver : Resolver) (calls : List Call) : Resolver :=
  calls.foldl after resolver

def pathOf (resolver : Resolver) (call : Call) : Text :=
  resolver.absolute call.current call.file

def foundFromFile (resolver : Resolver) (call : Call) : Option Text :=
  (resolver.searchFrom call.present call.current (resolver.pathOf call)).value

def foundFromBase (resolver : Resolver) (call : Call) : Option Text :=
  (nearest call.present resolver.rules.markers call.current (resolver.base call.current)).value

/-- The root that the searches of a call find. Only the question for the project makes a second
search. -/
def found (resolver : Resolver) (call : Call) : Option Text :=
  match call.question with
  | .project => (resolver.foundFromFile call).or (resolver.foundFromBase call)
  | .marked => resolver.foundFromFile call

variable {resolver : Resolver} {call : Call} {present : Text → Bool} {current file root : Text}

/-! ## One call -/

theorem rootOf_of_remembered
    (held : resolver.rememberedFor? (resolver.absolute current file) = some root) :
    resolver.rootOf present current file = pure (root, resolver) := by
  simp only [rootOf, held]

theorem value_rootOf_of_searched (missed : resolver.rememberedFor? (resolver.pathOf call) = none) :
    (resolver.rootOf call.present call.current call.file).value =
      match (resolver.foundFromFile call).or (resolver.foundFromBase call) with
      | some root => (root, resolver.remember (some root))
      | none => (resolver.base call.current, resolver) := by
  rw [pathOf] at missed
  simp only [rootOf, missed, Probed.value_bind, foundFromFile, foundFromBase, pathOf]
  split
  · next root fromFile => simp [fromFile]
  · next fromFile =>
      simp only [Probed.value_bind]
      split
      · next root fromBase => simp [fromFile, fromBase]
      · next fromBase => simp [fromFile, fromBase]

/-- What is known about a project depends on the root alone. -/
theorem value_resolve (resolver : Resolver) (present : Text → Bool) (current file : Text) :
    (resolver.resolve present current file).value =
      (⟨(resolver.rootOf present current file).value.1,
          resolver.databaseOf (resolver.rootOf present current file).value.1,
          present (Path.join (resolver.databaseOf (resolver.rootOf present current file).value.1)
            Database.indexFile)⟩,
        (resolver.rootOf present current file).value.2) := rfl

theorem value_isUnderMarker_of_remembered
    (held : resolver.rememberedFor? (resolver.absolute current file) = some root) :
    (resolver.isUnderMarker present current file).value = (true, resolver) := by
  simp [isUnderMarker, held]

theorem value_isUnderMarker_of_searched
    (missed : resolver.rememberedFor? (resolver.pathOf call) = none) :
    (resolver.isUnderMarker call.present call.current call.file).value =
      ((resolver.foundFromFile call).isSome,
        resolver.remember (resolver.foundFromFile call)) := by
  rw [pathOf] at missed
  simp [isUnderMarker, missed, foundFromFile, pathOf]

@[simp]
theorem remember_none (resolver : Resolver) : resolver.remember none = resolver := rfl

theorem after_of_remembered (held : resolver.rememberedFor? (resolver.pathOf call) = some root) :
    resolver.after call = resolver := by
  rw [pathOf] at held
  cases question : call.question with
  | project => simp [after, question, value_resolve, rootOf_of_remembered held]
  | marked => simp [after, question, value_isUnderMarker_of_remembered held]

theorem after_of_searched (missed : resolver.rememberedFor? (resolver.pathOf call) = none) :
    resolver.after call = resolver.remember (resolver.found call) := by
  cases question : call.question with
  | project =>
      simp only [after, question, value_resolve, value_rootOf_of_searched missed, found]
      cases (resolver.foundFromFile call).or (resolver.foundFromBase call) <;> rfl
  | marked => simp [after, question, value_isUnderMarker_of_searched missed, found]

/-- A call either leaves the resolver as it is, or it is not answered from memory and remembers
what its searches find. -/
theorem after_cases (resolver : Resolver) (call : Call) :
    resolver.after call = resolver ∨
      ∃ root, resolver.rememberedFor? (resolver.pathOf call) = none ∧
        resolver.found call = some root ∧
          resolver.after call = { resolver with remembered := some root } := by
  cases held : resolver.rememberedFor? (resolver.pathOf call) with
  | some root => exact Or.inl (after_of_remembered held)
  | none =>
      cases search : resolver.found call with
      | none => exact Or.inl (by rw [after_of_searched held, search, remember_none])
      | some root => exact Or.inr ⟨root, rfl, rfl, by rw [after_of_searched held, search]; rfl⟩

@[simp]
theorem rules_after (resolver : Resolver) (call : Call) :
    (resolver.after call).rules = resolver.rules := by
  rcases after_cases resolver call with same | ⟨root, _, _, changed⟩
  · rw [same]
  · rw [changed]

/-- What the searches of a call find is the nearest directory with a marker to some place. -/
theorem isNearest_of_found (search : resolver.found call = some root) :
    ∃ place, IsNearest call.present resolver.rules.markers place root := by
  have fromFile : ∀ root, resolver.foundFromFile call = some root →
      ∃ place, IsNearest call.present resolver.rules.markers place root :=
    fun root found => ⟨_, value_nearest_eq_some_iff.mp found⟩
  cases question : call.question with
  | marked => exact fromFile root (by simpa [found, question] using search)
  | project =>
      rw [found, question] at search
      rcases Option.or_eq_some_iff.mp search with fileFound | ⟨_, baseFound⟩
      · exact fromFile root fileFound
      · exact ⟨_, value_nearest_eq_some_iff.mp baseFound⟩

/-! ## Any number of calls -/

@[simp]
theorem afterAll_concat (resolver : Resolver) (calls : List Call) (call : Call) :
    resolver.afterAll (calls ++ [call]) = (resolver.afterAll calls).after call := by
  simp [afterAll]

@[simp]
theorem rules_afterAll (resolver : Resolver) (calls : List Call) :
    (resolver.afterAll calls).rules = resolver.rules := by
  induction calls using List.reverseRecOn with
  | nil => rfl
  | append_singleton calls call ih => rw [afterAll_concat, rules_after, ih]

/-- The call among some that stored the root which is remembered after all of them: before it
another one was remembered or none, and since then this one. -/
def StoredBy (rules : Rules) (calls : List Call) (root : Text) (call : Call) : Prop :=
  ∃ before later, calls = before ++ call :: later ∧
    ((fresh rules).afterAll before).remembered ≠ some root ∧
      ∀ since, since <+: later →
        ((fresh rules).afterAll (before ++ call :: since)).remembered = some root

/-- What is remembered was stored by a call that found it by a marker. -/
theorem exists_storedBy {rules : Rules} {calls : List Call}
    (held : ((fresh rules).afterAll calls).remembered = some root) :
    ∃ call, StoredBy rules calls root call ∧
      ∃ place, IsNearest call.present rules.markers place root := by
  induction calls using List.reverseRecOn with
  | nil => simp [afterAll, fresh] at held
  | append_singleton calls call ih =>
      -- The last call stored the root exactly if another one was remembered before it.
      by_cases heldBefore : ((fresh rules).afterAll calls).remembered = some root
      · rcases ih heldBefore with ⟨storing, ⟨before, later, rfl, other, kept⟩, nearest⟩
        refine ⟨storing, ⟨before, later ++ [call], by simp, other, ?_⟩, nearest⟩
        intro since within
        rcases List.prefix_concat_iff.mp within with rfl | earlier
        · simpa using held
        · exact kept since earlier
      · rcases after_cases ((fresh rules).afterAll calls) call with
          same | ⟨found, _, search, changed⟩
        · rw [afterAll_concat, same] at held
          exact absurd held heldBefore
        · have stored := held
          rw [afterAll_concat, changed, Option.some.injEq] at stored
          subst stored
          refine ⟨call, ⟨calls, [], rfl, heldBefore, ?_⟩, ?_⟩
          · intro since within
            rw [List.prefix_nil.mp within]
            exact held
          · have nearest := isNearest_of_found search
            rwa [rules_afterAll] at nearest

/-- What a call does to the memory of a resolver. -/
structure KeepsMemory (resolver : Resolver) (call : Call) : Prop where
  /-- The memory changes only if the path of the file does not begin with the root in it and a
  search finds another root. That one is then the answer too. -/
  changes_by_search : (resolver.after call).remembered ≠ resolver.remembered →
    (∀ root, resolver.remembered = some root →
      Path.hasTextPrefix (resolver.pathOf call) root = false) ∧
    ∃ root, resolver.found call = some root ∧ (resolver.after call).remembered = some root ∧
      (call.question = .project →
        (resolver.resolve call.present call.current call.file).value.1.root = root)
  /-- If no search finds a root, the working directory is the answer and is not remembered. -/
  fallback : call.question = .project → resolver.rememberedFor? (resolver.pathOf call) = none →
    resolver.found call = none →
      (resolver.resolve call.present call.current call.file).value.1.root =
        resolver.base call.current ∧ resolver.after call = resolver
  denial : call.question = .marked →
    (resolver.isUnderMarker call.present call.current call.file).value.1 = false →
      resolver.after call = resolver
  /-- From memory a project is resolved without a search. -/
  answers : ∀ root, resolver.remembered = some root →
    Path.hasTextPrefix (resolver.pathOf call) root = true →
      (resolver.resolve call.present call.current call.file).value.1.root = root ∧
        (resolver.resolve call.present call.current call.file).asked =
          [Path.join (resolver.databaseOf root) Database.indexFile]

theorem rememberedFor?_eq_none_iff {path : Text} :
    resolver.rememberedFor? path = none ↔
      ∀ root, resolver.remembered = some root → Path.hasTextPrefix path root = false := by
  rw [rememberedFor?, Option.filter_eq_none_iff]
  simp

theorem rememberedFor?_eq_some {path : Text} (held : resolver.remembered = some root)
    (begins : Path.hasTextPrefix path root = true) :
    resolver.rememberedFor? path = some root := by
  simp [rememberedFor?, held, begins]

theorem root_of_found (asked : call.question = .project)
    (missed : resolver.rememberedFor? (resolver.pathOf call) = none) :
    (resolver.resolve call.present call.current call.file).value.1.root =
      (resolver.found call).getD (resolver.base call.current) := by
  rw [value_resolve, value_rootOf_of_searched missed, found, asked]
  simp only
  cases (resolver.foundFromFile call).or (resolver.foundFromBase call) <;> rfl

theorem keepsMemory (resolver : Resolver) (call : Call) : KeepsMemory resolver call where
  changes_by_search := by
    intro different
    rcases after_cases resolver call with same | ⟨root, missed, search, changed⟩
    · rw [same] at different
      exact absurd rfl different
    · refine ⟨rememberedFor?_eq_none_iff.mp missed, root, search, by rw [changed], ?_⟩
      intro asked
      rw [root_of_found asked missed, search, Option.getD_some]
  fallback := by
    intro asked missed noSearch
    rw [root_of_found asked missed, after_of_searched missed, noSearch]
    exact ⟨rfl, remember_none resolver⟩
  denial := by
    intro asked denied
    cases held : resolver.rememberedFor? (resolver.pathOf call) with
    | some root => exact after_of_remembered held
    | none =>
        have noSearch : resolver.foundFromFile call = none := by
          simpa [value_isUnderMarker_of_searched held] using denied
        rw [after_of_searched held, found, asked]
        simp only [noSearch, remember_none]
  answers := by
    intro root held begins
    have answered : resolver.rememberedFor? (resolver.pathOf call) = some root :=
      rememberedFor?_eq_some held begins
    simp [resolve, rootOf_of_remembered answered, Probed.ask]

/-- After any calls, with any files there at the time of each: what is remembered is a directory
in normal form that held a marker when it was stored, and the next call keeps to the rules. -/
theorem remembered_by_marker (rules : Rules) (calls : List Call) :
    (∀ root, ((fresh rules).afterAll calls).remembered = some root →
      Path.IsNormal root ∧
        ∃ call, StoredBy rules calls root call ∧ Marked call.present rules.markers root) ∧
      ∀ call, KeepsMemory ((fresh rules).afterAll calls) call := by
  refine ⟨?_, fun call => keepsMemory _ call⟩
  intro root held
  rcases exists_storedBy held with ⟨call, stored, place, nearest⟩
  exact ⟨nearest.isNormal, call, stored, nearest.marked⟩

/-- The root `/p` is remembered although its marker is gone. -/
theorem remembered_without_marker :
    let rules : Rules := ⟨[['m']], ['/', 'd'], some ['/', 'w']⟩
    let calls : List Call :=
      [⟨.project, fun path => path = ['/', 'p', '/', 'm'], ['/'], ['/', 'p', '/', 'x']⟩,
        ⟨.marked, fun _ => false, ['/'], ['/', 'q', '/', 'y']⟩]
    ((fresh rules).afterAll calls).remembered = some ['/', 'p'] ∧
      (∃ call, StoredBy rules calls ['/', 'p'] call ∧
        Marked call.present rules.markers ['/', 'p']) ∧
      KeepsMemory ((fresh rules).afterAll calls)
        ⟨.project, fun _ => false, ['/'], ['/', 'p', '/', 'z']⟩ := by
  intro rules calls
  have held : ((fresh rules).afterAll calls).remembered = some ['/', 'p'] := by decide
  rcases remembered_by_marker rules calls with ⟨stored, keeps⟩
  exact ⟨held, (stored ['/', 'p'] held).2, keeps _⟩

/-! ## With the same files -/

/-- A call that is made again finds the same root, be it by the same searches or from memory. -/
theorem value_rootOf_again (resolver : Resolver) (call : Call) :
    ((resolver.rootOf call.present call.current call.file).value.2.rootOf
        call.present call.current call.file).value =
      (resolver.rootOf call.present call.current call.file).value := by
  cases held : resolver.rememberedFor? (resolver.pathOf call) with
  | some root =>
      rw [pathOf] at held
      simp [rootOf_of_remembered held]
  | none =>
      have searched := value_rootOf_of_searched held
      cases search : (resolver.foundFromFile call).or (resolver.foundFromBase call) with
      | none =>
          rw [search] at searched
          rw [searched]
          exact searched
      | some root =>
          rw [search] at searched
          rw [searched]
          cases again : (resolver.remember (some root)).rememberedFor? (resolver.pathOf call) with
          | some other =>
              have same : root = other := by
                simpa [remember] using (Option.filter_eq_some_iff.mp again).1
              subst same
              rw [rootOf_of_remembered again]
              rfl
          | none =>
              have repeated := @value_rootOf_of_searched (resolver.remember (some root)) call again
              have sameSearch : ((resolver.remember (some root)).foundFromFile call).or
                  ((resolver.remember (some root)).foundFromBase call) = some root := search
              rw [sameSearch] at repeated
              exact repeated

/-- To resolve a file twice in a row is to resolve it once. -/
theorem value_resolve_again (resolver : Resolver) (present : Text → Bool) (current file : Text) :
    ((resolver.resolve present current file).value.2.resolve present current file).value =
      (resolver.resolve present current file).value := by
  have sameRules : (resolver.rootOf present current file).value.2.rules = resolver.rules :=
    rules_after resolver ⟨.project, present, current, file⟩
  have again := value_rootOf_again resolver ⟨.project, present, current, file⟩
  simp only at again
  simp only [value_resolve, again, databaseOf, sameRules]

/-- As long as no file comes or goes, a remembered root holds a marker. -/
theorem marked_of_remembered {rules : Rules} {calls : List Call}
    (steady : ∀ call ∈ calls, call.present = present)
    (held : ((fresh rules).afterAll calls).remembered = some root) :
    Path.IsNormal root ∧ Marked present rules.markers root := by
  rcases exists_storedBy held with ⟨call, ⟨before, later, rfl, _, _⟩, place, nearest⟩
  have same := steady call (by simp)
  subst same
  exact ⟨nearest.isNormal, nearest.marked⟩

theorem found_congr {other : Resolver} (same : resolver.rules = other.rules) (call : Call) :
    resolver.pathOf call = other.pathOf call ∧
      resolver.foundFromFile call = other.foundFromFile call ∧
        resolver.foundFromBase call = other.foundFromBase call := by
  simp [pathOf, foundFromFile, foundFromBase, searchFrom, absolute, base, same]

theorem foundFromFile_of_isNearest (rooted : Path.isAbsolute (resolver.base call.current) = true)
    (nearest : IsNearest call.present resolver.rules.markers
      ((Path.parent? (resolver.pathOf call)).getD (resolver.pathOf call)) root) :
    resolver.foundFromFile call = some root := by
  have pathRooted := (Path.isNormal_absolutize rooted call.file).isAbsolute
  have startRooted : Path.isAbsolute
      ((Path.parent? (resolver.pathOf call)).getD (resolver.pathOf call)) = true := by
    cases parent : Path.parent? (resolver.pathOf call) with
    | none => exact pathRooted
    | some above => exact Path.isAbsolute_of_parent? pathRooted parent
  exact value_nearest_eq_some_iff.mpr ((isNearest_absolutize_iff startRooted).mpr nearest)

/-- Two resolvers with the same rules tell the same of a project if they find the same root. -/
theorem resolve_congr {other : Resolver} (same : resolver.rules = other.rules)
    (root : (resolver.rootOf present current file).value.1 =
      (other.rootOf present current file).value.1) :
    (resolver.resolve present current file).value.1 =
      (other.resolve present current file).value.1 := by
  simp only [value_resolve, root, databaseOf, same]

theorem answers_congr_of_searched {other : Resolver} (same : resolver.rules = other.rules)
    (missed : resolver.rememberedFor? (resolver.pathOf call) = none)
    (otherMissed : other.rememberedFor? (other.pathOf call) = none) :
    (resolver.resolve call.present call.current call.file).value.1 =
        (other.resolve call.present call.current call.file).value.1 ∧
      (resolver.isUnderMarker call.present call.current call.file).value.1 =
        (other.isUnderMarker call.present call.current call.file).value.1 := by
  rcases found_congr same call with ⟨_, fromFile, fromBase⟩
  constructor
  · apply resolve_congr same
    rw [value_rootOf_of_searched missed, value_rootOf_of_searched otherMissed, fromFile, fromBase]
    cases (other.foundFromFile call).or (other.foundFromBase call) with
    | none => simp [base, same]
    | some root => rfl
  · rw [value_isUnderMarker_of_searched missed, value_isUnderMarker_of_searched otherMissed,
      fromFile]

/-- What one resolver remembers is as good as what another one finds from the file. -/
theorem answers_congr_of_remembered {other : Resolver} (same : resolver.rules = other.rules)
    (held : resolver.rememberedFor? (resolver.pathOf call) = some root)
    (otherMissed : other.rememberedFor? (other.pathOf call) = none)
    (found : other.foundFromFile call = some root) :
    (resolver.resolve call.present call.current call.file).value.1 =
        (other.resolve call.present call.current call.file).value.1 ∧
      (resolver.isUnderMarker call.present call.current call.file).value.1 =
        (other.isUnderMarker call.present call.current call.file).value.1 := by
  constructor
  · apply resolve_congr same
    rw [rootOf_of_remembered held, value_rootOf_of_searched otherMissed, found]
    rfl
  · rw [value_isUnderMarker_of_remembered held, value_isUnderMarker_of_searched otherMissed, found]
    rfl

/-- What a resolver was asked before does not matter to its answer, as long as no file comes or
goes and every directory with a marker whose text begins the path of the file is the nearest one
to the directory of the file. -/
theorem answers_as_fresh {rules : Rules} {calls : List Call} {path : Text}
    (steady : ∀ call ∈ calls, call.present = present)
    (rooted : Path.isAbsolute (rules.workingDirectory.getD current) = true)
    (normal : path = Path.absolutize file (rules.workingDirectory.getD current))
    (nearestOnly : ∀ directory, Path.IsNormal directory →
      Marked present rules.markers directory → Path.hasTextPrefix path directory = true →
        IsNearest present rules.markers ((Path.parent? path).getD path) directory) :
    (((fresh rules).afterAll calls).resolve present current file).value.1 =
        ((fresh rules).resolve present current file).value.1 ∧
      (((fresh rules).afterAll calls).isUnderMarker present current file).value.1 =
        ((fresh rules).isUnderMarker present current file).value.1 := by
  let call : Call := ⟨.project, present, current, file⟩
  have sameRules : ((fresh rules).afterAll calls).rules = (fresh rules).rules :=
    rules_afterAll _ _
  have samePath := (found_congr sameRules call).1
  have freshMissed : (fresh rules).rememberedFor? ((fresh rules).pathOf call) = none := rfl
  cases held : ((fresh rules).afterAll calls).rememberedFor?
      (((fresh rules).afterAll calls).pathOf call) with
  | none =>
      have answers := answers_congr_of_searched sameRules held freshMissed
      simpa only [call] using answers
  | some root =>
      -- The memory is a directory with a marker, so by assumption the search would find it too.
      rcases Option.filter_eq_some_iff.mp held with ⟨remembered, begins⟩
      rcases marked_of_remembered steady remembered with ⟨rootNormal, marked⟩
      rw [samePath] at begins
      subst normal
      have found : (fresh rules).foundFromFile call = some root :=
        foundFromFile_of_isNearest rooted (nearestOnly root rootNormal marked begins)
      have answers := answers_congr_of_remembered sameRules held freshMissed found
      simpa only [call] using answers

/-- Two roots, `/p` and `/q`, and a file below the one that was found last. -/
theorem answers_after_two_roots :
    let rules : Rules := ⟨[['m']], ['/', 'd'], some ['/', 'w']⟩
    let present : Text → Bool := fun path =>
      path = ['/', 'p', '/', 'm'] || path = ['/', 'q', '/', 'm']
    let calls : List Call :=
      [⟨.project, present, ['/'], ['/', 'q', '/', 'y']⟩,
        ⟨.marked, present, ['/'], ['/', 'p', '/', 'x']⟩]
    ((fresh rules).afterAll calls).remembered = some ['/', 'p'] ∧
      (((fresh rules).afterAll calls).resolve present ['/'] ['/', 'p', '/', 'z']).value.1 =
        ((fresh rules).resolve present ['/'] ['/', 'p', '/', 'z']).value.1 ∧
      (((fresh rules).afterAll calls).isUnderMarker present ['/'] ['/', 'p', '/', 'z']).value.1 =
        ((fresh rules).isUnderMarker present ['/'] ['/', 'p', '/', 'z']).value.1 := by
  intro rules present calls
  have path : ['/', 'p', '/', 'z'] = Path.absolutize ['/', 'p', '/', 'z'] ['/', 'w'] := by decide
  refine ⟨by decide, answers_as_fresh (by simp [calls]) rfl path ?_⟩
  intro directory normal marked begins
  have start := List.isPrefixOf_iff_prefix.mp (Bool.and_eq_true_iff.mp begins).2
  simp only [List.prefix_cons_iff, List.prefix_nil] at start
  rcases start with rfl | ⟨_, rfl, rfl | ⟨_, rfl, rfl | ⟨_, rfl, rfl | ⟨_, rfl, rfl⟩⟩⟩⟩
  · exact absurd begins (by decide)
  · exact absurd marked (by simp [Marked, rules, present, Path.join, Path.isAbsolute])
  · exact ⟨[], [['/']], by decide, marked, by simp⟩
  · exact absurd normal.normalize_eq (by decide)
  · exact absurd marked (by simp [Marked, rules, present, Path.join, Path.isAbsolute])

end Resolver

end ProjectTags.Root
