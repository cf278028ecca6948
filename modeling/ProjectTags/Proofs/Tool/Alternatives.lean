import Mathlib.Data.List.Basic
import ProjectTags.Tool.Find.Walk

/-!
# Alternatives of tests

An expression of the tool `find` that is written as alternatives, each of which is a sequence of
tests, is read as such. It is decided from left to right: the tests of an alternative up to the
first that does not hold, and further alternatives only if this one does not hold. So whether the
walk goes below a place depends on the first alternative that holds there, and on tests that were
made before. A walk that is kept from going below its starting point is over.
-/

namespace ProjectTags.Tool.Find

/-- The tests and actions that listings are made of. -/
inductive Test where
  | name (pattern : Text)
  | directory
  | file
  | prune
  | print
  deriving DecidableEq

namespace Test

/-- How a test is written. -/
def words : Test → List Text
  | name pattern => ["-name".toList, pattern]
  | directory => ["-type".toList, ['d']]
  | file => ["-type".toList, ['f']]
  | prune => ["-prune".toList]
  | print => ["-print".toList]

/-- The expression that a test is. -/
def expression : Test → Expression
  | name pattern => .name false pattern
  | directory => .kind ['d']
  | file => .kind ['f']
  | prune => .prune
  | print => .print '\n'

/-- Whether a test holds at a place. -/
def holds (place : Place) : Test → Bool
  | name pattern => Glob.holds pattern place.baseName
  | directory => kindOf place = 'd'
  | file => kindOf place = 'f'
  | prune | print => true

end Test

/-- Tests that all have to hold, of which there is at least one. -/
structure Group where
  first : Test
  others : List Test

namespace Group

/-- All tests of a group. -/
def tests (group : Group) : List Test := group.first :: group.others

/-- How a group is written. -/
def words (group : Group) : List Text := group.tests.flatMap Test.words

/-- The expression of some tests side by side. -/
def every : Test → List Test → Expression
  | first, [] => first.expression
  | first, next :: others => .and first.expression (every next others)

/-- The expression that a group is. -/
def expression (group : Group) : Expression := every group.first group.others

/-- Whether all tests of a group hold at a place. -/
def holds (place : Place) (group : Group) : Bool := group.tests.all (Test.holds place)

/-- Whether an action to prune is reached among some tests, up to the first that does not hold. -/
def reachesPrune (place : Place) : Test → List Test → Bool
  | first, [] => first = .prune
  | first, next :: others =>
      first = .prune || (first.holds place && reachesPrune place next others)

/-- Whether an action to prune is reached in a group. -/
def prunes (place : Place) (group : Group) : Bool :=
  reachesPrune place group.first group.others

end Group

/-- How alternatives are written. -/
def alternativeWords : Group → List Group → List Text
  | group, [] => group.words
  | group, next :: others => group.words ++ "-o".toList :: alternativeWords next others

/-- The expression of alternatives. -/
def either : Group → List Group → Expression
  | group, [] => group.expression
  | group, next :: others => .or group.expression (either next others)

/-- Whether an action to prune is reached in alternatives. -/
def anyPrunes (place : Place) : List Group → Bool
  | [] => false
  | group :: others => group.prunes place || (!group.holds place && anyPrunes place others)

variable {steps : Nat} {before latest : Text} {rest : List Text} {bounds : Bounds}
  {test first : Test} {others : List Test} {group : Group} {groups : List Group}
  {runner : Runner} {place : Place} {walk after : Progression} {expression : Expression}
  {holds : Bool}

/-! ## Reading -/

theorem readOne_test :
    (readOne (steps + 1) before).run ⟨test.words ++ rest, bounds, latest⟩ =
      .ok (test.expression, ⟨rest, bounds, test.words.headD []⟩) := by
  cases test <;> rfl

/-- Where a group ends. -/
def EndsGroup (rest : List Text) : Prop :=
  rest = [] ∨ ∃ more, rest = "-o".toList :: more

theorem run_bind {α β : Type} {reading : Reading α} {next : α → Reading β} {value : α}
    {progress after : Progress} (read : reading.run progress = .ok (value, after)) :
    (reading >>= next).run progress = (next value).run after := by
  rw [StateT.run_bind, read]
  rfl

theorem readEvery_last (ends : EndsGroup rest) :
    (readEvery (steps + 2) before).run ⟨test.words ++ rest, bounds, latest⟩ =
      .ok (test.expression, ⟨rest, bounds, test.words.headD []⟩) := by
  rw [readEvery.eq_def]
  refine (run_bind readOne_test).trans ?_
  rcases ends with rfl | ⟨more, rfl⟩ <;> rfl

theorem readEvery_next {next : Test} {expression : Expression} {after : Progress}
    (later : (readEvery (steps + 1) []).run ⟨next.words ++ rest, bounds, test.words.headD []⟩ =
      .ok (expression, after)) :
    (readEvery (steps + 2) before).run ⟨test.words ++ (next.words ++ rest), bounds, latest⟩ =
      .ok (.and test.expression expression, after) := by
  rw [readEvery.eq_def]
  refine (run_bind readOne_test).trans ?_
  have further : (readEvery (steps + 1) [] >>= fun second => pure (test.expression.and second)).run
      ⟨next.words ++ rest, bounds, test.words.headD []⟩ =
        .ok (test.expression.and expression, after) := run_bind later
  cases next <;> exact further

theorem readEvery_group (before latest : Text) (bounds : Bounds) (ends : EndsGroup rest)
    (enough : group.others.length + 2 ≤ steps) :
    ∃ last, (readEvery steps before).run ⟨group.words ++ rest, bounds, latest⟩ =
      .ok (group.expression, ⟨rest, bounds, last⟩) := by
  rcases group with ⟨first, others⟩
  induction others generalizing first before latest steps with
  | nil =>
      rcases Nat.exists_eq_add_of_le' enough with ⟨fewer, rfl⟩
      refine ⟨first.words.headD [], ?_⟩
      simp only [Group.words, Group.tests, List.flatMap_cons, List.flatMap_nil, List.append_nil]
      exact readEvery_last ends
  | cons next others ih =>
      rcases Nat.exists_eq_add_of_le' enough with ⟨fewer, rfl⟩
      have enough : others.length + 2 ≤ fewer + others.length + 2 := by omega
      rcases ih [] (first.words.headD []) next enough with ⟨last, later⟩
      refine ⟨last, ?_⟩
      simp only [Group.words, Group.tests, List.flatMap_cons, List.append_assoc] at later ⊢
      exact readEvery_next later

theorem length_others_lt (group : Group) : group.others.length < group.words.length := by
  rcases group with ⟨first, others⟩
  have some (test : Test) : 0 < test.words.length := by
    cases test <;> simp [Test.words]
  have each (tests : List Test) : tests.length ≤ (tests.flatMap Test.words).length := by
    induction tests with
    | nil => exact Nat.le_refl _
    | cons test tests ih =>
        have := some test
        simp only [List.length_cons, List.flatMap_cons, List.length_append]
        omega
  have := some first
  have := each others
  simp only [Group.words, Group.tests, List.flatMap_cons, List.length_append]
  omega

/-- Alternatives are read as such. -/
theorem readEither_alternatives (before latest : Text) (bounds : Bounds)
    (enough : (alternativeWords group groups).length + 2 ≤ steps) :
    ∃ last, (readEither steps before).run ⟨alternativeWords group groups, bounds, latest⟩ =
      .ok (either group groups, ⟨[], bounds, last⟩) := by
  have tests := length_others_lt group
  rcases steps with _ | steps
  · omega
  induction groups generalizing group before latest steps with
  | nil =>
      have enough : group.others.length + 2 ≤ steps := by
        simp only [alternativeWords] at enough
        omega
      rcases readEvery_group before latest bounds (Or.inl rfl) enough with ⟨last, read⟩
      refine ⟨last, ?_⟩
      rw [List.append_nil] at read
      rw [readEither.eq_def]
      exact (run_bind read).trans rfl
  | cons next groups ih =>
      simp only [alternativeWords, List.length_append, List.length_cons] at enough
      rcases readEvery_group before latest bounds (Or.inr ⟨alternativeWords next groups, rfl⟩)
        (show group.others.length + 2 ≤ steps by omega) with ⟨middle, first⟩
      rcases steps with _ | steps
      · omega
      rcases ih "-o".toList middle (length_others_lt next) steps (by omega) with ⟨last, later⟩
      refine ⟨last, ?_⟩
      rw [readEither.eq_def]
      refine (run_bind first).trans ?_
      have further : (readEither (steps + 1) "-o".toList >>= fun second =>
          pure (group.expression.or second)).run ⟨alternativeWords next groups, bounds, middle⟩ =
            .ok (group.expression.or (either next groups), ⟨[], bounds, last⟩) := run_bind later
      exact further

theorem readExpression_alternatives (group : Group) (groups : List Group) :
    readExpression (alternativeWords group groups) =
      .ok (either group groups, ⟨0, none, false⟩) := by
  have enough : (alternativeWords group groups).length + 2 ≤
      6 * (alternativeWords group groups).length + 5 := by omega
  rcases readEither_alternatives [] [] ⟨0, none, false⟩ enough with ⟨last, read⟩
  have filled : (alternativeWords group groups).isEmpty = false := by
    rcases group with ⟨first, others⟩
    cases first <;> cases groups <;> rfl
  have readList : (readList (6 * (alternativeWords group groups).length + 6) []).run
      ⟨alternativeWords group groups, ⟨0, none, false⟩, []⟩ =
      .ok (either group groups, ⟨[], ⟨0, none, false⟩, last⟩) := by
    rw [Find.readList.eq_def]
    exact (run_bind read).trans rfl
  rw [readExpression, filled]
  simp only [Bool.false_eq_true, if_false, readList]
  rfl

/-! ## Deciding -/

/-- At a place an expression holds or not, does not end the walk, and may keep it from going below
the place. -/
def Decides (runner : Runner) (place : Place) (expression : Expression) (holds prunes : Bool) :
    Prop :=
  ∀ walk : Progression, walk.quit = false →
    ∃ after, (decideAt runner place expression).run walk = (holds, after) ∧
      after.quit = false ∧ after.pruned = (walk.pruned || prunes)

theorem run_visit_bind {α β : Type} {visit : Visit α} {next : α → Visit β} {value : α}
    {after : Progression} (run : visit.run walk = (value, after)) :
    (visit >>= next).run walk = (next value).run after := by
  rw [StateT.run_bind, run]
  rfl

theorem decides_test (test : Test) :
    Decides runner place test.expression (test.holds place) (test = .prune) := by
  intro walk goesOn
  cases test with
  | name pattern => exact ⟨walk, rfl, goesOn, by simp⟩
  | directory =>
      refine ⟨walk, ?_, goesOn, by simp⟩
      simp [Test.expression, Test.holds, decideAt]
      rfl
  | file =>
      refine ⟨walk, ?_, goesOn, by simp⟩
      simp [Test.expression, Test.holds, decideAt]
      rfl
  | prune => exact ⟨_, rfl, goesOn, by simp⟩
  | print => exact ⟨_, rfl, goesOn, by simp⟩

section

variable {one two : Expression} {holdsOne holdsTwo prunesOne prunesTwo : Bool}
  (decidesOne : Decides runner place one holdsOne prunesOne)
  (decidesTwo : Decides runner place two holdsTwo prunesTwo)

include decidesOne decidesTwo

theorem Decides.and :
    Decides runner place (.and one two) (holdsOne && holdsTwo)
      (prunesOne || (holdsOne && prunesTwo)) := by
  intro walk goesOn
  rcases decidesOne walk goesOn with ⟨middle, runOne, goesOnOne, prunedOne⟩
  rcases decidesTwo middle goesOnOne with ⟨after, runTwo, goesOnTwo, prunedTwo⟩
  have run : (decideAt runner place (.and one two)).run walk =
      (if holdsOne && !middle.quit then decideAt runner place two else pure false).run middle := by
    rw [decideAt]
    exact run_visit_bind runOne
  rw [goesOnOne] at run
  cases holdsOne with
  | true =>
      exact ⟨after, run.trans runTwo, goesOnTwo, by simp [prunedTwo, prunedOne, Bool.or_assoc]⟩
  | false => exact ⟨middle, run, goesOnOne, by simp [prunedOne]⟩

theorem Decides.or :
    Decides runner place (.or one two) (holdsOne || holdsTwo)
      (prunesOne || (!holdsOne && prunesTwo)) := by
  intro walk goesOn
  rcases decidesOne walk goesOn with ⟨middle, runOne, goesOnOne, prunedOne⟩
  rcases decidesTwo middle goesOnOne with ⟨after, runTwo, goesOnTwo, prunedTwo⟩
  have run : (decideAt runner place (.or one two)).run walk =
      (if holdsOne || middle.quit then pure holdsOne else decideAt runner place two).run
        middle := by
    rw [decideAt]
    exact run_visit_bind runOne
  rw [goesOnOne] at run
  cases holdsOne with
  | true => exact ⟨middle, run, goesOnOne, by simp [prunedOne]⟩
  | false =>
      exact ⟨after, run.trans runTwo, goesOnTwo, by simp [prunedTwo, prunedOne, Bool.or_assoc]⟩

end

theorem decides_group (group : Group) :
    Decides runner place group.expression (group.holds place) (group.prunes place) := by
  rcases group with ⟨first, others⟩
  induction others generalizing first with
  | nil =>
      have alone : Decides runner place first.expression (first.holds place) (first = .prune) :=
        decides_test first
      rwa [← Bool.and_true (first.holds place)] at alone
  | cons next others ih => exact (decides_test first).and (ih next)

/-- Alternatives hold if one of them does, and prune if one does that is reached. -/
theorem decides_either (runner : Runner) (place : Place) (group : Group) (groups : List Group) :
    Decides runner place (either group groups) ((group :: groups).any (Group.holds place))
      (anyPrunes place (group :: groups)) := by
  induction groups generalizing group with
  | nil =>
      simpa [anyPrunes, either] using decides_group group
  | cons next groups ih => exact (decides_group group).or (ih next)

theorem acts_every (writes : .print ∈ first :: others) :
    (Group.every first others).acts = true := by
  induction others generalizing first with
  | nil =>
      rw [List.mem_singleton] at writes
      rw [← writes]
      rfl
  | cons next others ih =>
      change (first.expression.acts || (Group.every next others).acts) = true
      rw [Bool.or_eq_true]
      rcases List.mem_cons.mp writes with here | later
      · rw [← here]
        exact Or.inl rfl
      · exact Or.inr (ih later)

theorem acts_either {writer : Group} (isThere : writer ∈ group :: groups)
    (writes : .print ∈ writer.tests) : (either group groups).acts = true := by
  induction groups generalizing group with
  | nil =>
      rw [List.mem_singleton] at isThere
      rw [← isThere]
      exact acts_every writes
  | cons next groups ih =>
      change (group.expression.acts || (either next groups).acts) = true
      rw [Bool.or_eq_true]
      rcases List.mem_cons.mp isThere with rfl | later
      · exact Or.inl (acts_every writes)
      · exact Or.inr (ih later)

/-- Where one of the alternatives writes paths, nothing is added to them. -/
theorem completed_either {writer : Group} (isThere : writer ∈ group :: groups)
    (writes : .print ∈ writer.tests) : (either group groups).completed = either group groups :=
  if_pos (acts_either isThere writes)

/-! ## Walks -/

/-- A walk is over at a place that it is kept from going below. -/
theorem run_walkFrom_of_pruned (levels : Nat) (goesOn : walk.quit = false)
    (unpruned : walk.pruned = false)
    (decided : (decideAt runner place expression).run walk = (holds, after))
    (pruned : after.pruned = true) :
    (walkFrom runner expression ⟨0, none, false⟩ (levels + 1) place).run walk = ((), after) := by
  rcases walk with ⟨call, written, batches, _, _, status⟩
  cases goesOn
  cases unpruned
  change _ = (pure (holds, after) : Id (Bool × Progression)) at decided
  rw [walkFrom]
  simp only [StateT.run_bind, StateT.run_get, pure_bind, StateT.run_modify, decided,
    Bool.false_eq_true, if_false, Bool.not_false, if_true, Nat.zero_le, pruned, StateT.run_pure,
    Bool.false_or, Bool.not_true, Bool.and_false, Bool.false_and]
  rfl

theorem run_walkPoint_of_pruned {point : Text} {location : Location} (goesOn : walk.quit = false)
    (unpruned : walk.pruned = false)
    (found : walk.call.machine.files.find walk.call.machine.current point =
      .ok (location, .directory))
    (decided : (decideAt runner ⟨point, Files.lastName point, [], 0, location, .directory⟩
      expression).run walk = (holds, after))
    (pruned : after.pruned = true) :
    (walkPoint runner expression ⟨0, none, false⟩ point).run walk = ((), after) := by
  simp only [walkPoint, StateT.run_bind, StateT.run_get, pure_bind, goesOn, Bool.false_eq_true,
    if_false, found]
  exact run_walkFrom_of_pruned _ goesOn unpruned decided pruned

end ProjectTags.Tool.Find
