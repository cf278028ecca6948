import Mathlib.Data.List.Basic
import ProjectTags.Proofs.Path.Components

/-!
# Paths that end in a name

Joining an ordinary name to a path puts that name behind its last slash. So the name is the last
piece of the path that comes out, and going up from there leads back to the path before it, if
that one ends in a name too.
-/

namespace ProjectTags.Path

variable {name last : Text}

/-- An ordinary name that is joined to a path is either all of the path or stands behind a slash. -/
theorem IsOrdinary.join_cases (ordinary : IsOrdinary name) (base : Text) :
    (base = [] ∧ join base name = name) ∨
      ∃ start, (base = start ++ ['/'] ∨ base = start ∧ start ≠ []) ∧
        join base name = start ++ '/' :: name := by
  unfold join
  rw [if_neg (by simp [ordinary.not_isAbsolute])]
  split
  · next closed =>
      rcases List.eq_nil_or_concat base with rfl | ⟨start, slash, rfl⟩
      · exact Or.inl ⟨rfl, rfl⟩
      · rw [List.concat_eq_append] at closed ⊢
        have same : slash = '/' := by simpa using closed
        subst same
        exact Or.inr ⟨start, Or.inl rfl, by simp⟩
  · next opened =>
      have nonempty : base ≠ [] := by
        rintro rfl
        simp at opened
      exact Or.inr ⟨base, Or.inr ⟨rfl, nonempty⟩, rfl⟩

/-- The pieces of a path to which a name is joined are pieces of that path, and the name. -/
theorem IsOrdinary.exists_pieces_join (ordinary : IsOrdinary name) (base : Text) :
    ∃ names, Text.pieces '/' (join base name) = names ++ [name] ∧
      ∀ piece ∈ names, piece ∈ Text.pieces '/' base := by
  rcases ordinary.join_cases base with ⟨_, joined⟩ | ⟨start, base_eq, joined⟩
  · refine ⟨[], ?_, by simp⟩
    rw [joined, Text.pieces_eq_singleton ordinary.no_slash, List.nil_append]
  · refine ⟨Text.pieces '/' start, ?_, ?_⟩
    · rw [joined, Text.pieces_append_cons, Text.pieces_eq_singleton ordinary.no_slash]
    · intro piece mem
      rcases base_eq with rfl | ⟨rfl, _⟩
      · rw [Text.pieces_append_cons]
        exact List.mem_append_left _ mem
      · exact mem

theorem not_isVoid_of_joined (ordinary : IsOrdinary name) (base : Text) :
    ∃ piece ∈ Text.pieces '/' (join base name), isVoid piece = false := by
  rcases ordinary.exists_pieces_join base with ⟨names, cut, _⟩
  exact ⟨name, by simp [cut], ordinary.isVoid_eq_false⟩

theorem IsOrdinary.getLast?_ne_slash (ordinary : IsOrdinary name) (base : Text) :
    (join base name).getLast? ≠ some '/' := by
  have inName : name.getLast? ≠ some '/' := fun last =>
    ordinary.no_slash (List.mem_of_getLast? last)
  rcases ordinary.join_cases base with ⟨_, joined⟩ | ⟨start, _, joined⟩
  · rwa [joined]
  · rwa [joined, List.append_cons, List.getLast?_append_of_ne_nil _ ordinary.ne_nil]

/-- A name in front of which a slash or nothing stands is the last piece. -/
theorem reverse_pieces_join (ordinary : IsOrdinary name) (base : Text) {rest : Text}
    (dropped : (join base name).drop (head (join base name)).length = rest) :
    ∃ others, (Text.pieces '/' rest).reverse = name :: others := by
  rcases ordinary.join_cases base with ⟨_, joined⟩ | ⟨start, _, joined⟩
  · rw [joined, ordinary.head_eq_nil, List.length_nil, List.drop_zero] at dropped
    subst dropped
    exact ⟨[], by rw [Text.pieces_eq_singleton ordinary.no_slash]; rfl⟩
  · rw [joined] at dropped
    by_cases empty : start = []
    · subst empty
      have root : head ([] ++ '/' :: name) = ['/'] := rfl
      rw [root] at dropped
      subst dropped
      refine ⟨[], ?_⟩
      simp [Text.pieces_eq_singleton ordinary.no_slash]
    · rw [head_append_slash empty, List.drop_append_of_le_length (length_head_le start)] at dropped
      subst dropped
      rw [Text.pieces_append_cons, Text.pieces_eq_singleton ordinary.no_slash,
        List.reverse_append]
      exact ⟨_, rfl⟩

theorem join_ne_nil (ordinary : IsOrdinary name) (base : Text) : join base name ≠ [] := by
  rcases ordinary.join_cases base with ⟨_, joined⟩ | ⟨start, _, joined⟩
  · rw [joined]
    exact ordinary.ne_nil
  · rw [joined]
    simp

theorem take_head (path : Text) : head path ++ path.drop (head path).length = path := by
  unfold head
  split <;> simp

theorem IsOrdinary.join_eq (ordinary : IsOrdinary name) {base : Text} (nonempty : base ≠ [])
    (opened : base.getLast? ≠ some '/') : join base name = base ++ '/' :: name := by
  simp [join, ordinary.not_isAbsolute, nonempty, opened]

/-- One name further down and up again leads back to a path that ends in a name. -/
theorem parent?_join (ordinary : IsOrdinary name) (lastOrdinary : IsOrdinary last) (base : Text) :
    parent? (join (join base name) last) = some (join base name) := by
  have nonempty := join_ne_nil ordinary base
  rcases reverse_pieces_join ordinary base rfl with ⟨others, cut⟩
  rw [lastOrdinary.join_eq nonempty (ordinary.getLast?_ne_slash base), parent?,
    head_append_slash nonempty]
  generalize join base name = path at nonempty cut ⊢
  have back : (name :: others).reverse = Text.pieces '/' (path.drop (head path).length) := by
    rw [← cut, List.reverse_reverse]
  rw [List.drop_append_of_le_length (length_head_le path), Text.pieces_append_cons,
    Text.pieces_eq_singleton lastOrdinary.no_slash]
  simp only [List.reverse_append, List.reverse_singleton, List.singleton_append, cut,
    List.dropWhile_cons, lastOrdinary.isVoid_eq_false, ordinary.isVoid_eq_false,
    Bool.false_eq_true, if_false]
  rw [back, Text.joinWith_pieces, take_head]

/-- The paths that going up from a path comes to. -/
inductive IsAbove (path : Text) : Text → Prop where
  | parent {above : Text} (up : parent? path = some above) : IsAbove path above
  | further {between above : Text} (higher : IsAbove path between)
      (up : parent? between = some above) : IsAbove path above

theorem IsAbove.of_parent {path between above : Text} (up : parent? path = some between)
    (higher : IsAbove between above) : IsAbove path above := by
  induction higher with
  | parent next => exact .further (.parent up) next
  | further _ next ih => exact .further ih next

end ProjectTags.Path
