import ProjectTags.Path.Set
import ProjectTags.Proofs.Path.Normal

/-!
# Components of a path that goes on

Joining an ordinary name to any path adds that name to the components of the path, however the
path is spelled: a slash is put between them if there is none, and repeated slashes and inner `.`
are no components. So a path with one more name lies directly below the path it was joined to,
and two such paths below one path lie inside each other only if their names agree.
-/

namespace ProjectTags.Path

/-- The components with one more name. -/
def Components.below (directory : Components) (name : Text) : Components :=
  { directory with names := directory.names ++ [name] }

theorem IsOrdinary.isVoid_eq_false {name : Text} (ordinary : IsOrdinary name) :
    isVoid name = false := by
  simp [isVoid, ordinary.ne_nil, ordinary.ne_dot]

theorem IsOrdinary.head_eq_nil {name : Text} (ordinary : IsOrdinary name) : head name = [] := by
  unfold head
  split
  · exact absurd (List.mem_cons_self ..) ordinary.no_slash
  · exact absurd rfl ordinary.ne_dot
  · exact absurd (List.mem_cons_of_mem _ (List.mem_cons_self ..)) ordinary.no_slash
  · rfl

theorem IsOrdinary.not_isAbsolute {name : Text} (ordinary : IsOrdinary name) :
    isAbsolute name = false := by
  unfold isAbsolute
  split
  · exact absurd (List.mem_cons_self ..) ordinary.no_slash
  · rfl

/-- What follows a slash does not change the part of a path in front of its names. -/
theorem head_append_slash {base : Text} (nonempty : base ≠ []) (rest : Text) :
    head (base ++ '/' :: rest) = head base := by
  match base with
  | [] => exact absurd rfl nonempty
  | [c] =>
      by_cases slash : c = '/'
      · subst slash
        rfl
      · by_cases dot : c = '.'
        · subst dot
          rfl
        · simp [head, slash, dot]
  | c :: d :: others =>
      by_cases slash : c = '/'
      · subst slash
        rfl
      · by_cases dot : c = '.'
        · subst dot
          by_cases next : d = '/'
          · subst next
            rfl
          · simp [head, next]
        · simp [head, slash, dot]

theorem length_head_le (path : Text) : (head path).length ≤ path.length := by
  unfold head
  split <;> simp

/-- Behind a slash the components go on with what follows it. -/
theorem components_append_slash {base : Text} (nonempty : base ≠ []) (rest : Text) :
    components (base ++ '/' :: rest) =
      { components base with
        names := (components base).names ++
          (Text.pieces '/' rest).filter fun piece => !isVoid piece } := by
  simp only [components]
  rw [head_append_slash nonempty, List.drop_append_of_le_length (length_head_le base),
    Text.pieces_append_cons, List.filter_append]
  simp only [Components.mk.injEq, true_and]
  split <;> simp

theorem components_slash (rest : Text) :
    components ('/' :: rest) =
      ⟨true, (Text.pieces '/' rest).filter fun piece => !isVoid piece⟩ := by
  simp [components, head]

theorem IsOrdinary.filter_pieces {name : Text} (ordinary : IsOrdinary name) :
    (Text.pieces '/' name).filter (fun piece => !isVoid piece) = [name] := by
  simp [Text.pieces_eq_singleton ordinary.no_slash, ordinary.isVoid_eq_false]

theorem IsOrdinary.components_eq {name : Text} (ordinary : IsOrdinary name) :
    components name = ⟨false, [name]⟩ := by
  have pieces := ordinary.filter_pieces
  simp only [components, ordinary.head_eq_nil, List.length_nil, List.drop_zero, pieces]
  rfl

/-- An ordinary name that is joined to a path becomes one more component, whatever the path. -/
theorem IsOrdinary.components_join {name : Text} (ordinary : IsOrdinary name) (base : Text) :
    components (join base name) = (components base).below name := by
  unfold join
  rw [if_neg (by simp [ordinary.not_isAbsolute])]
  split
  · next closed =>
      rcases List.eq_nil_or_concat base with rfl | ⟨start, last, rfl⟩
      · rw [List.nil_append, ordinary.components_eq]
        rfl
      · rw [List.concat_eq_append] at closed ⊢
        have slash : last = '/' := by simpa using closed
        subst slash
        rw [List.append_assoc, List.singleton_append]
        by_cases root : start = []
        · subst root
          rw [List.nil_append, List.nil_append, components_slash, ordinary.filter_pieces]
          rfl
        · rw [components_append_slash root, components_append_slash root, ordinary.filter_pieces]
          simp [Components.below, Text.pieces, isVoid]
  · next open_ =>
      have nonempty : base ≠ [] := by
        rintro rfl
        simp at open_
      rw [components_append_slash nonempty, ordinary.filter_pieces, Components.below]

/-- Of two ordinary names joined to one path, one leads into the other only if they agree. -/
theorem IsOrdinary.isWithin_join_iff {first second : Text} (ordinary : IsOrdinary first)
    (otherOrdinary : IsOrdinary second) (base : Text) :
    Paths.isWithin (join base first) (join base second) = true ↔ first = second := by
  simp [Paths.isWithin, ordinary.components_join, otherOrdinary.components_join,
    Components.below]

end ProjectTags.Path
