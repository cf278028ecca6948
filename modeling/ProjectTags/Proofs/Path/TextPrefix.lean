import ProjectTags.Proofs.Path.Ascent
import ProjectTags.Proofs.Path.Climbing

/-!
# Paths whose text begins with that of another

The text of a path in normal form is its names with a slash in front of each. If it begins with the
text of a root, each name of the root but the last has a slash behind it and so is a whole name of
the path. Behind the last one the path may go on with a slash, which leads below the root, or with
more of the same name, which leads to a directory beside it.
-/

namespace ProjectTags.Path

/-- Some names, each with a slash in front. -/
def trail (names : List Text) : Text :=
  names.flatMap ('/' :: ·)

variable {names roots others : List Text} {name last path root : Text}

@[simp]
theorem trail_nil : trail [] = [] := rfl

@[simp]
theorem trail_cons (name : Text) (others : List Text) :
    trail (name :: others) = '/' :: (name ++ trail others) := by
  simp [trail]

@[simp]
theorem trail_append (names others : List Text) :
    trail (names ++ others) = trail names ++ trail others := by
  simp [trail]

theorem absolute_cons (name : Text) (others : List Text) :
    absolute (name :: others) = trail (name :: others) := by
  induction others generalizing name with
  | nil => simp [absolute, ofNames, Text.joinWith]
  | cons next more ih =>
      rw [trail_cons, ← ih next]
      simp [absolute, ofNames, Text.joinWith]

theorem absolute_eq_trail (nonempty : names ≠ []) : absolute names = trail names := by
  cases names with
  | nil => exact absurd rfl nonempty
  | cons name others => exact absolute_cons name others

/-- A name goes on up to the next slash. -/
theorem takeWhile_append (noSlash : '/' ∉ name) (rest : Text) :
    (name ++ rest).takeWhile (· != '/') = name ++ rest.takeWhile (· != '/') := by
  apply List.takeWhile_append_of_pos
  intro c mem
  simpa using fun same : c = '/' => noSlash (same ▸ mem)

@[simp]
theorem takeWhile_trail (others : List Text) : (trail others).takeWhile (· != '/') = [] := by
  cases others <;> simp

/-- A last name need only begin the name in its place. -/
theorem prefix_append_trail_iff (noSlash : '/' ∉ last) (nameFree : '/' ∉ name) :
    last <+: name ++ trail others ↔ last <+: name := by
  constructor
  · rintro ⟨rest, whole⟩
    have cut := congrArg (List.takeWhile (· != '/')) whole
    rw [takeWhile_append noSlash, takeWhile_append nameFree, takeWhile_trail,
      List.append_nil] at cut
    exact ⟨_, cut⟩
  · exact fun start => start.trans (List.prefix_append _ _)

/-- Any other name has a slash behind it and is the name in its place. -/
theorem append_trail_prefix_iff (noSlash : '/' ∉ last) (nameFree : '/' ∉ name)
    (goesOn : roots ≠ []) :
    last ++ trail roots <+: name ++ trail others ↔ last = name ∧ trail roots <+: trail others := by
  constructor
  · rintro ⟨rest, whole⟩
    rw [List.append_assoc] at whole
    have cut := congrArg (List.takeWhile (· != '/')) whole
    have slash : (trail roots ++ rest).takeWhile (· != '/') = [] := by
      cases roots with
      | nil => exact absurd rfl goesOn
      | cons first more => simp
    rw [takeWhile_append noSlash, takeWhile_append nameFree, slash, takeWhile_trail,
      List.append_nil, List.append_nil] at cut
    subst cut
    exact ⟨rfl, rest, List.append_cancel_left whole⟩
  · rintro ⟨rfl, start⟩
    exact (List.prefix_append_right_inj _).mpr start

/-- The names above the last one are whole names of the path, and the last one may be continued. -/
theorem trail_concat_prefix_iff {above : List Text} (aboveFree : ∀ name ∈ above, '/' ∉ name)
    (lastFree : '/' ∉ last) (namesFree : ∀ name ∈ names, '/' ∉ name) :
    trail (above ++ [last]) <+: trail names ↔
      ∃ more below, names = above ++ (last ++ more) :: below := by
  induction above generalizing names with
  | nil =>
      cases names with
      | nil => simp
      | cons name others =>
          have nameFree := namesFree name (List.mem_cons_self ..)
          rw [List.nil_append, trail_cons, trail_cons, trail_nil, List.append_nil,
            List.cons_prefix_cons, prefix_append_trail_iff lastFree nameFree]
          constructor
          · rintro ⟨_, more, rfl⟩
            exact ⟨more, others, rfl⟩
          · rintro ⟨more, below, same⟩
            cases same
            exact ⟨rfl, List.prefix_append _ _⟩
  | cons first inner ih =>
      cases names with
      | nil => simp
      | cons name others =>
          have firstFree := aboveFree first (List.mem_cons_self ..)
          have nameFree := namesFree name (List.mem_cons_self ..)
          have further := ih (fun other mem => aboveFree other (List.mem_cons_of_mem _ mem))
            (fun other mem => namesFree other (List.mem_cons_of_mem _ mem))
          rw [List.cons_append, trail_cons, trail_cons, List.cons_prefix_cons,
            append_trail_prefix_iff firstFree nameFree (by simp), further]
          constructor
          · rintro ⟨_, rfl, more, below, rfl⟩
            exact ⟨more, below, rfl⟩
          · rintro ⟨more, below, same⟩
            cases same
            exact ⟨rfl, rfl, more, below, rfl⟩

/-- The root has no name and so has only a slash in its text. -/
theorem absolute_concat_prefix_iff {above : List Text} (filled : last ≠ []) :
    absolute (above ++ [last]) <+: absolute names ↔ trail (above ++ [last]) <+: trail names := by
  rw [absolute_eq_trail (by simp : above ++ [last] ≠ [])]
  cases names with
  | nil =>
      have size : 1 < (trail (above ++ [last])).length := by
        have positive := List.length_pos_iff.mpr filled
        simp only [trail_append, trail_cons, trail_nil, List.append_nil, List.length_append,
          List.length_cons]
        omega
      refine iff_of_false (fun start => ?_) (fun start => ?_)
      · exact absurd start.length_le (Nat.not_le.mpr size)
      · simp at start
  | cons name others => rw [absolute_cons]

/-- A path begins with the text of a root if that is `/`, or if the path goes on from the last name
of the root, behind it or with more of it. -/
theorem hasTextPrefix_absolute_iff (ordinary : ∀ name ∈ names, IsOrdinary name)
    (rootOrdinary : ∀ name ∈ roots, IsOrdinary name) :
    hasTextPrefix (absolute names) (absolute roots) = true ↔
      roots = [] ∨ ∃ above last more below,
        roots = above ++ [last] ∧ names = above ++ (last ++ more) :: below := by
  have begins : hasTextPrefix (absolute names) (absolute roots) = true ↔
      absolute roots <+: absolute names := by
    simp [hasTextPrefix, absolute]
  rw [begins]
  rcases List.eq_nil_or_concat roots with rfl | ⟨above, last, rfl⟩
  · simp [absolute, ofNames, Text.joinWith]
  · rw [List.concat_eq_append] at rootOrdinary ⊢
    have lastOrdinary := rootOrdinary last (by simp)
    have aboveFree : ∀ name ∈ above, '/' ∉ name := fun name mem =>
      (rootOrdinary name (List.mem_append_left _ mem)).no_slash
    rw [absolute_concat_prefix_iff lastOrdinary.ne_nil,
      trail_concat_prefix_iff aboveFree lastOrdinary.no_slash fun name mem =>
        (ordinary name mem).no_slash]
    constructor
    · rintro ⟨more, below, split⟩
      exact Or.inr ⟨above, last, more, below, rfl, split⟩
    · rintro (empty | ⟨_, _, more, below, same, split⟩)
      · simp at empty
      · rcases List.append_inj' same rfl with ⟨rfl, sameLast⟩
        cases sameLast
        exact ⟨more, below, split⟩

/-! ## By the places of names, and by directories -/

/-- The names of a path begin with those of a root, except that the last one of the root need only
begin the name in its place. -/
structure BeginsByNames (roots names : List Text) : Prop where
  length_le : roots.length ≤ names.length
  same : ∀ i, i + 1 < roots.length → roots[i]? = names[i]?
  last : ∃ last name, roots[roots.length - 1]? = some last ∧
    names[roots.length - 1]? = some name ∧ last <+: name

theorem beginsByNames_iff : BeginsByNames roots names ↔ ∃ above last more below,
    roots = above ++ [last] ∧ names = above ++ (last ++ more) :: below := by
  constructor
  · intro begins
    rcases List.eq_nil_or_concat roots with rfl | ⟨above, last, rfl⟩
    · simpa using begins.last
    · rw [List.concat_eq_append] at begins ⊢
      have place : (above ++ [last]).length - 1 = above.length := by simp
      rcases begins.last with ⟨final, name, rootLast, nameThere, more, whole⟩
      rw [place] at rootLast nameThere
      have same : last = final := by simpa using rootLast
      subst same whole
      have front : names.take above.length = above := by
        apply List.ext_getElem?
        intro i
        rw [List.getElem?_take]
        split
        · next inner =>
            rw [← begins.same i (by simpa using inner), List.getElem?_append_left inner]
        · next outer => exact (List.getElem?_eq_none (Nat.not_lt.mp outer)).symm
      refine ⟨above, last, more, names.drop (above.length + 1), rfl, ?_⟩
      calc names = names.take above.length ++ names.drop above.length :=
            (List.take_append_drop _ _).symm
        _ = above ++ (last ++ more) :: names.drop (above.length + 1) := by
            rcases List.getElem?_eq_some_iff.mp nameThere with ⟨bound, there⟩
            rw [front, List.drop_eq_getElem_cons bound, there]
  · rintro ⟨above, last, more, below, rfl, rfl⟩
    refine ⟨by simp, ?_, last, last ++ more, by simp, by simp, List.prefix_append _ _⟩
    intro i inner
    have before : i < above.length := by simpa using inner
    rw [List.getElem?_append_left before, List.getElem?_append_left before]

theorem isAtOrAbove_absolute_iff (ordinary : ∀ name ∈ names, IsOrdinary name)
    (rootOrdinary : ∀ name ∈ roots, IsOrdinary name) :
    IsAtOrAbove (absolute names) (absolute roots) ↔ roots <+: names := by
  rw [← mem_ancestors_iff ⟨names, ordinary, rfl⟩, ancestors, names_absolute ordinary, upward,
    List.map_map, List.mem_map]
  constructor
  · rintro ⟨count, _, same⟩
    have takenOrdinary : ∀ name ∈ names.take count, IsOrdinary name := fun name mem =>
      ordinary name (List.mem_of_mem_take mem)
    rw [Function.comp_apply, absolute_injective takenOrdinary rootOrdinary] at same
    rw [← same]
    exact List.take_prefix count names
  · intro start
    refine ⟨roots.length, ?_, ?_⟩
    · rw [List.mem_reverse, List.mem_range]
      exact Nat.lt_succ_of_le start.length_le
    · rw [Function.comp_apply, ← List.prefix_iff_eq_take.mp start]

/-- A directory beside another one whose name is that of the other one and more. -/
def IsLongerSibling (root sibling : Text) : Prop :=
  ∃ above last more, more ≠ [] ∧ (∀ name ∈ above, IsOrdinary name) ∧ IsOrdinary last ∧
    IsOrdinary (last ++ more) ∧ root = absolute (above ++ [last]) ∧
    sibling = absolute (above ++ [last ++ more])

/-- A path lies at or below a directory, or at or below a longer sibling of it. -/
def LooksWithin (path root : Text) : Prop :=
  IsAtOrAbove path root ∨ ∃ sibling, IsLongerSibling root sibling ∧ IsAtOrAbove path sibling

/-- By its text alone a path begins with a directory exactly if it lies there or in a longer
sibling. -/
theorem hasTextPrefix_iff_looksWithin (normal : IsNormal path) (rootNormal : IsNormal root) :
    hasTextPrefix path root = true ↔ LooksWithin path root := by
  rcases normal with ⟨names, ordinary, rfl⟩
  rcases rootNormal with ⟨roots, rootOrdinary, rfl⟩
  constructor
  · intro begins
    rw [LooksWithin, isAtOrAbove_absolute_iff ordinary rootOrdinary]
    rcases (hasTextPrefix_absolute_iff ordinary rootOrdinary).mp begins with
      rfl | ⟨above, last, more, below, rfl, rfl⟩
    · exact Or.inl List.nil_prefix
    · by_cases whole : more = []
      · subst whole
        exact Or.inl ⟨below, by simp⟩
      · right
        have aboveOrdinary : ∀ name ∈ above, IsOrdinary name := fun name mem =>
          ordinary name (List.mem_append_left _ mem)
        have siblingOrdinary : ∀ name ∈ above ++ [last ++ more], IsOrdinary name := fun name mem =>
          ordinary name (by simp at mem ⊢; tauto)
        refine ⟨absolute (above ++ [last ++ more]), ⟨above, last, more, whole, aboveOrdinary,
          rootOrdinary last (by simp), siblingOrdinary _ (by simp), rfl, rfl⟩, ?_⟩
        exact (isAtOrAbove_absolute_iff ordinary siblingOrdinary).mpr ⟨below, by simp⟩
  · rintro (reached | ⟨_, ⟨above, last, more, _, aboveOrdinary, lastOrdinary, siblingName, named,
      rfl⟩, reached⟩)
    · exact reached.hasTextPrefix ⟨names, ordinary, rfl⟩
    · have all : ∀ name ∈ above ++ [last ++ more], IsOrdinary name := by
        simpa [or_imp, forall_and] using ⟨aboveOrdinary, siblingName⟩
      rcases (isAtOrAbove_absolute_iff ordinary all).mp reached with ⟨below, rfl⟩
      have rootAll : ∀ name ∈ above ++ [last], IsOrdinary name := by
        simpa [or_imp, forall_and] using ⟨aboveOrdinary, lastOrdinary⟩
      rw [named, hasTextPrefix_absolute_iff ordinary rootAll]
      exact Or.inr ⟨above, last, more, below, rfl, by simp⟩

end ProjectTags.Path
