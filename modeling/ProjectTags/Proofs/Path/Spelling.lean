import Mathlib.Logic.Relation
import ProjectTags.Proofs.Path.Climbing
import ProjectTags.Registry.Lookup

/-!
# Spellings of one path

Two absolute paths mean the same by their text alone if one is turned into the other by leaving out
parts that lead nowhere, or by putting such parts in: a repeated slash or a `.`, a name with a `..`
behind it, and a `..` at the root. Every path can be shortened in this way until only its names in
normal form are left, and what is left out on the way changes no name. So making paths absolute
gives all spellings of one path the same text, and different paths different texts.
-/

namespace ProjectTags

namespace Path

/-- Some pieces of an absolute path, from the root on, without a part that leads nowhere. -/
inductive Shortens : List Text → List Text → Prop where
  | void (before after : List Text) {piece : Text} (void : isVoid piece = true) :
      Shortens (before ++ piece :: after) (before ++ after)
  | back (before after : List Text) {name : Text} (ordinary : IsOrdinary name) :
      Shortens (before ++ name :: ['.', '.'] :: after) (before ++ after)
  | root (after : List Text) : Shortens (['.', '.'] :: after) after

/-- Two absolute paths are spellings of one path. -/
def SameMeaning (first second : Text) : Prop :=
  Relation.EqvGen Shortens (Text.pieces '/' first) (Text.pieces '/' second)

variable {base path other first second : Text} {pieces others : List Text}

/-! ## Shortening -/

theorem Shortens.foldl_descend (shortens : Shortens pieces others) :
    pieces.foldl descend [] = others.foldl descend [] := by
  cases shortens with
  | void before after void =>
      rw [List.foldl_append, List.foldl_append, List.foldl_cons, descend_of_isVoid void]
  | back before after ordinary =>
      rw [List.foldl_append, List.foldl_append, List.foldl_cons, List.foldl_cons,
        ordinary.descend_eq, descend_dots, List.dropLast_concat]
  | root after => rw [List.foldl_cons, descend_dots, List.dropLast_nil]

/-- Behind ordinary names, a piece that leads nowhere is left out, with the last name if it is `..`,
and any other piece is one more name. -/
theorem eqvGen_descend {above : List Text} {piece : Text}
    (ordinary : ∀ name ∈ above, IsOrdinary name) (noSlash : '/' ∉ piece) (behind : List Text) :
    Relation.EqvGen Shortens (above ++ piece :: behind) (descend above piece ++ behind) := by
  by_cases void : isVoid piece = true
  · rw [descend_of_isVoid void]
    exact .rel _ _ (.void above behind void)
  · by_cases dots : piece = ['.', '.']
    · subst dots
      rw [descend_dots]
      rcases List.eq_nil_or_concat above with rfl | ⟨start, last, rfl⟩
      · exact .rel _ _ (.root behind)
      · rw [List.concat_eq_append] at ordinary ⊢
        rw [List.dropLast_concat, List.append_assoc, List.singleton_append]
        exact .rel _ _ (.back start behind (ordinary last (by simp)))
    · simp only [isVoid, Bool.or_eq_true, decide_eq_true_eq, not_or] at void
      have named : IsOrdinary piece := ⟨void.1, void.2, dots, noSlash⟩
      rw [named.descend_eq, List.append_assoc, List.singleton_append]
      exact .refl _

theorem eqvGen_foldl_descend (above : List Text) (ordinary : ∀ name ∈ above, IsOrdinary name)
    (noSlash : ∀ piece ∈ pieces, '/' ∉ piece) :
    Relation.EqvGen Shortens (above ++ pieces) (pieces.foldl descend above) := by
  -- What is left of the pieces in front stands in `above`, all of it ordinary names.
  induction pieces generalizing above with
  | nil =>
      rw [List.append_nil, List.foldl_nil]
      exact .refl _
  | cons piece behind ih =>
      have firstFree := noSlash piece (List.mem_cons_self ..)
      have behindFree : ∀ other ∈ behind, '/' ∉ other := fun other mem =>
        noSlash other (List.mem_cons_of_mem _ mem)
      have further := ih (descend above piece) (descend_ordinary ordinary firstFree) behindFree
      exact .trans _ _ _ (eqvGen_descend ordinary firstFree behind) further

theorem foldl_descend_of_eqvGen (same : Relation.EqvGen Shortens pieces others) :
    pieces.foldl descend [] = others.foldl descend [] := by
  induction same with
  | rel _ _ shortens => exact shortens.foldl_descend
  | refl _ => rfl
  | symm _ _ _ ih => exact ih.symm
  | trans _ _ _ _ _ ihFirst ihSecond => exact ihFirst.trans ihSecond

/-- Spellings of one path have the same names, and no other paths do. -/
theorem sameMeaning_iff : SameMeaning first second ↔ names first = names second := by
  have settles : ∀ path : Text, Relation.EqvGen Shortens (Text.pieces '/' path) (names path) := by
    intro path
    exact eqvGen_foldl_descend [] (by simp) fun _ mem => Text.not_mem_of_mem_pieces mem
  constructor
  · exact foldl_descend_of_eqvGen
  · intro same
    have back := settles second
    rw [← same] at back
    exact .trans _ _ _ (settles first) (.symm _ _ back)

theorem sameMeaning_join_iff (rooted : isAbsolute base = true) :
    SameMeaning (join base path) (join base other) ↔
      absolutize path base = absolutize other base := by
  rw [sameMeaning_iff, absolutize, absolutize,
    normalize_of_isAbsolute (isAbsolute_join rooted path),
    normalize_of_isAbsolute (isAbsolute_join rooted other),
    absolute_injective (names_ordinary _) (names_ordinary _)]

/-! ## Joining several paths -/

/-- A path with a slash at its end, unless it is empty. -/
def slashed (path : Text) : Text :=
  if path.isEmpty || path.getLast? = some '/' then path else path ++ ['/']

theorem join_eq_slashed (relative : isAbsolute path = false) (base : Text) :
    join base path = slashed base ++ path := by
  unfold join slashed
  rw [if_neg (by simp [relative])]
  split
  · rfl
  · simp

theorem slashed_slashed (path : Text) : slashed (slashed path) = slashed path := by
  by_cases closed : (path.isEmpty || path.getLast? = some '/') = true
  · have same : slashed path = path := if_pos closed
    rw [same, same]
  · have same : slashed path = path ++ ['/'] := if_neg closed
    rw [same]
    simp [slashed]

theorem slashed_append (start : Text) (nonempty : path ≠ []) :
    slashed (start ++ path) = start ++ slashed path := by
  unfold slashed
  rw [List.getLast?_append_of_ne_nil _ nonempty]
  simp only [List.isEmpty_eq_false_iff.mpr nonempty,
    List.isEmpty_eq_false_iff.mpr (List.append_ne_nil_of_right_ne_nil start nonempty)]
  split <;> simp

theorem isAbsolute_slashed_append (relative : isAbsolute path = false)
    (otherRelative : isAbsolute other = false) : isAbsolute (slashed path ++ other) = false := by
  cases path with
  | nil => exact otherRelative
  | cons c rest =>
      have first : c ≠ '/' := by
        rintro rfl
        simp [isAbsolute] at relative
      unfold slashed
      split <;> simp [isAbsolute, first]

theorem join_assoc (base path other : Text) :
    join base (join path other) = join (join base path) other := by
  cases otherRooted : isAbsolute other with
  | true => rw [join_of_isAbsolute otherRooted, join_of_isAbsolute otherRooted,
      join_of_isAbsolute otherRooted]
  | false =>
      cases rooted : isAbsolute path with
      | true => rw [join_of_isAbsolute rooted, join_of_isAbsolute (isAbsolute_join rooted other)]
      | false =>
          rw [join_eq_slashed otherRooted, join_eq_slashed otherRooted,
            join_eq_slashed (isAbsolute_slashed_append rooted otherRooted),
            join_eq_slashed rooted, ← List.append_assoc]
          by_cases empty : path = []
          · subst empty
            rw [List.append_nil, slashed_slashed]
            simp [slashed]
          · rw [slashed_append _ empty]

/-- It does not matter whether the directory is in normal form. -/
theorem normalize_join_normalize (rooted : isAbsolute base = true) (path : Text) :
    normalize (join (normalize base) path) = normalize (join base path) := by
  have normalRooted : isAbsolute (normalize base) = true := by rw [isAbsolute_normalize, rooted]
  cases relative : isAbsolute path with
  | true => rw [join_of_isAbsolute relative, join_of_isAbsolute relative]
  | false =>
      rw [normalize_of_isAbsolute (isAbsolute_join normalRooted path),
        normalize_of_isAbsolute (isAbsolute_join rooted path), names_join normalRooted relative,
        names_join rooted relative, names_normalize rooted]

end Path

/-! ## What goes by the text of a path -/

/-- A resolver treats two paths of files, and two roots of libraries, as one. -/
structure Root.Resolver.TreatsAlike (resolver : Root.Resolver) (current first second : Text) :
    Prop where
  project : ∀ present,
    resolver.resolve present current first = resolver.resolve present current second
  marker : ∀ present,
    resolver.isUnderMarker present current first = resolver.isUnderMarker present current second
  library : ∀ machine primary,
    resolver.across machine current first primary = resolver.across machine current second primary
  database : resolver.databaseOf (resolver.absolute current first) =
    resolver.databaseOf (resolver.absolute current second)

theorem Root.Resolver.treatsAlike_of_same {resolver : Root.Resolver} {current first second : Text}
    (same : resolver.absolute current first = resolver.absolute current second) :
    resolver.TreatsAlike current first second where
  project := by
    intro present
    simp only [resolve, rootOf, same]
  marker := by
    intro present
    simp only [isUnderMarker, same]
  library := by
    intro machine primary
    simp only [across, same]
  database := by rw [same]

namespace Path

/-- The text of a path taken from a base is one for all spellings of the path, and for the path in
one step or in two. -/
structure IsCanonical (base path other : Text) : Prop where
  normal : IsNormal (absolutize path base)
  stable : ∀ another, absolutize (absolutize path base) another = absolutize path base
  rooted : isAbsolute path = true → ∀ another, absolutize path another = absolutize path base
  composes : absolutize other (absolutize path base) = absolutize (join path other) base
  same_iff : SameMeaning (join base path) (join base other) ↔
    absolutize path base = absolutize other base
  alike : SameMeaning (join base path) (join base other) →
    ∀ (resolver : Root.Resolver) (current : Text), resolver.base current = base →
      resolver.TreatsAlike current path other

/-- From an absolute base every path gets a text in normal form that another base does not change.
Two paths get the same text exactly if they are spellings of one path, and a resolver treats such
paths as one. -/
theorem isCanonical_absolutize {base : Text} (rooted : isAbsolute base = true)
    (path other : Text) : IsCanonical base path other where
  normal := isNormal_absolutize rooted path
  stable := absolutize_absolutize rooted path
  rooted := by
    intro pathRooted another
    rw [absolutize_of_isAbsolute pathRooted, absolutize_of_isAbsolute pathRooted]
  composes := by
    have whole := isAbsolute_join rooted path
    calc absolutize other (absolutize path base)
        = normalize (join (normalize (join base path)) other) := rfl
      _ = normalize (join (join base path) other) := normalize_join_normalize whole other
      _ = normalize (join base (join path other)) := by rw [join_assoc]
      _ = absolutize (join path other) base := rfl
  same_iff := sameMeaning_join_iff rooted
  alike := by
    intro same resolver current taken
    apply Root.Resolver.treatsAlike_of_same
    rw [Root.Resolver.absolute, Root.Resolver.absolute, taken]
    exact (sameMeaning_join_iff rooted).mp same

/-- From `/w/s`, a relative path with all kinds of parts that lead nowhere, and another spelling. -/
theorem isCanonical_roundabout :
    isAbsolute "/w/s".toList = true ∧
      IsCanonical "/w/s".toList "..//x/./y/../z/".toList "/w/x/z".toList ∧
      SameMeaning (join "/w/s".toList "..//x/./y/../z/".toList)
        (join "/w/s".toList "/w/x/z".toList) := by
  have canonical : IsCanonical "/w/s".toList "..//x/./y/../z/".toList "/w/x/z".toList :=
    isCanonical_absolutize rfl _ _
  exact ⟨rfl, canonical, canonical.same_iff.mpr (by decide)⟩

end Path

end ProjectTags
