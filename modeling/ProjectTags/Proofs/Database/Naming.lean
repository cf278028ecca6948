import Mathlib.Logic.Function.Basic
import ProjectTags.Database
import ProjectTags.Proofs.Path.Components

/-!
# Names of database directories

No two roots share the name of their database directory, and the directories of two roots never
lie inside each other.

A name can be read back: two percent signs at its beginning tell that it is escaped, and then each
percent sign begins the code of one character; in any other name each percent sign stands for a
slash. A plain name is only taken if no two percent signs are side by side in it, so it is never
read as an escaped one.
-/

namespace ProjectTags.Database

/-- The text that was escaped. -/
def unescaped : Text → Text
  | '%' :: '2' :: '5' :: rest => '%' :: unescaped rest
  | '%' :: '3' :: 'A' :: rest => ':' :: unescaped rest
  | '%' :: '2' :: 'F' :: rest => '/' :: unescaped rest
  | c :: rest => c :: unescaped rest
  | [] => []

/-- The root that a name was made from. -/
def rootOf : Text → Text
  | '%' :: '%' :: escaped => unescaped escaped
  | plain => plain.map fun c => if c = reserved then '/' else c

/-! ## Escaped names -/

/-- A character is either escaped by its code or kept. -/
theorem escapedChar_cases (c : Char) :
    (c = '%' ∧ escapedChar c = ['%', '2', '5']) ∨ (c = ':' ∧ escapedChar c = ['%', '3', 'A']) ∨
      (c = '/' ∧ escapedChar c = ['%', '2', 'F']) ∨
        (c ≠ '%' ∧ c ≠ '/' ∧ escapedChar c = [c]) := by
  by_cases percent : c = '%'
  · subst percent
    exact Or.inl ⟨rfl, by decide⟩
  · by_cases colon : c = ':'
    · subst colon
      exact Or.inr (Or.inl ⟨rfl, by decide⟩)
    · by_cases slash : c = '/'
      · subst slash
        exact Or.inr (Or.inr (Or.inl ⟨rfl, by decide⟩))
      · exact Or.inr (Or.inr (Or.inr
          ⟨percent, slash, by simp [escapedChar, reserved, percent, colon, slash]⟩))

theorem unescaped_cons {c : Char} (kept : c ≠ '%') (rest : Text) :
    unescaped (c :: rest) = c :: unescaped rest := by
  rw [unescaped]
  · intro _ percent
    exact absurd percent kept
  · intro _ percent
    exact absurd percent kept
  · intro _ percent
    exact absurd percent kept

theorem unescaped_escapedChar_append (c : Char) (rest : Text) :
    unescaped (escapedChar c ++ rest) = c :: unescaped rest := by
  rcases escapedChar_cases c with
    ⟨rfl, escaped⟩ | ⟨rfl, escaped⟩ | ⟨rfl, escaped⟩ | ⟨kept, _, escaped⟩
  · rw [escaped]
    rfl
  · rw [escaped]
    rfl
  · rw [escaped]
    rfl
  · rw [escaped, List.singleton_append, unescaped_cons kept]

theorem unescaped_flatMap (root : Text) : unescaped (root.flatMap escapedChar) = root := by
  induction root with
  | nil => rfl
  | cons c rest ih => rw [List.flatMap_cons, unescaped_escapedChar_append, ih]

theorem rootOf_escapedName (root : Text) : rootOf (escapedName root) = root :=
  unescaped_flatMap root

theorem no_slash_escapedChar (c : Char) : '/' ∉ escapedChar c := by
  rcases escapedChar_cases c with
    ⟨_, escaped⟩ | ⟨_, escaped⟩ | ⟨_, escaped⟩ | ⟨_, noSlash, escaped⟩ <;> rw [escaped]
  · decide
  · decide
  · decide
  · simpa using Ne.symm noSlash

theorem no_slash_escapedName (root : Text) : '/' ∉ escapedName root := by
  simp only [escapedName, List.mem_cons, not_or, List.mem_flatMap, not_exists, not_and]
  exact ⟨by decide, by decide, fun c _ => no_slash_escapedChar c⟩

/-! ## Plain names -/

theorem no_slash_plainName (root : Text) : '/' ∉ plainName root := by
  intro mem
  rcases List.mem_map.mp mem with ⟨c, _, same⟩
  split at same
  · exact absurd same (by decide)
  · exact absurd same ‹_›

/-- A name in which no two percent signs are side by side is not read as an escaped one. -/
theorem rootOf_of_plain {plain : Text} (single : Text.contains [reserved, reserved] plain = false) :
    rootOf plain = plain.map fun c => if c = reserved then '/' else c := by
  unfold rootOf
  split
  · next escaped =>
      have double : Text.contains [reserved, reserved] ('%' :: '%' :: escaped) = true :=
        Text.contains_iff.mpr ⟨[], escaped, rfl⟩
      simp [double] at single
  · rfl

/-- A plain name is read back if the root has no percent signs. -/
theorem rootOf_plainName {root : Text} (free : reserved ∉ root)
    (single : Text.contains [reserved, reserved] (plainName root) = false) :
    rootOf (plainName root) = root := by
  rw [rootOf_of_plain single, plainName, List.map_map]
  calc root.map _ = root.map id := by
        apply List.map_congr_left
        intro c mem
        have kept : c ≠ reserved := by
          rintro rfl
          exact free mem
        by_cases slash : c = '/' <;> simp [slash, kept]
    _ = root := List.map_id root

/-- A plain name is never an escaped one. -/
theorem plainName_ne_escapedName {root : Text}
    (single : Text.contains [reserved, reserved] (plainName root) = false) (other : Text) :
    plainName root ≠ escapedName other := by
  intro same
  have double : Text.contains [reserved, reserved] (escapedName other) = true :=
    Text.contains_iff.mpr ⟨[], other.flatMap escapedChar, rfl⟩
  rw [same, double] at single
  exact Bool.noConfusion single

/-! ## Names -/

/-- A name is either plain or escaped, and plain only without percent signs side by side. -/
theorem name_cases (root : Text) :
    (name root = plainName root ∧ reserved ∉ root ∧
        Text.contains [reserved, reserved] (plainName root) = false) ∨
      name root = escapedName root := by
  unfold name
  split
  · next plain =>
      left
      simpa using plain
  · exact Or.inr rfl

theorem rootOf_name (root : Text) : rootOf (name root) = root := by
  rcases name_cases root with ⟨plain, free, single⟩ | escaped
  · rw [plain, rootOf_plainName free single]
  · rw [escaped, rootOf_escapedName]

theorem no_slash_name (root : Text) : '/' ∉ name root := by
  rcases name_cases root with ⟨plain, _, _⟩ | escaped
  · rw [plain]
    exact no_slash_plainName root
  · rw [escaped]
    exact no_slash_escapedName root

theorem head?_name {root : Text} (rooted : Path.isAbsolute root = true) :
    (name root).head? = some reserved := by
  rcases Path.exists_of_isAbsolute rooted with ⟨rest, rfl⟩
  rcases name_cases ('/' :: rest) with ⟨plain, _, _⟩ | escaped
  · simp [plain, plainName]
  · simp [escaped, escapedName]

/-- The name of an absolute root is a name of one directory. -/
theorem isOrdinary_name {root : Text} (rooted : Path.isAbsolute root = true) :
    Path.IsOrdinary (name root) := by
  have first := head?_name rooted
  refine ⟨?_, ?_, ?_, no_slash_name root⟩
  · intro empty
    simp [empty] at first
  · intro dot
    rw [dot] at first
    exact absurd first (by decide)
  · intro dots
    rw [dots] at first
    exact absurd first (by decide)

/-- The names of roots and the directories that have them: no two roots share a name, the
directory of an absolute root lies directly below the directory for all databases, and none of two
such directories is or lies inside the other. -/
theorem name_separates_roots :
    Function.Injective name ∧
      (∀ root other, Text.contains [reserved, reserved] (plainName root) = false →
        plainName root ≠ escapedName other) ∧
      (∀ databases root, Path.isAbsolute root = true →
        Path.IsOrdinary (name root) ∧
          Path.components (location databases root) =
            (Path.components databases).below (name root)) ∧
      ∀ databases root other, Path.isAbsolute root = true → Path.isAbsolute other = true →
        root ≠ other →
          Path.Paths.isWithin (location databases root) (location databases other) = false ∧
            Path.Paths.isWithin (location databases other) (location databases root) = false := by
  have injective : Function.Injective name := Function.LeftInverse.injective rootOf_name
  refine ⟨injective, fun root other single => plainName_ne_escapedName single other, ?_, ?_⟩
  · intro databases root rooted
    have ordinary := isOrdinary_name rooted
    exact ⟨ordinary, ordinary.components_join databases⟩
  · intro databases root other rooted otherRooted different
    have ordinary := isOrdinary_name rooted
    have otherOrdinary := isOrdinary_name otherRooted
    have namesDiffer : name root ≠ name other := fun same => different (injective same)
    constructor
    · rw [location, location, ← Bool.not_eq_true, ordinary.isWithin_join_iff otherOrdinary]
      exact namesDiffer
    · rw [location, location, ← Bool.not_eq_true, otherOrdinary.isWithin_join_iff ordinary]
      exact namesDiffer.symm

/-- The roots `/a%b` and `/a/b` below `/c/`. -/
theorem name_separates_percent :
    Text.contains [reserved, reserved] (plainName ['/', 'a', '/', 'b']) = false ∧
      plainName ['/', 'a', '/', 'b'] ≠ escapedName ['/', 'a', '%', 'b'] ∧
      Path.components (location ['/', 'c', '/'] ['/', 'a', '%', 'b']) =
        (Path.components ['/', 'c', '/']).below ['%', '%', '%', '2', 'F', 'a', '%', '2', '5', 'b'] ∧
      Path.Paths.isWithin (location ['/', 'c', '/'] ['/', 'a', '%', 'b'])
        (location ['/', 'c', '/'] ['/', 'a', '/', 'b']) = false := by
  rcases name_separates_roots with ⟨_, apart, below, outside⟩
  have single : Text.contains [reserved, reserved] (plainName ['/', 'a', '/', 'b']) = false := by
    decide
  refine ⟨single, apart _ _ single, ?_, (outside _ _ _ rfl rfl (by decide)).1⟩
  exact (below ['/', 'c', '/'] ['/', 'a', '%', 'b'] rfl).2

end ProjectTags.Database
