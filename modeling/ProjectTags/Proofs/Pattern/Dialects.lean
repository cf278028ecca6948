import ProjectTags.Proofs.Pattern.Assertions

/-!
# The two dialects

The rules of the extended dialect come third, so they read what the rules for operators and for
reluctant quantifiers have written. None of these edits brings about a sign of the extended
constructs, hence the dialects differ only on patterns that have such a sign to begin with.
-/

namespace ProjectTags.Pattern

open Substitution

/-- The signs of possessive quantifiers, comments, assertions and atomic groups. -/
def extendedSigns : List Text :=
  [['*', '+'], ['+', '+'], ['?', '+'], ['}', '+'], ['(', '?', '#'], ['(', '?', '='],
    ['(', '?', '!'], ['(', '?', '<', '='], ['(', '?', '<', '!'], ['(', '?', '>']]

/-- What the rules for operators and for reluctant quantifiers write, and in the place of what. -/
def earlyEdits : List (Text × Text) :=
  [(['%'], ['\\', '%']), (['@'], ['\\', '@']), (['&'], ['\\', '&']),
    (['*', '?'], ['{', '-', '}']), (['+', '?'], ['{', '-', '1', ',', '}']),
    (['?', '?'], ['{', '-', '0', ',', '1', '}']), (['{'], ['{', '-']), (['}', '?'], ['}'])]

def IsEarlyEdit (part other : Text) : Prop :=
  (part, other) ∈ earlyEdits

instance (part other : Text) : Decidable (IsEarlyEdit part other) :=
  inferInstanceAs (Decidable ((part, other) ∈ earlyEdits))

variable {text : Text}

/-! ## The rules before the extended ones -/

/-- A quantifier that is written anew ends in a brace where a question mark was, and a plus sign
behind the one is as possessive as behind the other. -/
theorem harmless_of_isEarlyEdit {part other : Text} (early : IsEarlyEdit part other) :
    Text.Harmless extendedSigns part other := by
  have nonempty : ∀ entry ∈ earlyEdits, entry.2 ≠ [] := by decide
  have begins : ∀ entry ∈ earlyEdits, ∀ sign ∈ extendedSigns,
      ∀ c ∈ sign.tail, entry.2.head? ≠ some c := by decide
  have inside : ∀ entry ∈ earlyEdits, ∀ sign ∈ extendedSigns,
      ∀ c ∈ entry.2.dropLast, sign.head? ≠ some c := by decide
  have ends : ∀ entry ∈ earlyEdits, ∀ sign ∈ extendedSigns, sign.head? = entry.2.getLast? →
      ∃ before ∈ extendedSigns, before.head? = entry.1.getLast? ∧ before.tail = sign.tail := by
    decide
  exact ⟨nonempty _ early, begins _ early, inside _ early, ends _ early⟩

theorem edits_vimOperator : vimOperator.Edits IsEarlyEdit := by
  intro c rest new extra applies
  simp only [vimOperator, Option.ite_none_right_eq_some, isVimOperator, Bool.or_eq_true,
    decide_eq_true_eq, Option.some.injEq, Prod.mk.injEq] at applies
  rcases applies with ⟨operator, rfl, rfl⟩
  apply Text.Edited.of_edit
  rw [List.take_zero]
  rcases operator with (rfl | rfl) | rfl
  · decide
  · decide
  · decide

theorem edits_reluctantBounds : reluctantBounds.Edits IsEarlyEdit := by
  apply Enclosure.edits_substitution
  · exact List.cons_ne_nil _ _
  · show IsEarlyEdit ['{'] ['{', '-']
    decide
  · show IsEarlyEdit ['}', '?'] ['}']
    decide

theorem free_unescaped {rule : Substitution} (edits : rule.Edits IsEarlyEdit)
    (free : Text.Free extendedSigns text) : Text.Free extendedSigns (rule.unescaped text) :=
  (edits.unescapedAfter none text).free (fun _ _ => harmless_of_isEarlyEdit) free

theorem free_reluctantQuantifiers (free : Text.Free extendedSigns text) :
    Text.Free extendedSigns (reluctantQuantifiers text) := by
  have star : reluctantStar.Edits IsEarlyEdit := edits_literal (by decide)
  have plus : reluctantPlus.Edits IsEarlyEdit := edits_literal (by decide)
  have option : reluctantOption.Edits IsEarlyEdit := edits_literal (by decide)
  apply free_unescaped edits_reluctantBounds
  apply free_unescaped option
  apply free_unescaped plus
  exact free_unescaped star free

theorem free_vimOperator (free : Text.Free extendedSigns text) :
    Text.Free extendedSigns (vimOperator.everywhere text) :=
  (edits_vimOperator.everywhere text).free (fun _ _ => harmless_of_isEarlyEdit) free

/-! ## The extended rules -/

theorem AssertionKind.opening_mem (kind : AssertionKind) : kind.opening ∈ extendedSigns := by
  cases kind <;> decide

theorem extendedConstructs_eq (free : Text.Free extendedSigns text) :
    extendedConstructs text = text := by
  have possessive : possessiveQuantifier.unescaped text = text := by
    have signs : ∀ c ∈ ['*', '+', '?', '}'], [c, '+'] ∈ extendedSigns := by decide
    exact unescaped_possessiveQuantifier fun c listed => free _ (signs c listed)
  have comments : comment.removal.everywhere text = text :=
    comment.needs_removal.everywhere_of_absent (free _ (by decide))
  rw [extendedConstructs, possessive, comments]
  apply foldl_everywhere_eq
  intro rule mem
  rw [assertions_eq] at mem
  rcases List.mem_map.mp mem with ⟨kind, _, rfl⟩
  exact kind.needs_rule.everywhere_of_absent (free _ kind.opening_mem)

theorem toVim_extended_eq_toVim_regular {pattern : Text}
    (free : ∀ sign ∈ extendedSigns, ¬sign <:+: pattern) :
    toVim .extended pattern = toVim .regular pattern := by
  have kept := free_reluctantQuantifiers (free_vimOperator free)
  rw [toVim_extended, toVim_regular, extendedConstructs_eq kept]

/-- Reluctant quantifiers, an operator of Vim, a named group and one that captures nothing. -/
theorem toVim_extended_eq_without_signs :
    (∀ sign ∈ extendedSigns, ¬sign <:+: "(?<n>a{2}?)%(?:b*?c)??".toList) ∧
      toVim .extended "(?<n>a{2}?)%(?:b*?c)??".toList =
        toVim .regular "(?<n>a{2}?)%(?:b*?c)??".toList := by
  have free : ∀ sign ∈ extendedSigns, ¬sign <:+: "(?<n>a{2}?)%(?:b*?c)??".toList := by decide
  exact ⟨free, toVim_extended_eq_toVim_regular free⟩

end ProjectTags.Pattern
