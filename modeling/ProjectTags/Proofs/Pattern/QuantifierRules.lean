import ProjectTags.Pattern.Quantifier
import ProjectTags.Proofs.Pattern.Enclosure
import ProjectTags.Proofs.Text.Cursors
import ProjectTags.Proofs.Text.Lookbehind

/-!
# The rules for quantifiers

Five rules leave alone what stands behind a backslash: those for the reluctant quantifiers and the
one for possessive quantifiers. Which texts each of them matches is stated here on its own. Given
that, a pass with the rule comes out as a scan from left to right that looks behind, and it does so
on the bytes of any text.
-/

namespace ProjectTags.Pattern

open Substitution

/-- The rules that do not apply behind a backslash. -/
inductive QuantifierRule where
  | star
  | plus
  | option
  | bounds
  | possessive
  deriving DecidableEq, Repr

namespace QuantifierRule

def substitution : QuantifierRule → Substitution
  | star => reluctantStar
  | plus => reluctantPlus
  | option => reluctantOption
  | bounds => reluctantBounds
  | possessive => possessiveQuantifier

/-- The texts that a rule matches, and what is written for each. Bounds are braces on one line, up
to the first closing one that a question mark follows. -/
def Reads : QuantifierRule → Text → Text → Prop
  | star, matched, written => matched = ['*', '?'] ∧ written = ['{', '-', '}']
  | plus, matched, written => matched = ['+', '?'] ∧ written = ['{', '-', '1', ',', '}']
  | option, matched, written => matched = ['?', '?'] ∧ written = ['{', '-', '0', ',', '1', '}']
  | bounds, matched, written =>
      ∃ body, '\n' ∉ body ∧ IsShortest ['}', '?'] body ∧
        matched = ['{'] ++ body ++ ['}', '?'] ∧ written = ['{', '-'] ++ body ++ ['}']
  | possessive, matched, written =>
      ∃ sign ∈ ['*', '+', '?', '}'], matched = [sign, '+'] ∧ written = [sign]

variable {text new : Text} {extra : Nat}

theorem body?_reluctantBounds_iff {body : Text} :
    (⟨['{'], ['}', '?'], true⟩ : Enclosure).body? text = some body ↔
      '\n' ∉ body ∧ ['{'] ++ (body ++ ['}', '?']) <+: text ∧ IsShortest ['}', '?'] body :=
  Enclosure.body?_eq_some_iff _ rfl (List.cons_ne_nil _ _)

theorem appliesBy_bounds : reluctantBounds.AppliesBy (Reads bounds) where
  ne_nil := by
    rintro matched new ⟨body, _, _, rfl, _⟩
    simp
  front_iff := by
    intro text new extra
    simp only [reluctantBounds, Enclosure.substitution, Option.bind_eq_bind,
      Option.bind_eq_some_iff, Option.pure_def, Option.some.injEq, Prod.mk.injEq,
      body?_reluctantBounds_iff]
    constructor
    · rintro ⟨body, ⟨sameLine, stands, shortest⟩, written, size⟩
      refine ⟨_, ⟨body, sameLine, shortest, rfl, written.symm⟩, ?_, ?_⟩
      · rwa [List.append_assoc]
      · simp only [List.length_append, List.length_cons, List.length_nil] at size ⊢
        omega
    · rintro ⟨_, ⟨body, sameLine, shortest, rfl, written⟩, stands, size⟩
      refine ⟨body, ⟨sameLine, ?_, shortest⟩, written.symm, ?_⟩
      · rwa [List.append_assoc] at stands
      · simp only [List.length_append, List.length_cons, List.length_nil] at size ⊢
        omega

theorem front_possessiveQuantifier_iff :
    possessiveQuantifier.front text = some (new, extra) ↔
      ∃ sign ∈ ['*', '+', '?', '}'], [sign, '+'] <+: text ∧ new = [sign] ∧ extra = 1 := by
  constructor
  · intro applies
    unfold possessiveQuantifier at applies
    simp only at applies
    split at applies
    · next sign rest =>
        split at applies
        · next quantifies =>
            cases applies
            exact ⟨sign, by simpa [or_assoc] using quantifies, ⟨rest, rfl⟩, rfl, rfl⟩
        · cases applies
    · cases applies
  · rintro ⟨sign, quantifies, ⟨rest, rfl⟩, rfl, rfl⟩
    have listed : (sign = '*' || sign = '+' || sign = '?' || sign = '}') = true := by
      simpa [or_assoc] using quantifies
    exact if_pos listed

theorem appliesBy_possessive : possessiveQuantifier.AppliesBy (Reads possessive) where
  ne_nil := by
    rintro matched new ⟨sign, _, rfl, _⟩
    simp
  front_iff := by
    intro text new extra
    rw [front_possessiveQuantifier_iff]
    constructor
    · rintro ⟨sign, quantifies, stands, written, rfl⟩
      exact ⟨_, ⟨sign, quantifies, rfl, written⟩, stands, rfl⟩
    · rintro ⟨_, ⟨sign, quantifies, rfl, written⟩, stands, size⟩
      exact ⟨sign, quantifies, stands, written, (Nat.succ.inj size).symm⟩

theorem appliesBy_reads (rule : QuantifierRule) : rule.substitution.AppliesBy rule.Reads := by
  cases rule with
  | star => exact appliesBy_literal _ _ _
  | plus => exact appliesBy_literal _ _ _
  | option => exact appliesBy_literal _ _ _
  | bounds => exact appliesBy_bounds
  | possessive => exact appliesBy_possessive

/-- A pass over the bytes of a text, with a place up to which all is written and another from which
the next match is looked for, comes to its end without cutting a character. What it writes is
what a scan from left to right writes: a match that stands behind no backslash is written anew and
passed over, and at any other place one character is kept. -/
theorem pass_scans_left_to_right (rule : QuantifierRule) (text : Text) :
    Cursors.atStart.run rule.substitution text = some (rule.substitution.unescaped text) ∧
      ∀ written, Scans rule.Reads none text written ↔
        written = rule.substitution.unescaped text :=
  ⟨Cursors.run_atStart _ _, fun _ => rule.appliesBy_reads.scans_iff⟩

-- The match behind the backslash is kept, the one directly after it is not.
example : Cursors.atStart.run reluctantStar ['é', '\\', '*', '?', '*', '?'] =
    some ['é', '\\', '*', '?', '{', '-', '}'] := by
  cbv

end QuantifierRule

end ProjectTags.Pattern
