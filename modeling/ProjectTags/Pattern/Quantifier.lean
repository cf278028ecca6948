import ProjectTags.Pattern.Enclosure

/-!
# Quantifiers

A search pattern marks a quantifier that takes as little as possible by a question mark behind it,
and one that gives nothing back by a plus sign behind it. Vim has braces with a minus sign for the
first and nothing for the second. A quantifier character behind a backslash is a plain character
and is left alone.
-/

namespace ProjectTags.Pattern

/-- The reluctant star, written `*?`. -/
def reluctantStar : Substitution :=
  .literal '*' ['?'] ['{', '-', '}']

/-- The reluctant plus, written `+?`. -/
def reluctantPlus : Substitution :=
  .literal '+' ['?'] ['{', '-', '1', ',', '}']

/-- The reluctant option, written `??`. -/
def reluctantOption : Substitution :=
  .literal '?' ['?'] ['{', '-', '0', ',', '1', '}']

/-- Reluctant bounds, written in braces with a question mark behind. -/
def reluctantBounds : Substitution :=
  Enclosure.substitution ⟨['{'], ['}', '?'], true⟩ ['{', '-'] ['}']

/-- Writes every reluctant quantifier in Vim's form: first the stars, then the pluses, the options
and the bounds. -/
def reluctantQuantifiers (pattern : Text) : Text :=
  reluctantBounds.unescaped
    (reluctantOption.unescaped (reluctantPlus.unescaped (reluctantStar.unescaped pattern)))

/-- A quantifier that gives nothing back, which becomes the plain quantifier. -/
def possessiveQuantifier : Substitution where
  front
    | c :: '+' :: _ =>
        if c = '*' || c = '+' || c = '?' || c = '}' then some ([c], 1) else none
    | _ => none

end ProjectTags.Pattern
