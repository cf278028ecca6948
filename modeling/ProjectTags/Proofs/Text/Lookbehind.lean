import ProjectTags.Proofs.Text.Substitution

/-!
# Scanning with a look behind

What a substitution behind no backslash means is said here place by place, from left to right and
without a search: at a place where a match stands and the character in front is no backslash, the
match is written anew and the scan goes on behind it; at any other place one character is kept.

A pass that seeks the leftmost match and tries again one character on behind a backslash writes
exactly what such a scan writes.
-/

namespace ProjectTags.Substitution

variable {rule : Substitution} {reads : Text → Text → Prop} {previous : Option Char} {c : Char}
  {text matched new rest written : Text} {extra : Nat}

/-- What a scan makes of a text that stands behind a given character, if `reads` tells which texts
are matches and what is written for each. -/
inductive Scans (reads : Text → Text → Prop) : Option Char → Text → Text → Prop where
  | nothing (previous : Option Char) : Scans reads previous [] []
  /-- A match behind no backslash; the scan goes on behind its last character. -/
  | replaced {previous : Option Char} {matched new rest written : Text}
      (free : previous ≠ some '\\') (read : reads matched new)
      (later : Scans reads matched.getLast? rest written) :
      Scans reads previous (matched ++ rest) (new ++ written)
  /-- A character behind a backslash, or one where no match stands. -/
  | kept {previous : Option Char} {c : Char} {rest written : Text}
      (escaped_or_unmatched :
        previous = some '\\' ∨ ∀ matched new, reads matched new → ¬matched <+: c :: rest)
      (later : Scans reads (some c) rest written) : Scans reads previous (c :: rest) (c :: written)

/-- A rule says at the front of a text what is written for the match that stands there. -/
structure AppliesBy (rule : Substitution) (reads : Text → Text → Prop) : Prop where
  ne_nil : ∀ {matched new}, reads matched new → matched ≠ []
  front_iff : ∀ {text new extra}, rule.front text = some (new, extra) ↔
    ∃ matched, reads matched new ∧ matched <+: text ∧ matched.length = extra + 1

namespace AppliesBy

theorem front_append (applies : rule.AppliesBy reads) (read : reads matched new) (rest : Text) :
    rule.front (matched ++ rest) = some (new, matched.length - 1) := by
  have positive := List.length_pos_iff.mpr (applies.ne_nil read)
  exact applies.front_iff.mpr ⟨matched, read, List.prefix_append matched rest, by omega⟩

theorem not_prefix_of_front_none (applies : rule.AppliesBy reads) (misses : rule.front text = none)
    (read : reads matched new) : ¬matched <+: text := by
  rintro ⟨rest, rfl⟩
  simp [applies.front_append read rest] at misses

theorem unescapedAfter_append (applies : rule.AppliesBy reads) (free : previous ≠ some '\\')
    (read : reads matched new) (rest : Text) :
    rule.unescapedAfter previous (matched ++ rest) =
      new ++ rule.unescapedAfter matched.getLast? rest := by
  have front := applies.front_append read rest
  cases matched with
  | nil => exact absurd rfl (applies.ne_nil read)
  | cons c more =>
      rw [List.cons_append] at front ⊢
      rw [unescapedAfter_cons_of_some front free]
      simp [List.getLast?_cons]

/-- What a pass writes is what a scan writes, and nothing else is. -/
theorem scans_iff (applies : rule.AppliesBy reads) :
    Scans reads previous text written ↔ written = rule.unescapedAfter previous text := by
  constructor
  · intro scans
    induction scans with
    | nothing previous => simp
    | replaced free read later ih => rw [applies.unescapedAfter_append free read, ih]
    | @kept previous c rest written escaped_or_unmatched later ih =>
        cases front : rule.front (c :: rest) with
        | none => rw [unescapedAfter_cons_of_none front, ih]
        | some found =>
            rcases escaped_or_unmatched with rfl | unmatched
            · rw [unescapedAfter_cons_of_escaped front, ih]
            · rcases applies.front_iff.mp front with ⟨matched, read, here, _⟩
              exact absurd here (unmatched matched _ read)
  · rintro rfl
    induction size : text.length using Nat.strong_induction_on generalizing previous text with
    | _ bound ih =>
        cases text with
        | nil => simpa using Scans.nothing previous
        | cons c rest =>
            have later : Scans reads (some c) rest (rule.unescapedAfter (some c) rest) :=
              ih rest.length (by simp [← size]) rfl
            cases front : rule.front (c :: rest) with
            | none =>
                rw [unescapedAfter_cons_of_none front]
                exact .kept (Or.inr fun _ _ read => applies.not_prefix_of_front_none front read)
                  later
            | some found =>
                by_cases escaped : previous = some '\\'
                · rw [escaped, unescapedAfter_cons_of_escaped front]
                  exact .kept (Or.inl rfl) later
                · rcases applies.front_iff.mp front with ⟨matched, read, ⟨behind, whole⟩, _⟩
                  have positive := List.length_pos_iff.mpr (applies.ne_nil read)
                  have shorter : behind.length < bound := by
                    rw [← size, ← whole, List.length_append]
                    omega
                  rw [← whole, applies.unescapedAfter_append escaped read]
                  exact .replaced escaped read (ih behind.length shorter rfl)

end AppliesBy

/-- A literal rule has one match. -/
theorem appliesBy_literal (first : Char) (others new : Text) :
    (literal first others new).AppliesBy fun matched written =>
      matched = first :: others ∧ written = new where
  ne_nil := by
    rintro matched written ⟨rfl, _⟩
    simp
  front_iff := by
    intro text written extra
    constructor
    · intro applies
      have start := needs_literal first others new text _ applies
      rcases start with ⟨rest, rfl⟩
      rw [List.cons_append, front_literal, Option.some.injEq, Prod.mk.injEq] at applies
      exact ⟨_, ⟨rfl, applies.1.symm⟩, List.prefix_append _ _, by simp [applies.2]⟩
    · rintro ⟨matched, ⟨rfl, rfl⟩, ⟨rest, rfl⟩, size⟩
      have count : others.length = extra := by simpa using size
      rw [List.cons_append, front_literal, count]

end ProjectTags.Substitution
