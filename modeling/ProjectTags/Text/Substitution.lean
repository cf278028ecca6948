import ProjectTags.Text.Basic

/-!
# Local substitutions

A `Substitution` looks at the front of a text and says what to write instead of how many characters.
Two strategies apply one along a whole text. `everywhere` substitutes at each place where the rule
applies and goes on after the characters it took. `unescaped` does the same except at the places
where a backslash stands directly in front: there the character is kept and the search goes on one
character further.
-/

namespace ProjectTags

/-- A rule for the front of a text: the replacement and how many characters it takes after the
first, so that a rule that applies takes at least one. -/
structure Substitution where
  front : Text → Option (Text × Nat)

namespace Substitution

/-- The rule that writes one text in the place of another. -/
def literal (first : Char) (others new : Text) : Substitution where
  front
    | [] => none
    | c :: rest =>
        if c = first && others.isPrefixOf rest then some (new, others.length) else none

/-- One pass along a text that still has to pass over some characters already taken. -/
def scan (rule : Substitution) : Nat → Text → Text
  | _, [] => []
  | taken + 1, _ :: rest => rule.scan taken rest
  | 0, c :: rest =>
      match rule.front (c :: rest) with
      | some (new, extra) => new ++ rule.scan extra rest
      | none => c :: rule.scan 0 rest

/-- Substitutes at every place of a text where the rule applies, from left to right. -/
def everywhere (rule : Substitution) (text : Text) : Text :=
  rule.scan 0 text

/-- A place where a rule applies: the text in front of it, the first character there, the text
after that character, and what the rule says. -/
structure Hit where
  before : Text
  first : Char
  rest : Text
  new : Text
  extra : Nat

/-- The leftmost place of a text where the rule applies. -/
def seek? (rule : Substitution) : Text → Option Hit
  | [] => none
  | c :: rest =>
      match rule.front (c :: rest) with
      | some (new, extra) => some ⟨[], c, rest, new, extra⟩
      | none => (rule.seek? rest).map fun hit => { hit with before := c :: hit.before }

theorem seek?_splits {rule : Substitution} {text : Text} {hit : Hit}
    (found : rule.seek? text = some hit) : text = hit.before ++ hit.first :: hit.rest := by
  induction text generalizing hit with
  | nil => simp [seek?] at found
  | cons c rest ih =>
      simp only [seek?] at found
      split at found
      · cases found; rfl
      · obtain ⟨later, laterFound, rfl⟩ := Option.map_eq_some_iff.1 found
        simp [ih laterFound]

theorem length_rest_lt {rule : Substitution} {text : Text} {hit : Hit}
    (found : rule.seek? text = some hit) : hit.rest.length < text.length := by
  rw [seek?_splits found]
  simp only [List.length_append, List.length_cons]
  omega

/-- What becomes of a text that stands after a given character, places behind a backslash
excepted. -/
def unescapedAfter (rule : Substitution) (previous : Option Char) (text : Text) : Text :=
  match _ : rule.seek? text with
  | none => text
  | some hit =>
      if hit.before.getLast?.or previous = some '\\' then
        hit.before ++ hit.first :: rule.unescapedAfter (some hit.first) hit.rest
      else
        hit.before ++ hit.new ++
          rule.unescapedAfter ((hit.rest.take hit.extra).getLast?.or (some hit.first))
            (hit.rest.drop hit.extra)
termination_by text.length
decreasing_by
  · exact length_rest_lt ‹_›
  · have shorter := length_rest_lt ‹rule.seek? text = some hit›
    simp only [List.length_drop]
    omega

/-- Substitutes at every place of a text where the rule applies and no backslash stands directly in
front. -/
def unescaped (rule : Substitution) (text : Text) : Text :=
  rule.unescapedAfter none text

end Substitution

namespace Text

/-- Writes `new` in the place of every occurrence of the non-empty text `first :: others`. -/
def replaceAll (first : Char) (others new text : Text) : Text :=
  (Substitution.literal first others new).everywhere text

end Text

end ProjectTags
