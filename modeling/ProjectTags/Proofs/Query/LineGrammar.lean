import ProjectTags.Proofs.Query.RoundTrip

/-!
# The lines that tell a match

A line is read as a match exactly if it has the form given here: a file, a tab, a line number with
white space around it, and, unless the line ends there, another tab and the text. As only the first
two tabs count, the text may have tabs itself, and a tab is the one white space that does not stand
around the number. What is read can be written and read again, for a file that was read has no tab
and a number that was read is not too great.
-/

namespace ProjectTags.ResultLine

/-- The part of a line between its first two tabs: a number of at most 64 bits. -/
structure IsNumberField (field : Text) (line : Nat) : Prop where
  single : '\t' ∉ field
  padded : ∃ before number after, field = before ++ (number ++ after) ∧
    (∀ c ∈ before, Text.isBlank c = true) ∧ (∀ c ∈ after, Text.isBlank c = true) ∧
    Text.IsNumeral number line
  small : line < 2 ^ 64

/-- A line that tells a match. -/
inductive Tells : Text → ResultLine → Prop where
  | withText {file field : Text} {line : Nat} (nonempty : file ≠ []) (single : '\t' ∉ file)
      (number : IsNumberField field line) (text : Text) :
      Tells (file ++ '\t' :: (field ++ '\t' :: text)) ⟨file, line, text⟩
  | withoutText {file field : Text} {line : Nat} (nonempty : file ≠ []) (single : '\t' ∉ file)
      (number : IsNumberField field line) : Tells (file ++ '\t' :: field) ⟨file, line, []⟩

variable {raw field text : Text} {line n : Nat} {result : ResultLine}

theorem lineBound_eq : lineBound = 2 ^ 64 := by
  norm_num [lineBound]

/-- Neither the sign nor a digit of a number is white space. -/
theorem solid_of_isNumeral (numeral : Text.IsNumeral text n) :
    text ≠ [] ∧ ∀ c ∈ text, Text.isBlank c = false := by
  rcases numeral with ⟨sign, listed, body, nonempty, allDigits, rfl, _⟩
  have signs : ∀ sign ∈ [[], ['+']], ∀ c ∈ sign, Text.isBlank c = false := by decide
  refine ⟨by simp [nonempty], ?_⟩
  intro c mem
  rcases List.mem_append.mp mem with inSign | inBody
  · exact signs sign listed c inSign
  · exact Text.isBlank_of_isDigit (allDigits c inBody)

theorem isNumberField_iff :
    IsNumberField field line ↔
      '\t' ∉ field ∧ Text.natural? lineBound (Text.trim field) = some line := by
  rw [Text.natural?_eq_some_iff, lineBound_eq]
  constructor
  · rintro ⟨single, ⟨before, number, after, rfl, blankBefore, blankAfter, numeral⟩, small⟩
    rcases solid_of_isNumeral numeral with ⟨nonempty, solid⟩
    rw [Text.trim_padded blankBefore blankAfter nonempty solid]
    exact ⟨single, numeral, small⟩
  · rintro ⟨single, numeral, small⟩
    rcases Text.exists_padding field with ⟨before, after, whole, blankBefore, blankAfter⟩
    exact ⟨single, ⟨before, _, after, whole, blankBefore, blankAfter, numeral⟩, small⟩

theorem parse?_eq_some_iff_tells : parse? raw = some result ↔ Tells raw result := by
  rw [parse?_eq_some_iff]
  constructor
  · rcases result with ⟨file, line, text⟩
    rintro ⟨nonempty, single, field, fieldSingle, read, rfl | ⟨rfl, rfl⟩⟩
    · exact .withText nonempty single (isNumberField_iff.mpr ⟨fieldSingle, read⟩) text
    · exact .withoutText nonempty single (isNumberField_iff.mpr ⟨fieldSingle, read⟩)
  · intro tells
    cases tells with
    | withText nonempty single number text =>
        rcases isNumberField_iff.mp number with ⟨fieldSingle, read⟩
        exact ⟨nonempty, single, _, fieldSingle, read, Or.inl rfl⟩
    | withoutText nonempty single number =>
        rcases isNumberField_iff.mp number with ⟨fieldSingle, read⟩
        exact ⟨nonempty, single, _, fieldSingle, read, Or.inr ⟨rfl, rfl⟩⟩

theorem parse?_render_of_parse? (parsed : parse? raw = some result) :
    parse? result.render = some result := by
  rcases parse?_eq_some_iff.mp parsed with ⟨nonempty, single, number, _, read, _⟩
  exact parse?_render_of_small nonempty single (Text.lt_of_natural? read)

/-- A line is read as the match that it tells, and as none if it tells none. What was read comes
back when it is written and read again. -/
theorem reads_what_lines_tell (raw : Text) (result : ResultLine) :
    (parse? raw = some result ↔ Tells raw result) ∧
      (parse? raw = none ↔ ∀ result, ¬Tells raw result) ∧
      (parse? raw = some result → parse? result.render = some result) := by
  refine ⟨parse?_eq_some_iff_tells, ?_, parse?_render_of_parse?⟩
  simp only [← parse?_eq_some_iff_tells, Option.eq_none_iff_forall_ne_some]

/-- There are a sign, leading zeros and white space of several kinds at the number, and a tab in the
text. -/
theorem reads_padded_number :
    Tells "a b.c\t\u2003 +007\r\tx\ty".toList ⟨"a b.c".toList, 7, "x\ty".toList⟩ ∧
      parse? (render ⟨"a b.c".toList, 7, "x\ty".toList⟩) =
        some ⟨"a b.c".toList, 7, "x\ty".toList⟩ := by
  have parsed : parse? "a b.c\t\u2003 +007\r\tx\ty".toList =
      some ⟨"a b.c".toList, 7, "x\ty".toList⟩ := by
    decide +kernel
  rcases reads_what_lines_tell "a b.c\t\u2003 +007\r\tx\ty".toList
    ⟨"a b.c".toList, 7, "x\ty".toList⟩ with ⟨tells, _, again⟩
  exact ⟨tells.mp parsed, again parsed⟩

end ProjectTags.ResultLine
