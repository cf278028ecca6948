import Mathlib.Data.List.TakeWhile
import ProjectTags.Text.Blank

/-!
# Cutting off the end of a text

What is left when the characters of a class are cut off the end is a beginning of the text, does not
end in such a character, and is the whole text if that did not either.
-/

namespace ProjectTags.Text

variable {text : Text}

theorem dropWhileEnd_eq {p : Char → Bool} (solid : text.getLast?.any p = false) :
    dropWhileEnd p text = text := by
  rcases List.eq_nil_or_concat text with rfl | ⟨start, last, rfl⟩
  · rfl
  · rw [List.concat_eq_append] at solid ⊢
    rw [List.getLast?_concat, Option.any_some] at solid
    simp [dropWhileEnd, solid]

theorem prefix_of_dropWhileEnd (p : Char → Bool) (text : Text) : dropWhileEnd p text <+: text := by
  have back : (text.reverse.dropWhile p).reverse <+: text.reverse.reverse :=
    List.reverse_prefix.mpr (List.dropWhile_suffix p)
  rwa [List.reverse_reverse] at back

theorem any_getLast?_dropWhileEnd (p : Char → Bool) (text : Text) :
    (dropWhileEnd p text).getLast?.any p = false := by
  rw [dropWhileEnd, List.getLast?_reverse]
  have stopped := List.head?_dropWhile_not p text.reverse
  cases first : (text.reverse.dropWhile p).head? with
  | none => rfl
  | some c =>
      rw [first] at stopped
      simpa using stopped

theorem trimRight_eq (solid : text.getLast?.any isBlank = false) : trimRight text = text :=
  dropWhileEnd_eq solid

theorem trimRight_of_solid (solid : ∀ c ∈ text, isBlank c = false) : trimRight text = text := by
  apply trimRight_eq
  rw [Option.any_eq_false]
  intro c last
  simpa using solid c (List.mem_of_getLast? last)

/-- A text without white space is not trimmed. -/
theorem trim_eq (solid : ∀ c ∈ text, isBlank c = false) : trim text = text := by
  have front : trimLeft text = text := by
    rw [trimLeft, List.dropWhile_eq_self_iff]
    intro nonempty
    rw [Bool.not_eq_true]
    exact solid _ (List.getElem_mem nonempty)
  rw [trim, front, trimRight_of_solid solid]

/-- White space around a text without any is all that is trimmed. -/
theorem trim_padded {before after : Text} (blankBefore : ∀ c ∈ before, isBlank c = true)
    (blankAfter : ∀ c ∈ after, isBlank c = true) (nonempty : text ≠ [])
    (solid : ∀ c ∈ text, isBlank c = false) : trim (before ++ (text ++ after)) = text := by
  have front : trimLeft (before ++ (text ++ after)) = text ++ after := by
    rw [trimLeft, List.dropWhile_append_of_pos blankBefore]
    cases text with
    | nil => exact absurd rfl nonempty
    | cons c more => simp [solid c (List.mem_cons_self ..)]
  have back : trimRight (text ++ after) = trimRight text := by
    have blankEnd : ∀ c ∈ after.reverse, isBlank c = true := fun c mem =>
      blankAfter c (List.mem_reverse.mp mem)
    rw [trimRight, trimRight, dropWhileEnd, dropWhileEnd, List.reverse_append,
      List.dropWhile_append_of_pos blankEnd]
  rw [trim, front, back, trimRight_of_solid solid]

/-- A text is what is left of it when it is trimmed, with white space around. -/
theorem exists_padding (text : Text) :
    ∃ before after, text = before ++ (trim text ++ after) ∧
      (∀ c ∈ before, isBlank c = true) ∧ ∀ c ∈ after, isBlank c = true := by
  refine ⟨text.takeWhile isBlank, ((trimLeft text).reverse.takeWhile isBlank).reverse, ?_, ?_, ?_⟩
  · rw [trim, trimRight, dropWhileEnd, ← List.reverse_append, List.takeWhile_append_dropWhile,
      List.reverse_reverse, trimLeft, List.takeWhile_append_dropWhile]
  · exact fun c mem => List.mem_takeWhile_imp mem
  · exact fun c mem => List.mem_takeWhile_imp (List.mem_reverse.mp mem)

end ProjectTags.Text
