import Mathlib.Data.List.TakeWhile
import ProjectTags.Text.Basic

/-!
# Cutting and joining

Cutting a text at a character and joining pieces with that character are inverse to each other, as
long as no piece holds the character: `joinWith_pieces` is one direction and `pieces_joinWith` the
other. Cutting also distributes over a separator, which is how a path with one more name is read.
-/

namespace ProjectTags.Text

theorem not_mem_of_mem_pieces {separator : Char} {text piece : Text}
    (mem : piece ∈ pieces separator text) : separator ∉ piece := by
  induction text generalizing piece with
  | nil =>
      simp only [pieces, List.mem_singleton] at mem
      subst mem
      simp
  | cons c rest ih =>
      simp only [pieces] at mem
      split at mem
      · rcases List.mem_cons.mp mem with rfl | later
        · simp
        · exact ih later
      · next different =>
          cases cut : pieces separator rest with
          | nil => exact absurd cut (pieces_ne_nil separator rest)
          | cons first others =>
              rw [cut] at ih mem
              rcases List.mem_cons.mp mem with rfl | later
              · have firstFree := ih (List.mem_cons_self ..)
                simp [Ne.symm different, firstFree]
              · exact ih (List.mem_cons_of_mem _ later)

theorem pieces_eq_singleton {separator : Char} {text : Text} (free : separator ∉ text) :
    pieces separator text = [text] := by
  induction text with
  | nil => rfl
  | cons c rest ih =>
      simp only [List.mem_cons, not_or] at free
      rcases free with ⟨different, restFree⟩
      simp [pieces, Ne.symm different, ih restFree]

/-- A separator parts the pieces before it from those behind it. -/
theorem pieces_append_cons (separator : Char) (before behind : Text) :
    pieces separator (before ++ separator :: behind) =
      pieces separator before ++ pieces separator behind := by
  induction before with
  | nil => simp [pieces]
  | cons c rest ih =>
      simp only [List.cons_append, pieces]
      split
      · rw [ih, List.cons_append]
      · rw [ih]
        cases cut : pieces separator rest with
        | nil => exact absurd cut (pieces_ne_nil separator rest)
        | cons first others => simp

/-- Joining pieces and cutting at the separator gives the pieces back. -/
theorem pieces_joinWith {separator : Char} {parts : List Text} (nonempty : parts ≠ [])
    (free : ∀ part ∈ parts, separator ∉ part) :
    pieces separator (joinWith [separator] parts) = parts := by
  induction parts with
  | nil => exact absurd rfl nonempty
  | cons first others ih =>
      have firstFree := free first (List.mem_cons_self ..)
      cases others with
      | nil => exact pieces_eq_singleton firstFree
      | cons second more =>
          have rest := ih (by simp) fun part mem => free part (List.mem_cons_of_mem _ mem)
          simp only [joinWith, List.append_assoc, List.singleton_append]
          rw [pieces_append_cons, pieces_eq_singleton firstFree, rest, List.singleton_append]

/-- A text is cut at the first separator in it. -/
theorem splitAt?_eq_some_iff {separator : Char} {text before behind : Text} :
    splitAt? separator text = some (before, behind) ↔
      separator ∉ before ∧ text = before ++ separator :: behind := by
  induction text generalizing before with
  | nil => simp [splitAt?]
  | cons c rest ih =>
      by_cases here : c = separator
      · subst here
        cases before with
        | nil => simp [splitAt?, eq_comm]
        | cons d others =>
            have notHere : splitAt? c (c :: rest) ≠ some (d :: others, behind) := by
              simp [splitAt?]
            simp only [notHere, false_iff, not_and, List.mem_cons, not_or, List.cons_append,
              List.cons.injEq]
            intro ⟨different, _⟩ same
            exact absurd same different
      · have skip : splitAt? separator (c :: rest) =
            (splitAt? separator rest).map fun parts => (c :: parts.1, parts.2) := by
          unfold splitAt?
          rw [List.dropWhile_cons_of_pos (by simpa using here),
            List.takeWhile_cons_of_pos (by simpa using here)]
          split <;> rfl
        rw [skip]
        cases before with
        | nil => simp [here]
        | cons d others =>
            simp only [Option.map_eq_some_iff, Prod.mk.injEq, List.cons.injEq, Prod.exists,
              List.mem_cons, not_or, List.cons_append]
            constructor
            · rintro ⟨start, tail, cut, ⟨rfl, rfl⟩, rfl⟩
              rcases ih.mp cut with ⟨free, rfl⟩
              exact ⟨⟨Ne.symm here, free⟩, rfl, rfl⟩
            · rintro ⟨⟨_, free⟩, rfl, rfl⟩
              exact ⟨others, behind, ih.mpr ⟨free, rfl⟩, ⟨rfl, rfl⟩, rfl⟩

theorem splitAt?_eq_none_iff {separator : Char} {text : Text} :
    splitAt? separator text = none ↔ separator ∉ text := by
  have free : separator ∉ text ↔ text.dropWhile (· != separator) = [] := by
    rw [List.dropWhile_eq_nil_iff]
    constructor
    · intro absent c mem
      simpa using fun same : c = separator => absent (same ▸ mem)
    · intro others mem
      simpa using others separator mem
  rw [free, splitAt?]
  split
  · next gone => simp [gone]
  · next found => simp [found]

/-- A text occurs in another exactly if that one has it as a part. -/
theorem contains_iff {needle text : Text} : contains needle text = true ↔ needle <:+: text := by
  induction text with
  | nil => simp [contains]
  | cons c rest ih =>
      rw [contains, Bool.or_eq_true, List.isPrefixOf_iff_prefix, ih, List.infix_cons_iff]

end ProjectTags.Text
