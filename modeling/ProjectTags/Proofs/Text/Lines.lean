import ProjectTags.Proofs.Text.Utf8
import ProjectTags.Text.Lines

/-!
# Lines of a text in UTF-8

The byte of a line break is part of no other character. So the lines of the bytes of a text are
the bytes of its lines, and none of them is broken again when it is read.
-/

namespace ProjectTags.Bytes

variable {bytes line : Bytes} {text : Text}

/-- What stands before the first line break is the first line. -/
theorem lines_append_break (free : lineBreak ∉ bytes) (rest : Bytes) :
    lines (bytes ++ lineBreak :: rest) = bytes :: lines rest := by
  induction bytes with
  | nil => rfl
  | cons byte others ih =>
      simp only [List.mem_cons, not_or] at free
      rw [List.cons_append]
      change putBefore byte (lines (others ++ lineBreak :: rest)) = _
      rw [ih free.2, putBefore, if_neg (Ne.symm free.1)]

/-- Bytes without a line break become part of the first line. -/
theorem lines_append (free : lineBreak ∉ bytes) (nonempty : bytes ≠ []) (rest : Bytes) :
    lines (bytes ++ rest) =
      match lines rest with
      | [] => [bytes]
      | line :: others => (bytes ++ line) :: others := by
  induction bytes with
  | nil => exact absurd rfl nonempty
  | cons byte others ih =>
      simp only [List.mem_cons, not_or] at free
      rw [List.cons_append]
      change putBefore byte (lines (others ++ rest)) = _
      by_cases last : others = []
      · subst last
        cases cut : lines rest <;> simp [putBefore, Ne.symm free.1, cut]
      · rw [ih free.2 last]
        cases lines rest <;> simp [putBefore, Ne.symm free.1]

theorem lines_ne_nil (nonempty : bytes ≠ []) : lines bytes ≠ [] := by
  cases bytes with
  | nil => exact absurd rfl nonempty
  | cons byte others =>
      change putBefore byte (lines others) ≠ []
      unfold putBefore
      split
      · simp
      · split <;> simp

theorem putBefore_append {byte : UInt8} {first : List Bytes} (nonempty : first ≠ [])
    (second : List Bytes) : putBefore byte (first ++ second) = putBefore byte first ++ second := by
  cases first with
  | nil => exact absurd rfl nonempty
  | cons line others =>
      unfold putBefore
      split <;> rfl

/-- Behind a line break stand lines of their own. -/
theorem lines_break_append (first second : Bytes) :
    lines (first ++ lineBreak :: second) = lines (first ++ [lineBreak]) ++ lines second := by
  induction first with
  | nil => rfl
  | cons byte others ih =>
      change putBefore byte (lines (others ++ lineBreak :: second)) = _
      rw [ih, putBefore_append (lines_ne_nil (by simp))]
      rfl

/-- A line break at the end ends the last line, or it is an empty line if that was ended. -/
theorem lines_append_lineBreak (bytes : Bytes) :
    lines (bytes ++ [lineBreak]) = lines bytes ∨
      lines (bytes ++ [lineBreak]) = lines bytes ++ [[]] := by
  induction bytes with
  | nil => exact Or.inr rfl
  | cons byte others ih =>
      change putBefore byte (lines (others ++ [lineBreak])) = putBefore byte (lines others) ∨
        putBefore byte (lines (others ++ [lineBreak])) = putBefore byte (lines others) ++ [[]]
      rcases ih with same | added
      · exact Or.inl (by rw [same])
      · rw [added]
        cases cut : lines others with
        | cons line more => exact Or.inr (putBefore_append (by simp) _)
        | nil =>
            by_cases break_ : byte = lineBreak
            · exact Or.inr (by simp [putBefore, break_])
            · exact Or.inl (by simp [putBefore, break_])

theorem lineBreak_not_mem_encodeChar {c : Char} (kept : c ≠ '\n') :
    lineBreak ∉ Utf8.encodeChar c := by
  intro mem
  have code := Utf8.eq_of_small_mem_encodeChar mem (by decide)
  apply kept
  rw [← Char.ofNat_toNat c, code]
  rfl

theorem lineBreak_not_mem_encode (free : '\n' ∉ text) : lineBreak ∉ Utf8.encode text := by
  intro mem
  rcases List.mem_flatMap.mp mem with ⟨c, inText, inBytes⟩
  refine lineBreak_not_mem_encodeChar ?_ inBytes
  rintro rfl
  exact free inText

theorem lines_encode_append_break (free : '\n' ∉ text) (rest : Text) :
    lines (Utf8.encode (text ++ '\n' :: rest)) = Utf8.encode text :: lines (Utf8.encode rest) := by
  have cut : Utf8.encode (text ++ '\n' :: rest) =
      Utf8.encode text ++ lineBreak :: Utf8.encode rest := by
    rw [Utf8.encode_append]
    rfl
  rw [cut, lines_append_break (lineBreak_not_mem_encode free)]

/-- Each line of a text in UTF-8 is the UTF-8 form of a text without a line break. -/
theorem exists_of_mem_lines_encode (mem : line ∈ lines (Utf8.encode text)) :
    ∃ piece, '\n' ∉ piece ∧ line = Utf8.encode piece := by
  induction text generalizing line with
  | nil => simp [Utf8.encode, lines] at mem
  | cons c rest ih =>
      have cut : Utf8.encode (c :: rest) = Utf8.encodeChar c ++ Utf8.encode rest := by
        simp [Utf8.encode]
      by_cases break_ : c = '\n'
      · subst break_
        change line ∈ [] :: lines (Utf8.encode rest) at mem
        rcases List.mem_cons.mp mem with rfl | later
        · exact ⟨[], by simp, rfl⟩
        · exact ih later
      · have single : Utf8.encodeChar c = Utf8.encode [c] := by simp [Utf8.encode]
        rw [cut, lines_append (lineBreak_not_mem_encodeChar break_) (Utf8.encodeChar_ne_nil c)] at mem
        cases others : lines (Utf8.encode rest) with
        | nil =>
            rw [others, List.mem_singleton] at mem
            exact ⟨[c], by simpa using Ne.symm break_, by rw [mem, single]⟩
        | cons first more =>
            rw [others] at mem ih
            rcases List.mem_cons.mp mem with rfl | later
            · rcases ih (List.mem_cons_self ..) with ⟨piece, free, rfl⟩
              refine ⟨c :: piece, by simp [Ne.symm break_, free], ?_⟩
              rw [single, ← Utf8.encode_append, List.singleton_append]
            · exact ih (List.mem_cons_of_mem _ later)

end ProjectTags.Bytes
