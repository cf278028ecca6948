import ProjectTags.Proofs.Shell.Spelled

/-!
# Texts pasted between double quotes

A text that is pasted between double quotes is read as a word that stands for that text exactly if
no character in it means something there. Any such character either makes the word stand for a text
with fewer characters, or for one that is not known before it is expanded, or the word does not end
where the pasted text ends.
-/

namespace ProjectTags.Shell

open Region

/-- Whether a character means something else between double quotes, by the character behind it. At
the end of a text that is the closing quote. -/
def isActive (c : Char) (next : Option Char) : Bool :=
  c = '"' || c = '\x60' ||
    (c = '$' && next.any fun d => d = '(' || d = '\x7b' || beginsName d || isSpecial d) ||
    (c = '\\' && next.all fun d => d = '\\' || d = '\x60' || d = '$' || d = '"' || d = '\n')

/-- Whether all characters of a text stand for themselves between double quotes. -/
def isLiteral : Text → Bool
  | [] => true
  | c :: rest => !isActive c rest.head? && isLiteral rest

/-- The front of a script is read as one word, which stands for a text whatever the state of the
shell, up to a rest of the script. -/
def ReadsAs (inner : InnerReading) (cursor : Cursor) (text rest : Text) : Prop :=
  ∃ word quoted line,
    (readWord inner .bare).run cursor =
        .ok ((word, quoted), { cursor with rest := rest, line := line }) ∧
      literal? word = some text

variable {cursor : Cursor} {inner : InnerReading} {text script value rest : Text}

theorem run_readWord (region : Region) :
    (readWord inner region).run cursor =
      (readParts inner (stepsFor cursor.rest) region).run cursor := by
  simp only [readWord, StateT.run_bind, StateT.run_get, pure_bind]

theorem readsAs_iff_spelled :
    ReadsAs inner cursor text rest ↔ Spelled .bare cursor.rest text rest := by
  unfold ReadsAs
  rw [run_readWord]
  have enough : cursor.rest.length < stepsFor cursor.rest := by
    rw [stepsFor]
    omega
  generalize stepsFor cursor.rest = steps at enough ⊢
  constructor
  · rintro ⟨word, quoted, line, read, literal⟩
    exact spelled_of_readParts inner _ (Or.inl rfl) enough read literal
  · intro spelled
    rcases gives_of_spelled inner (Or.inl rfl) spelled enough with
      ⟨word, quoted, line, read, literal, _⟩
    exact ⟨word, quoted, line, read, literal⟩

/-! ## Literal texts -/

theorem isActive_of_not_mem {c : Char} (next : Option Char) (other : c ∉ ['"', '\x60', '$', '\\']) :
    isActive c next = false := by
  simp only [List.mem_cons, List.not_mem_nil, or_false, not_or] at other
  simp [isActive, other]

theorem skipJoins_of_isLiteral (literal : isLiteral text = true) (rest : Text) :
    skipJoins (text ++ '"' :: rest) = (0, text ++ '"' :: rest) := by
  apply skipJoins.eq_2
  intro others same
  rcases text with _ | ⟨c, _ | ⟨d, text⟩⟩
  · simp at same
  · simp at same
  · simp only [List.cons_append, List.cons.injEq] at same
    rcases same with ⟨rfl, rfl, _⟩
    simp [isLiteral, isActive] at literal

/-- A dollar sign means something exactly if it introduces something. -/
theorem introduces_of_isLiteral (literal : isLiteral text = true) (rest : Text) :
    introduces (text ++ '"' :: rest) = isActive '$' text.head? := by
  rw [introduces, skipJoins_of_isLiteral literal]
  cases text <;> simp [isActive, beginsName, isSpecial, Text.isDigit]

theorem spelled_of_isLiteral (literal : isLiteral text = true) (rest : Text) :
    Spelled .quotes (text ++ '"' :: rest) text ('"' :: rest) := by
  induction size : text.length using Nat.strong_induction_on generalizing text with
  | _ bound ih =>
      rcases text with _ | ⟨c, text⟩
      · exact .stop (by simp [endsAt]) (by simp)
      simp only [isLiteral, Bool.and_eq_true, Bool.not_eq_true'] at literal
      rcases literal with ⟨inactive, literal⟩
      have others := ih text.length (by simp [← size]) literal rfl
      by_cases special : c ∈ specialCharacters
      · simp only [specialCharacters, List.mem_cons, List.not_mem_nil, or_false] at special
        rcases special with rfl | rfl | rfl | rfl | rfl | mark
        · rcases text with _ | ⟨d, text⟩
          · simp [isActive] at inactive
          · simp [isActive] at inactive
            simp [isLiteral] at literal
            have inLine : d ≠ '\n' := by simp [inactive]
            have spelled := Spelled.escape inLine
              (ih text.length (by simp only [← size, List.length_cons]; omega) literal.2 rfl)
            simpa [isEscapable, inactive] using spelled
        · exact .mark (by simp) others
        · simp [isActive] at inactive
        · simp [isActive] at inactive
        · exact .dollar ((introduces_of_isLiteral literal rest).trans inactive) others
        · exact .mark (by simp [mark]) others
      · refine .plain special ?_ others
        simp [specialCharacters] at special
        simp [endsAt, special]

/-- A spelling between double quotes that is no longer than the text is the text. -/
theorem Spelled.isLiteral_of_length_le (spelled : Spelled .quotes script value ('"' :: rest))
    (short : script.length ≤ value.length + rest.length + 1) :
    script = value ++ '"' :: rest ∧ isLiteral value = true := by
  generalize within : Region.quotes = region, closed : '"' :: rest = behind at spelled
  induction spelled with
  | stop => exact ⟨by simp, rfl⟩
  | join others =>
      subst closed
      rcases others.exists_taken (Or.inr within.symm) with ⟨taken, rfl, longer, _⟩
      simp at short
      omega
  | @escape region c script value _ inLine others ih =>
      subst within closed
      rcases others.exists_taken (Or.inr rfl) with ⟨taken, whole, longer, _⟩
      split at short
      · simp [whole] at short
        omega
      next inactive =>
        simp [isEscapable] at inactive
        rcases ih (by simp at short; omega) rfl rfl with ⟨rfl, literal⟩
        exact ⟨by simp [isEscapable, inactive],
          by simp [isEscapable, inactive, isLiteral, isActive, inLine, literal]⟩
  | lastBackslash => cases closed
  | apostrophes => cases within
  | quotes => cases within
  | dollar plain _ ih =>
      subst closed
      rcases ih (by simp at short; omega) within rfl with ⟨rfl, literal⟩
      rw [introduces_of_isLiteral literal] at plain
      exact ⟨rfl, by simp [isLiteral, plain, literal]⟩
  | @mark c _ _ _ special _ ih =>
      rcases ih (by simp at short; omega) within closed with ⟨rfl, literal⟩
      have other : c ∉ ['"', '\x60', '$', '\\'] := by
        simp at special
        rcases special with rfl | rfl | rfl <;> simp
      exact ⟨rfl, by simp [isLiteral, isActive_of_not_mem _ other, literal]⟩
  | @plain _ c _ _ _ special _ _ ih =>
      rcases ih (by simp at short; omega) within closed with ⟨rfl, literal⟩
      have other : c ∉ ['"', '\x60', '$', '\\'] := by
        simp [specialCharacters] at special
        simp [special]
      exact ⟨rfl, by simp [isLiteral, isActive_of_not_mem _ other, literal]⟩

/-- A text pasted between double quotes is read as that text exactly if it is literal. -/
theorem readsAs_iff_isLiteral (pasted : cursor.rest = '"' :: (text ++ '"' :: rest))
    (apart : endsAt .bare rest = true) :
    ReadsAs inner cursor text rest ↔ isLiteral text = true := by
  rw [readsAs_iff_spelled, pasted]
  constructor
  · intro spelled
    generalize start : '"' :: (text ++ '"' :: rest) = script at spelled
    cases spelled with
    | @quotes _ inside value behind _ held others =>
        cases start
        rcases others.exists_taken (Or.inl rfl) with ⟨last, whole, longerLast, quoteLast⟩
        rcases behind with _ | ⟨b, behind⟩
        · have ending := held.getLast?_of_quotes
          simp only [List.tail_nil, List.nil_eq, List.append_eq_nil_iff] at whole
          simp [whole.2] at ending
        rcases held.exists_taken (Or.inr rfl) with ⟨first, wholeHeld, longerHeld, _⟩
        rw [List.tail_cons] at whole
        subst whole
        have size := congrArg List.length wholeHeld
        simp only [List.length_append, List.length_cons] at size
        rw [List.append_assoc] at wholeHeld
        -- Nothing is lost on either side, so what stands behind the closing quote holds no quote.
        rcases List.append_inj wholeHeld (by omega) with ⟨rfl, same⟩
        have same : value ++ ['"'] = b :: last := by
          apply (List.append_left_inj rest).mp
          simpa using same
        rcases value with _ | ⟨d, value⟩
        · cases same
          rw [List.append_nil]
          exact (held.isLiteral_of_length_le (by simp; omega)).2
        · cases same
          have := quoteLast (by simp)
          omega
    | stop => exact absurd (congrArg List.length start) (by simp; omega)
    | plain special => cases start; simp [specialCharacters] at special
    | _ => cases start
  · intro literal
    have whole := Spelled.quotes (spelled_of_isLiteral literal rest) (.stop apart fun _ => rfl)
    rwa [List.append_nil] at whole

example : isLiteral "a$ (b)\\c".toList = true := by decide

example : isLiteral "a$(b)\\c".toList = false := by decide

end ProjectTags.Shell
