import ProjectTags.Proofs.Pattern.Rules

/-!
# Plain characters

Some punctuation is plain text in a search pattern, with a backslash in front or without one, and an
operator in Vim, where it is plain only behind a backslash. The rule for operators puts one in front
of three of these characters, also where there is one already, and no rule looks at the others.
-/

namespace ProjectTags.Pattern

open Substitution

/-- The punctuation that is plain text in a search pattern and an operator in Vim. -/
def punctuation : Text :=
  ['%', '@', '&', '=', '<', '>', '~']

/-- A plain character of a search pattern. -/
inductive PlainChar where
  | letter (c : Char) (word : Text.isWordChar c = true)
  | sign (c : Char) (listed : c ∈ punctuation) (escaped : Bool)

/-- A character as the rule for operators writes it. -/
def vimForm (c : Char) : Text :=
  if isVimOperator c then ['\\', c] else [c]

namespace PlainChar

def written : PlainChar → Text
  | letter c _ => [c]
  | sign c _ escaped => if escaped then ['\\', c] else [c]

/-- The character with the one backslash that Vim needs. -/
def carried : PlainChar → Text
  | letter c _ => [c]
  | sign c _ _ => ['\\', c]

/-- What all rules make of the character. -/
def emitted : PlainChar → Text
  | letter c _ => [c]
  | sign c _ escaped => if escaped then '\\' :: vimForm c else vimForm c

end PlainChar

variable {c d : Char}

theorem mem_vimForm (mem : d ∈ vimForm c) : d = '\\' ∨ d = c := by
  by_cases operator : isVimOperator c = true
  · simpa [vimForm, operator] using mem
  · right
    simpa [vimForm, operator] using mem

theorem everywhere_vimOperator_eq_flatMap (text : Text) :
    vimOperator.everywhere text = text.flatMap vimForm := by
  induction text with
  | nil => rfl
  | cons c rest ih =>
      rw [List.flatMap_cons, ← ih]
      by_cases operator : isVimOperator c = true
      · have applies : vimOperator.front (c :: rest) = some (['\\', c], 0) := by
          simp [vimOperator, operator]
        rw [everywhere_cons_of_some applies, vimForm, if_pos operator, List.drop_zero]
      · have misses : vimOperator.front (c :: rest) = none := by
          simp [vimOperator, operator]
        rw [everywhere_cons_of_none misses, vimForm, if_neg operator, List.singleton_append]

namespace PlainChar

theorem flatMap_vimForm (plain : PlainChar) : plain.written.flatMap vimForm = plain.emitted := by
  cases plain with
  | letter c word => simp [written, emitted, vimForm, isVimOperator_of_isWordChar word]
  | sign c listed escaped =>
      have slash : vimForm '\\' = ['\\'] := rfl
      cases escaped <;> simp [written, emitted, slash]

theorem everywhere_vimOperator_written (plains : List PlainChar) :
    vimOperator.everywhere (plains.flatMap written) = plains.flatMap emitted := by
  rw [everywhere_vimOperator_eq_flatMap, List.flatMap_assoc]
  exact List.flatMap_congr fun plain _ => plain.flatMap_vimForm

/-! ## The rules for quantifiers and escapes -/

theorem over_emitted (plain : PlainChar) : Text.Over ('\\' :: punctuation) plain.emitted := by
  cases plain with
  | letter c word => exact Text.over_wordChar word
  | sign c listed escaped =>
      have slash : Text.Over ('\\' :: punctuation) ['\\'] := Text.over_of_subset (by simp)
      have form : Text.Over ('\\' :: punctuation) (vimForm c) := by
        apply Text.over_of_subset
        intro d mem
        rcases mem_vimForm mem with rfl | rfl
        · exact List.mem_cons_self ..
        · exact List.mem_cons_of_mem _ listed
      cases escaped with
      | false => exact form
      | true => exact slash.append form

/-- Behind a backslash there is a sign or another backslash. -/
theorem follows_emitted (plain : PlainChar) :
    Text.Follows '\\' ('\\' :: punctuation) plain.emitted := by
  cases plain with
  | letter c word => exact Text.follows_of_not_mem (Text.not_mem_wordChar word _ (by decide))
  | sign c listed escaped =>
      have all : ∀ c ∈ punctuation, Text.Follows '\\' ('\\' :: punctuation) (vimForm c) ∧
          Text.Follows '\\' ('\\' :: punctuation) ('\\' :: vimForm c) := by
        simp [punctuation, Text.Follows, vimForm, isVimOperator]
      cases escaped with
      | false => exact (all c listed).1
      | true => exact (all c listed).2

theorem free_escapes_flatMap (plains : List PlainChar) :
    Text.Free escapes (plains.flatMap emitted) :=
  free_escapes_of_follows (Text.follows_flatMap fun plain _ => plain.follows_emitted) (by decide)

theorem toVim_written (plains : List PlainChar) :
    toVim .regular (plains.flatMap written) = veryMagic ++ plains.flatMap emitted := by
  have chars : Text.Over ('\\' :: punctuation) (plains.flatMap emitted) :=
    Text.over_flatMap fun plain _ => plain.over_emitted
  rw [toVim_regular, everywhere_vimOperator_written,
    rulesBehindOperators_eq chars (by decide) (free_escapes_flatMap plains)]

/-! ## One backslash -/

/-- Whether the rules give the character the one backslash that it needs. -/
def IsCarried : PlainChar → Prop
  | letter _ _ => True
  | sign c _ escaped => escaped = !isVimOperator c

theorem emitted_append_eq_iff (plain : PlainChar) (first second : Text) :
    plain.emitted ++ first = plain.carried ++ second ↔ plain.IsCarried ∧ first = second := by
  cases plain with
  | letter c word => simp [emitted, carried, IsCarried]
  | sign c listed escaped =>
      have apart : ∀ c ∈ punctuation, c ≠ '\\' := by decide
      have other := apart c listed
      -- One backslash too many stands where the sign should be, and with none the sign comes first.
      by_cases operator : isVimOperator c = true
      · cases escaped <;> simp [emitted, carried, IsCarried, vimForm, operator, other.symm]
      · cases escaped <;> simp [emitted, carried, IsCarried, vimForm, operator, other]

theorem flatMap_emitted_iff (plains : List PlainChar) :
    plains.flatMap emitted = plains.flatMap carried ↔ ∀ plain ∈ plains, plain.IsCarried := by
  induction plains with
  | nil => simp
  | cons plain others ih =>
      rw [List.flatMap_cons, List.flatMap_cons, emitted_append_eq_iff, ih, List.forall_mem_cons]

/-- Operators of Vim get a backslash more than they had and the other signs are left as they are.
Each sign comes out with one backslash just if the former were written without one and the latter
with one. -/
theorem toVim_plain (plains : List PlainChar) :
    toVim .regular (plains.flatMap written) = veryMagic ++ plains.flatMap emitted ∧
      (toVim .regular (plains.flatMap written) = veryMagic ++ plains.flatMap carried ↔
        ∀ plain ∈ plains, plain.IsCarried) := by
  have whole := toVim_written plains
  refine ⟨whole, ?_⟩
  rw [whole, List.append_cancel_left_eq, flatMap_emitted_iff]

/-- A sign that no rule looks at and an operator with a backslash: `a=b\%`. -/
def mixed : List PlainChar :=
  [letter 'a' Text.isWordChar_a, sign '=' (by decide) false, letter 'b' Text.isWordChar_b,
    sign '%' (by decide) true]

/-- The first sign comes out with no backslash and the second one with two. -/
theorem toVim_mixed_signs :
    toVim .regular (mixed.flatMap written) = veryMagic ++ "a=b\\\\%".toList ∧
      mixed.flatMap carried = "a\\=b\\%".toList := by
  constructor
  · rw [toVim_written]
    rfl
  · rfl

end PlainChar

end ProjectTags.Pattern
