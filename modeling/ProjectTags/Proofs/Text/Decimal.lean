import Mathlib.Data.List.Induction
import Mathlib.Data.Nat.Digits.Defs
import ProjectTags.Proofs.Text.Trimming
import ProjectTags.Text.Decimal

/-!
# Numbers in decimal

What is read as a number is an optional plus sign and at least one digit, and the number is the sum
of the digits by their places. The digits that are written for a number are among this. They have no
sign in front and no white space around them, so nothing of them is left out when they are read
back.
-/

namespace ProjectTags.Text

variable {text : Text} {bound n : Nat} {c : Char}

/-- A number in decimal: an optional plus sign and at least one digit. Any number of zeros may stand
in front. -/
def IsNumeral (text : Text) (n : Nat) : Prop :=
  ∃ sign ∈ [[], ['+']], ∃ body : Text, body ≠ [] ∧ (∀ c ∈ body, isDigit c = true) ∧
    text = sign ++ body ∧ n = Nat.ofDigits 10 (body.reverse.map fun c => c.toNat - '0'.toNat)

/-! ## Digits -/

theorem toNat_digit (n : Nat) : (digit n).toNat = 48 + n % 10 := by
  have valid : (48 + n % 10).isValidChar := by
    left
    omega
  rw [digit, Char.ofNat, dif_pos valid]
  rfl

theorem isDigit_digit (n : Nat) : isDigit (digit n) = true := by
  have least : 48 ≤ (digit n).toNat := by
    rw [toNat_digit]
    omega
  have most : (digit n).toNat ≤ 57 := by
    rw [toNat_digit]
    omega
  rw [isDigit, Bool.and_eq_true, decide_eq_true_eq, decide_eq_true_eq]
  exact ⟨least, most⟩

theorem isBlank_of_isDigit (digit : isDigit c = true) : isBlank c = false := by
  rw [isDigit, Bool.and_eq_true, decide_eq_true_eq, decide_eq_true_eq] at digit
  have least : 48 ≤ c.toNat := digit.1
  have most : c.toNat ≤ 57 := digit.2
  rw [isBlank, List.any_eq_false]
  intro range listed
  simp only [Bool.and_eq_true, decide_eq_true_eq, not_and]
  simp only [blankRanges, List.mem_cons, List.not_mem_nil, or_false] at listed
  rcases listed with rfl | rfl | rfl | rfl | rfl | rfl | rfl | rfl | rfl | rfl <;> omega

theorem isDigit_of_mem_digits (mem : c ∈ digits n) : isDigit c = true := by
  induction n using Nat.strong_induction_on with
  | _ n ih =>
      rw [digits] at mem
      split at mem
      · rw [List.mem_singleton.mp mem]
        exact isDigit_digit n
      · rcases List.mem_append.mp mem with earlier | last
        · exact ih (n / 10) (by omega) earlier
        · rw [List.mem_singleton.mp last]
          exact isDigit_digit n

theorem digits_ne_nil (n : Nat) : digits n ≠ [] := by
  rw [digits]
  split <;> simp

theorem not_mem_digits (other : isDigit c = false) : c ∉ digits n := by
  intro mem
  simp [isDigit_of_mem_digits mem] at other

/-! ## Reading -/

theorem valueOf_concat (text : Text) (c : Char) :
    valueOf (text ++ [c]) = 10 * valueOf text + (c.toNat - 48) := by
  simp [valueOf]

theorem valueOf_digits (n : Nat) : valueOf (digits n) = n := by
  induction n using Nat.strong_induction_on with
  | _ n ih =>
      rw [digits]
      split
      · next small =>
          have single : valueOf [digit n] = n % 10 := by simp [valueOf, toNat_digit]
          rw [single, Nat.mod_eq_of_lt small]
      · rw [valueOf_concat, ih (n / 10) (by omega), toNat_digit]
        omega

theorem valueOf_eq_ofDigits (text : Text) :
    valueOf text = Nat.ofDigits 10 (text.reverse.map fun c => c.toNat - '0'.toNat) := by
  induction text using List.reverseRecOn with
  | nil => rfl
  | append_singleton front last ih =>
      have zero : '0'.toNat = 48 := rfl
      rw [valueOf_concat, ih, List.reverse_append, List.reverse_singleton, List.singleton_append,
        List.map_cons, Nat.ofDigits_cons, zero]
      exact Nat.add_comm _ _

theorem unsigned_cases (text : Text) : ∃ sign ∈ [[], ['+']], text = sign ++ unsigned text := by
  unfold unsigned
  split
  · exact ⟨['+'], by decide, rfl⟩
  · exact ⟨[], by decide, rfl⟩

theorem unsigned_eq (unsignedStart : text.head? ≠ some '+') : unsigned text = text := by
  unfold unsigned
  split
  · simp at unsignedStart
  · rfl

theorem natural?_digits (small : n < bound) : natural? bound (digits n) = some n := by
  have noSign : (digits n).head? ≠ some '+' := fun start =>
    not_mem_digits (by decide) (List.mem_of_head? start)
  have allDigits : (digits n).all isDigit = true :=
    List.all_eq_true.mpr fun _ => isDigit_of_mem_digits
  simp [natural?, unsigned_eq noSign, valueOf_digits, allDigits, small, digits_ne_nil n]

/-- A number is read below the bound from its digits, with or without a plus sign. -/
theorem natural?_eq_some_iff : natural? bound text = some n ↔ IsNumeral text n ∧ n < bound := by
  simp only [natural?, Option.ite_none_right_eq_some, Bool.and_eq_true, decide_eq_true_eq,
    Option.some.injEq, Bool.not_eq_true', List.isEmpty_eq_false_iff, List.all_eq_true]
  constructor
  · rintro ⟨⟨⟨nonempty, allDigits⟩, small⟩, rfl⟩
    refine ⟨?_, small⟩
    rcases unsigned_cases text with ⟨sign, listed, whole⟩
    exact ⟨sign, listed, unsigned text, nonempty, allDigits, whole, valueOf_eq_ofDigits _⟩
  · rintro ⟨⟨sign, listed, body, nonempty, allDigits, rfl, rfl⟩, small⟩
    have same : unsigned (sign ++ body) = body := by
      simp only [List.mem_cons, List.not_mem_nil, or_false] at listed
      rcases listed with rfl | rfl
      · apply unsigned_eq
        intro start
        exact absurd (allDigits '+' (List.mem_of_head? start)) (by decide)
      · rfl
    rw [same, valueOf_eq_ofDigits]
    exact ⟨⟨⟨nonempty, allDigits⟩, small⟩, rfl⟩

theorem lt_of_natural? (read : natural? bound text = some n) : n < bound := by
  simp only [natural?, Option.ite_none_right_eq_some, Bool.and_eq_true, decide_eq_true_eq,
    Option.some.injEq] at read
  rcases read with ⟨⟨_, small⟩, rfl⟩
  exact small

theorem trim_digits (n : Nat) : trim (digits n) = digits n :=
  trim_eq fun _ mem => isBlank_of_isDigit (isDigit_of_mem_digits mem)

end ProjectTags.Text
