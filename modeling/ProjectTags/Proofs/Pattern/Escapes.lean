import Mathlib.Data.List.TakeWhile
import ProjectTags.Pattern.Escape
import ProjectTags.Proofs.Text.Edits

/-!
# Escapes

The rules on anchors, word boundaries and character codes each look for a backslash with a certain
letter behind it. They read a backslash together with what is behind it wherever it stands, and leave
a text alone that has no such pair.
-/

namespace ProjectTags.Pattern

open Substitution

/-- The letters that mean something behind a backslash. -/
def escapeLetters : Text :=
  ['A', 'z', 'B', 'b', 'a', 'f', 'v', 'x', 'u', 'U']

/-- The beginnings of the escapes. -/
def escapes : List Text :=
  escapeLetters.map fun letter => ['\\', letter]

/-- A text in which nothing is the beginning of an escape or tells a group or a class. -/
def Inert (text : Text) : Prop :=
  ∀ c ∈ text, c ∉ ['\\', '?', '[']

instance (text : Text) : Decidable (Inert text) :=
  inferInstanceAs (Decidable (∀ c ∈ text, c ∉ ['\\', '?', '[']))

/-- An escape, and what it can become. -/
structure IsEscape (part other : Text) : Prop where
  opens : ∃ letter ∈ escapeLetters, ∃ more, part = '\\' :: letter :: more ∧ Inert more
  inert : Inert other

/-- The escapes that are a letter, with what each becomes. -/
def letterEscapes : List (Char × Text) :=
  [('A', ['^']), ('z', ['$']), ('B', []), ('b', ['(', '<', '|', '>', ')']),
    ('a', ['%', 'x', '0', '7']), ('f', ['%', 'x', '0', 'C']), ('v', ['%', 'x', '0', 'B'])]

def letterRule (entry : Char × Text) : Substitution :=
  .literal '\\' [entry.1] entry.2

/-- The rules for anchors and word boundaries, in order. -/
def boundaryRules : List Substitution :=
  (letterEscapes.take 4).map letterRule

/-- The rules for characters by letter and by code, in order. -/
def codeRules : List Substitution :=
  (letterEscapes.drop 4).map letterRule ++ [bracedCode, byteCode, unicodeLetter]

def escapeRules : List Substitution :=
  boundaryRules ++ codeRules

variable {rule : Substitution} {text rest new : Text} {c : Char} {extra : Nat}

theorem wordBoundary_anchors (text : Text) :
    wordBoundary (anchors text) = boundaryRules.foldl (fun text rule => rule.everywhere text) text :=
  rfl

theorem characterCodes_eq_foldl (text : Text) :
    characterCodes text = codeRules.foldl (fun text rule => rule.everywhere text) text :=
  rfl

theorem boundaryRules_subset : boundaryRules ⊆ escapeRules :=
  List.subset_append_left _ _

theorem codeRules_subset : codeRules ⊆ escapeRules :=
  List.subset_append_right _ _

theorem mem_escapeRules :
    rule ∈ escapeRules ↔
      (∃ entry ∈ letterEscapes, letterRule entry = rule) ∨
        rule = bracedCode ∨ rule = byteCode ∨ rule = unicodeLetter := by
  have whole : escapeRules =
      letterEscapes.map letterRule ++ [bracedCode, byteCode, unicodeLetter] := rfl
  rw [whole]
  simp

/-! ## Where a rule applies -/

theorem Inert.append {other : Text} (inert : Inert text) (otherInert : Inert other) :
    Inert (text ++ other) := by
  intro c mem
  rcases List.mem_append.mp mem with mem | mem
  · exact inert c mem
  · exact otherInert c mem

theorem inert_of_isHexDigit (digits : ∀ c ∈ text, isHexDigit c = true) : Inert text := by
  have signs : ∀ sign ∈ ['\\', '?', '['], isHexDigit sign = false := by decide
  intro c mem listed
  have digit := digits c mem
  simp [signs c listed] at digit

theorem isEscape_of_letterRule {entry : Char × Text} (listed : entry ∈ letterEscapes)
    (applies : (letterRule entry).front (c :: rest) = some (new, extra)) :
    IsEscape (c :: rest.take extra) new := by
  have known : ∀ entry ∈ letterEscapes, entry.1 ∈ escapeLetters ∧ Inert entry.2 := by decide
  rcases known entry listed with ⟨letter, inert⟩
  simp only [letterRule, literal, Option.ite_none_right_eq_some, Bool.and_eq_true,
    decide_eq_true_eq, List.isPrefixOf_iff_prefix, Option.some.injEq, Prod.mk.injEq] at applies
  rcases applies with ⟨⟨rfl, ⟨behind, rfl⟩⟩, rfl, rfl⟩
  exact ⟨⟨entry.1, letter, [], by simp, inert_of_isHexDigit (by simp)⟩, inert⟩

theorem isEscape_of_bracedCode (applies : bracedCode.front (c :: rest) = some (new, extra)) :
    IsEscape (c :: rest.take extra) new := by
  unfold bracedCode at applies
  simp only at applies
  split at applies
  · next letter inner same =>
      split at applies
      · next behind closed =>
          simp only [Option.ite_none_right_eq_some, Bool.and_eq_true, Bool.or_eq_true,
            decide_eq_true_eq, Option.some.injEq, Prod.mk.injEq] at applies
          rcases applies with ⟨⟨⟨known, _⟩, _⟩, rfl, rfl⟩
          rcases List.cons.inj same with ⟨rfl, rfl⟩
          have digits : Inert (inner.takeWhile isHexDigit) :=
            inert_of_isHexDigit fun d mem => List.mem_takeWhile_imp mem
          rcases List.takeWhile_prefix isHexDigit with ⟨tail, whole⟩
          generalize inner.takeWhile isHexDigit = code at whole closed digits
          subst whole
          obtain rfl : tail = '}' :: behind := by simpa using closed
          have taken : (letter :: '{' :: (code ++ '}' :: behind)).take (code.length + 3) =
              letter :: '{' :: (code ++ ['}']) := by
            simp [List.take_append]
          have opened : Inert ['{'] := by decide
          have ended : Inert ['}'] := by decide
          have start : Inert ['%', 'U'] := by decide
          refine ⟨⟨letter, ?_, '{' :: (code ++ ['}']), by rw [taken], ?_⟩, start.append digits⟩
          · rcases known with (rfl | rfl) | rfl <;> decide
          · exact opened.append (digits.append ended)
      · cases applies
  · cases applies

theorem isEscape_of_byteCode (applies : byteCode.front (c :: rest) = some (new, extra)) :
    IsEscape (c :: rest.take extra) new := by
  unfold byteCode at applies
  simp only at applies
  split at applies
  · next high low _ same =>
      simp only [Option.ite_none_right_eq_some, Bool.and_eq_true, Option.some.injEq,
        Prod.mk.injEq] at applies
      rcases applies with ⟨⟨highDigit, lowDigit⟩, rfl, rfl⟩
      rcases List.cons.inj same with ⟨rfl, rfl⟩
      have digits : Inert [high, low] := inert_of_isHexDigit (by simp [highDigit, lowDigit])
      have start : Inert ['%', 'x'] := by decide
      exact ⟨⟨'x', by decide, [high, low], rfl, digits⟩, start.append digits⟩
  · cases applies

theorem isEscape_of_unicodeLetter (applies : unicodeLetter.front (c :: rest) = some (new, extra)) :
    IsEscape (c :: rest.take extra) new := by
  unfold unicodeLetter at applies
  simp only at applies
  split at applies
  · next letter _ same =>
      simp only [Option.ite_none_right_eq_some, Bool.or_eq_true, decide_eq_true_eq,
        Option.some.injEq, Prod.mk.injEq] at applies
      rcases applies with ⟨known, rfl, rfl⟩
      rcases List.cons.inj same with ⟨rfl, rfl⟩
      rcases known with rfl | rfl
      · exact ⟨⟨'u', by decide, [], rfl, by decide⟩, by decide⟩
      · exact ⟨⟨'U', by decide, [], rfl, by decide⟩, by decide⟩
  · cases applies

/-- All that the rules for escapes have in common. -/
theorem isEscape_of_applies (mem : rule ∈ escapeRules)
    (applies : rule.front (c :: rest) = some (new, extra)) :
    IsEscape (c :: rest.take extra) new := by
  rcases mem_escapeRules.mp mem with ⟨entry, listed, rfl⟩ | rfl | rfl | rfl
  · exact isEscape_of_letterRule listed applies
  · exact isEscape_of_bracedCode applies
  · exact isEscape_of_byteCode applies
  · exact isEscape_of_unicodeLetter applies

theorem edits_of_escapeRule (mem : rule ∈ escapeRules) : rule.Edits IsEscape :=
  fun _ _ _ _ applies => .of_edit (isEscape_of_applies mem applies)

theorem front_nil_of_escapeRule (mem : rule ∈ escapeRules) : rule.front [] = none := by
  rcases mem_escapeRules.mp mem with ⟨entry, _, rfl⟩ | rfl | rfl | rfl <;> rfl

/-- A rule for escapes applies only where an escape begins. -/
theorem escape_prefix_of_applies (mem : rule ∈ escapeRules) {found : Text × Nat}
    (applies : rule.front text = some found) : ∃ sign ∈ escapes, sign <+: text := by
  cases text with
  | nil => simp [front_nil_of_escapeRule mem] at applies
  | cons c rest =>
      rcases (isEscape_of_applies mem applies).opens with ⟨letter, listed, more, part, _⟩
      refine ⟨['\\', letter], List.mem_map_of_mem listed, ?_⟩
      have within : c :: rest.take found.2 <+: c :: rest :=
        List.cons_prefix_cons.mpr ⟨rfl, List.take_prefix found.2 rest⟩
      rw [part] at within
      exact List.IsPrefix.trans ⟨more, rfl⟩ within

theorem IsEscape.count_lt {part other : Text} (escape : IsEscape part other) :
    other.count '\\' < part.count '\\' := by
  rcases escape.opens with ⟨letter, _, more, rfl, _⟩
  have none : other.count '\\' = 0 :=
    List.count_eq_zero.mpr fun mem => escape.inert _ mem (by decide)
  rw [none, List.count_cons_self]
  omega

theorem IsEscape.ends {part other : Text} (escape : IsEscape part other) :
    ∃ front last, part = front ++ [last] ∧ last ≠ '\\' := by
  have letters : ∀ letter ∈ escapeLetters, letter ≠ '\\' := by decide
  rcases escape.opens with ⟨letter, listed, more, rfl, inert⟩
  have nonempty : letter :: more ≠ [] := List.cons_ne_nil _ _
  refine ⟨'\\' :: (letter :: more).dropLast, (letter :: more).getLast nonempty, ?_, ?_⟩
  · rw [List.cons_append, List.dropLast_append_getLast]
  · rcases List.mem_cons.mp (List.getLast_mem nonempty) with same | mem
    · rw [same]
      exact letters letter listed
    · intro slash
      exact inert _ (slash ▸ mem) (by decide)

theorem loses_of_escapeRule (mem : rule ∈ escapeRules) : rule.Loses '\\' := by
  intro text new extra applies
  cases text with
  | nil => simp [front_nil_of_escapeRule mem] at applies
  | cons c rest =>
      rw [List.take_succ_cons]
      exact (isEscape_of_applies mem applies).count_lt

/-! ## Where an escape begins -/

/-- Whether a text begins with an escape that has no braces. -/
def opensEscape : Text → Bool
  | '\\' :: letter :: rest =>
      letter ∈ escapeLetters && (letter ≠ 'x' || 2 ≤ (rest.takeWhile isHexDigit).length)
  | _ => false

theorem exists_of_opensEscape (opens : opensEscape text = true) :
    ∃ letter ∈ escapeLetters, ∃ more, text = '\\' :: letter :: more := by
  unfold opensEscape at opens
  split at opens
  · next letter rest =>
      simp only [Bool.and_eq_true, decide_eq_true_eq] at opens
      exact ⟨letter, opens.1, rest, rfl⟩
  · cases opens

theorem front_letterRule_iff (entry : Char × Text) (letter : Char) (rest : Text) :
    (letterRule entry).front ('\\' :: letter :: rest) ≠ none ↔ letter = entry.1 := by
  rw [letterRule, Option.ne_none_iff_isSome]
  simp [literal, eq_comm (a := letter)]

theorem front_byteCode_iff (letter : Char) (rest : Text) :
    byteCode.front ('\\' :: letter :: rest) ≠ none ↔
      letter = 'x' ∧ 2 ≤ (rest.takeWhile isHexDigit).length := by
  by_cases byte : letter = 'x'
  · subst byte
    rcases rest with _ | ⟨high, _ | ⟨low, behind⟩⟩
    · simp [byteCode]
    · by_cases first : isHexDigit high = true <;> simp [byteCode, first]
    · by_cases first : isHexDigit high = true <;> by_cases second : isHexDigit low = true <;>
        simp [byteCode, first, second]
  · simp [byteCode, byte]

theorem front_unicodeLetter_iff (letter : Char) (rest : Text) :
    unicodeLetter.front ('\\' :: letter :: rest) ≠ none ↔ letter = 'u' ∨ letter = 'U' := by
  simp [unicodeLetter, or_iff_not_imp_left]

theorem front_bracedCode_eq_none (letter : Char) (noBraces : rest.head? ≠ some '{') :
    bracedCode.front ('\\' :: letter :: rest) = none := by
  cases rest with
  | nil => rfl
  | cons c behind =>
      have apart : c ≠ '{' := by simpa using noBraces
      simp [bracedCode, apart]

theorem exists_applies_iff (letter : Char) (noBraces : rest.head? ≠ some '{') :
    (∃ rule ∈ escapeRules, rule.front ('\\' :: letter :: rest) ≠ none) ↔
      opensEscape ('\\' :: letter :: rest) = true := by
  simp only [opensEscape, Bool.and_eq_true, Bool.or_eq_true, decide_eq_true_eq]
  constructor
  · rintro ⟨rule, mem, applies⟩
    rcases mem_escapeRules.mp mem with ⟨entry, listed, rfl⟩ | rfl | rfl | rfl
    · have known : ∀ entry ∈ letterEscapes, entry.1 ∈ escapeLetters ∧ entry.1 ≠ 'x' := by decide
      rw [(front_letterRule_iff entry letter rest).mp applies]
      exact (known entry listed).imp_right Or.inl
    · exact absurd (front_bracedCode_eq_none letter noBraces) applies
    · rcases (front_byteCode_iff letter rest).mp applies with ⟨rfl, digits⟩
      exact ⟨by decide, Or.inr digits⟩
    · rcases (front_unicodeLetter_iff letter rest).mp applies with rfl | rfl
      · exact ⟨by decide, Or.inl (by decide)⟩
      · exact ⟨by decide, Or.inl (by decide)⟩
  · have kinds : ∀ letter ∈ escapeLetters, (letter = 'x' ∨ letter = 'u' ∨ letter = 'U') ∨
        ∃ entry ∈ letterEscapes, letter = entry.1 := by decide
    rintro ⟨listed, code⟩
    rcases kinds letter listed with (byte | unicode) | ⟨entry, entryListed, same⟩
    · have digits := code.resolve_left (not_not_intro byte)
      exact ⟨byteCode, by simp [mem_escapeRules],
        (front_byteCode_iff letter rest).mpr ⟨byte, digits⟩⟩
    · exact ⟨unicodeLetter, by simp [mem_escapeRules],
        (front_unicodeLetter_iff letter rest).mpr unicode⟩
    · exact ⟨letterRule entry, mem_escapeRules.mpr (Or.inl ⟨entry, entryListed, rfl⟩),
        (front_letterRule_iff entry letter rest).mpr same⟩

/-! ## Texts without escapes -/

theorem foldl_escapeRules_eq {rules : List Substitution} (sub : rules ⊆ escapeRules)
    (free : Text.Free escapes text) :
    rules.foldl (fun text rule => rule.everywhere text) text = text := by
  apply foldl_everywhere_eq
  intro rule mem
  apply everywhere_of_misses
  intro suffix inside
  cases front : rule.front suffix with
  | none => rfl
  | some found =>
      rcases escape_prefix_of_applies (sub mem) front with ⟨sign, listed, start⟩
      exact absurd (start.isInfix.trans inside.isInfix) (free sign listed)

theorem wordBoundary_anchors_eq (free : Text.Free escapes text) :
    wordBoundary (anchors text) = text := by
  rw [wordBoundary_anchors]
  exact foldl_escapeRules_eq boundaryRules_subset free

theorem characterCodes_eq (free : Text.Free escapes text) : characterCodes text = text := by
  rw [characterCodes_eq_foldl]
  exact foldl_escapeRules_eq codeRules_subset free

theorem free_escapes (plain : '\\' ∉ text) : Text.Free escapes text := by
  intro sign listed inside
  rcases List.mem_map.mp listed with ⟨letter, _, rfl⟩
  exact plain (inside.subset (List.mem_cons_self ..))

end ProjectTags.Pattern
