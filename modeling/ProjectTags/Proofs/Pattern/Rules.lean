import Mathlib.Data.List.Chain
import ProjectTags.Pattern.Vim
import ProjectTags.Proofs.Pattern.Enclosure
import ProjectTags.Proofs.Pattern.Escapes

/-!
# Which patterns a rule leaves alone

A pattern is carried over to Vim by one rule after the other, so what one rule does is seen only if
all others leave the pattern alone. Each of them needs certain characters or texts to be there.
-/

namespace ProjectTags

namespace Text

variable {signs text other : Text} {c : Char}

/-- The characters that mean something in a pattern, of the search tool or of Vim. -/
def patternSigns : Text :=
  ['%', '@', '&', '\\', '*', '+', '?', '\x7b', '\x7d', ',', '-', '(', ')', '[', ']', '|', ':', '<',
    '>', '=', '!', '#', '\n']

theorem isWordChar_eq_false (c : Char) (sign : c ∈ patternSigns) : isWordChar c = false := by
  have all : patternSigns.all (fun c => !isWordChar c) = true := by decide +kernel
  simpa using List.all_eq_true.mp all c sign

theorem isWordChar_a : isWordChar 'a' = true := by
  decide +kernel

theorem isWordChar_b : isWordChar 'b' = true := by
  decide +kernel

theorem isWordChar_c : isWordChar 'c' = true := by
  decide +kernel

/-- A text of word characters and some signs. -/
def Over (signs text : Text) : Prop :=
  ∀ c ∈ text, isWordChar c = true ∨ c ∈ signs

theorem Over.append (chars : Over signs text) (otherOver : Over signs other) :
    Over signs (text ++ other) := by
  intro c mem
  rcases List.mem_append.mp mem with mem | mem
  · exact chars c mem
  · exact otherOver c mem

theorem Over.mono (chars : Over signs text) (more : Text) (within : signs ⊆ more) :
    Over more text :=
  fun c mem => (chars c mem).imp_right (within ·)

theorem over_of_subset (within : text ⊆ signs) : Over signs text :=
  fun _ mem => Or.inr (within mem)

theorem over_wordChar (word : isWordChar c = true) : Over signs [c] := by
  intro d mem
  rw [List.mem_singleton.mp mem]
  exact Or.inl word

theorem over_flatMap {α : Type} {items : List α} {written : α → Text}
    (each : ∀ item ∈ items, Over signs (written item)) : Over signs (items.flatMap written) := by
  intro c mem
  rcases List.mem_flatMap.mp mem with ⟨item, itemMem, inside⟩
  exact each item itemMem c inside

theorem Over.not_mem (chars : Over signs text) (sign : c ∈ patternSigns) (missing : c ∉ signs) :
    c ∉ text := by
  intro mem
  rcases chars c mem with word | listed
  · simp [isWordChar_eq_false c sign] at word
  · exact missing listed

theorem not_mem_wordChar (word : isWordChar c = true) (sign : Char) (isSign : sign ∈ patternSigns) :
    sign ∉ [c] :=
  (over_wordChar word).not_mem isSign List.not_mem_nil

theorem not_infix {signs : Text} (mem : c ∈ signs) (absent : c ∉ text) : ¬signs <:+: text :=
  fun inside => absent (inside.subset mem)

theorem takeWhile_of_stop {holds : Char → Bool} (inside : ∀ d ∈ text, holds d = true)
    (stops : holds c = false) (rest : Text) : (text ++ c :: rest).takeWhile holds = text := by
  rw [List.takeWhile_append_of_pos inside]
  simp [stops]

/-- A text in which a sign is never the last character and only some characters come behind it. -/
def Follows (sign : Char) (next text : Text) : Prop :=
  text.IsChain (fun a b => a = sign → b ∈ next) ∧ text.getLast? ≠ some sign

theorem follows_of_not_mem {sign : Char} {next : Text} (absent : sign ∉ text) :
    Follows sign next text := by
  constructor
  · apply (List.pairwise_of_forall_mem_list ?_).isChain
    rintro a mem b _ rfl
    exact absurd mem absent
  · intro last
    exact absent (List.mem_of_getLast? last)

theorem Follows.append {sign : Char} {next : Text} (follows : Follows sign next text)
    (otherFollows : Follows sign next other) : Follows sign next (text ++ other) := by
  constructor
  · apply List.isChain_append.mpr
    refine ⟨follows.1, otherFollows.1, ?_⟩
    intro a last b _ same
    subst same
    exact absurd last follows.2
  · rw [List.getLast?_append]
    intro last
    rcases Option.or_eq_some_iff.mp last with last | ⟨_, last⟩
    · exact otherFollows.2 last
    · exact follows.2 last

theorem follows_flatMap {α : Type} {items : List α} {written : α → Text} {sign : Char}
    {next : Text} (each : ∀ item ∈ items, Follows sign next (written item)) :
    Follows sign next (items.flatMap written) := by
  induction items with
  | nil => exact follows_of_not_mem List.not_mem_nil
  | cons item others ih =>
      have first := each item (List.mem_cons_self ..)
      exact first.append (ih fun other mem => each other (List.mem_cons_of_mem _ mem))

theorem Follows.apart {sign : Char} {next : Text} (follows : Follows sign next text)
    (missing : c ∉ next) : ¬[sign, c] <:+: text := by
  intro inside
  have pair := List.IsChain.infix follows.1 inside
  exact missing (by simpa using pair)

end Text

namespace Pattern

open Substitution

variable {text pattern : Text} {c : Char}

/-! ## What the rules need -/

theorem isVimOperator_iff : isVimOperator c = true ↔ c ∈ ['%', '@', '&'] := by
  simp [isVimOperator, or_assoc]

theorem vimOperator_eq (absent : ∀ c ∈ text, isVimOperator c = false) :
    vimOperator.everywhere text = text := by
  apply everywhere_of_misses
  intro suffix inside
  cases suffix with
  | nil => rfl
  | cons c rest => simp [vimOperator, absent c (inside.subset (List.mem_cons_self ..))]

theorem isVimOperator_of_isWordChar (word : Text.isWordChar c = true) : isVimOperator c = false := by
  have signs : ∀ sign ∈ ['%', '@', '&'], sign ∈ Text.patternSigns := by decide
  rw [← Bool.not_eq_true]
  intro operator
  have isSign := signs c (isVimOperator_iff.mp operator)
  simp [Text.isWordChar_eq_false c isSign] at word

theorem vimOperator_eq_of_over {signs : Text} (chars : Text.Over signs text)
    (plain : ∀ c ∈ signs, isVimOperator c = false) : vimOperator.everywhere text = text := by
  apply vimOperator_eq
  intro c mem
  rcases chars c mem with word | listed
  · exact isVimOperator_of_isWordChar word
  · exact plain c listed

theorem needs_bareGroup : bareGroup.Needs ['(', '?', ':'] :=
  Enclosure.needs_substitution _ _ _

theorem needs_namedGroup : namedGroup.Needs ['(', '?'] := by
  intro text found applies
  unfold namedGroup at applies
  simp only at applies
  split at applies
  · simp
  · simp
  · cases applies

theorem unescaped_possessiveQuantifier
    (apart : ∀ c ∈ ['*', '+', '?', '}'], ¬[c, '+'] <:+: text) :
    possessiveQuantifier.unescaped text = text := by
  apply unescapedAfter_of_misses
  intro suffix inside
  unfold possessiveQuantifier
  simp only
  split
  · next c rest =>
      rw [if_neg]
      intro listed
      have start : [c, '+'] <:+: text := List.IsInfix.trans ⟨[], rest, rfl⟩ inside.isInfix
      exact apart c (by simpa [or_assoc] using listed) start
  · rfl

theorem replaceAll_of_absent {first : Char} {others new : Text}
    (absent : ¬first :: others <:+: text) : Text.replaceAll first others new text = text :=
  (needs_literal first others new).everywhere_of_absent absent

/-! ## Patterns that a rule leaves alone -/

theorem reluctantQuantifiers_eq (apart : ∀ c ∈ ['*', '+', '?', '}'], ¬[c, '?'] <:+: text) :
    reluctantQuantifiers text = text := by
  have star : reluctantStar.unescaped text = text :=
    (needs_literal _ _ _).unescaped_of_absent (apart '*' (by decide))
  have plus : reluctantPlus.unescaped text = text :=
    (needs_literal _ _ _).unescaped_of_absent (apart '+' (by decide))
  have option : reluctantOption.unescaped text = text :=
    (needs_literal _ _ _).unescaped_of_absent (apart '?' (by decide))
  have bounds : reluctantBounds.unescaped text = text := by
    apply unescapedAfter_of_misses
    intro suffix inside
    apply Enclosure.front_of_no_close
    exact fun closed => apart '}' (by decide) (closed.trans inside.isInfix)
  rw [reluctantQuantifiers, star, plus, option, bounds]

theorem reluctantQuantifiers_eq_of_over {signs : Text} (chars : Text.Over signs text)
    (missing : ∀ c ∈ ['*', '+', '}'], c ∉ signs) (apart : ¬['?', '?'] <:+: text) :
    reluctantQuantifiers text = text := by
  have known : ∀ c ∈ ['*', '+', '}'], c ∈ Text.patternSigns := by decide
  apply reluctantQuantifiers_eq
  intro c listed
  by_cases mark : c = '?'
  · rw [mark]
    exact apart
  · have other : c ∈ ['*', '+', '}'] := by simpa [mark] using listed
    have absent := chars.not_mem (known c other) (missing c other)
    exact Text.not_infix (List.mem_cons_self ..) absent

theorem caseSwitches_eq (noOff : ¬['(', '?', 'i', ')'] <:+: text)
    (noOn : ¬['(', '?', '-', 'i', ')'] <:+: text) : caseSwitches text = text := by
  rw [caseSwitches, replaceAll_of_absent noOff, replaceAll_of_absent noOn]

theorem expandAll_eq (absent : ¬['[', '[', ':'] <:+: text) : NamedClass.expandAll text = text := by
  have kept : ∀ classes : List NamedClass,
      classes.foldl (fun text named => named.expand text) text = text := by
    intro classes
    induction classes with
    | nil => rfl
    | cons named others ih =>
        have same : named.expand text = text := by
          apply replaceAll_of_absent
          intro inside
          have start : ['[', '[', ':'] <+: '[' :: named.written :=
            ⟨named.name ++ [':', ']', ']'], by simp [NamedClass.written]⟩
          exact absent (start.isInfix.trans inside)
        rw [List.foldl_cons, same, ih]
  exact kept _

theorem groups_eq (noGroup : ¬['(', '?'] <:+: text) :
    bareGroup.everywhere (namedGroup.everywhere (caseSwitches text)) = text := by
  have absent : ∀ others : Text, ¬('(' :: '?' :: others <:+: text) := by
    intro others inside
    exact noGroup (List.IsInfix.trans ⟨[], others, rfl⟩ inside)
  rw [caseSwitches_eq (absent _) (absent _), needs_namedGroup.everywhere_of_absent noGroup,
    needs_bareGroup.everywhere_of_absent (absent _)]

/-- The rules behind those for quantifiers and assertions leave a text without escapes, groups and
classes alone. -/
theorem laterRules_eq (free : Text.Free escapes text) (noGroup : ¬['(', '?'] <:+: text)
    (noClass : ¬['[', '[', ':'] <:+: text) :
    NamedClass.expandAll (characterCodes (bareGroup.everywhere (namedGroup.everywhere
      (caseSwitches (wordBoundary (anchors text)))))) = text := by
  rw [wordBoundary_anchors_eq free, groups_eq noGroup, characterCodes_eq free,
    expandAll_eq noClass]

/-- Where no backslash has the letter of an escape behind it, no escape begins. -/
theorem free_escapes_of_follows {next : Text} (follows : Text.Follows '\\' next text)
    (missing : ∀ letter ∈ escapeLetters, letter ∉ next) : Text.Free escapes text := by
  intro escape mem
  rcases List.mem_map.mp mem with ⟨letter, listed, rfl⟩
  exact follows.apart (missing letter listed)

/-- The rules behind that for operators leave a text of few signs alone. -/
theorem rulesBehindOperators_eq {signs : Text} (chars : Text.Over signs text)
    (missing : ∀ c ∈ ['*', '+', '?', '}', '['], c ∉ signs) (free : Text.Free escapes text) :
    NamedClass.expandAll (characterCodes (bareGroup.everywhere (namedGroup.everywhere
      (caseSwitches (wordBoundary (anchors (reluctantQuantifiers text))))))) = text := by
  have noMark : '?' ∉ text := chars.not_mem (by decide) (missing '?' (by decide))
  have noBracket : '[' ∉ text := chars.not_mem (by decide) (missing '[' (by decide))
  have quantifiers : reluctantQuantifiers text = text := by
    have known : ∀ c ∈ ['*', '+', '}'], c ∈ ['*', '+', '?', '}', '['] := by decide
    exact reluctantQuantifiers_eq_of_over chars (fun c listed => missing c (known c listed))
      (Text.not_infix (by simp) noMark)
  rw [quantifiers, laterRules_eq free (Text.not_infix (by simp) noMark)
    (Text.not_infix (by simp) noBracket)]

/-! ## The rules in order -/

theorem toVim_regular (pattern : Text) :
    toVim .regular pattern =
      veryMagic ++ NamedClass.expandAll (characterCodes (bareGroup.everywhere
        (namedGroup.everywhere (caseSwitches (wordBoundary (anchors
          (reluctantQuantifiers (vimOperator.everywhere pattern)))))))) := by
  simp only [toVim, Rule.applyAll, Rule.active, Rule.all, Rule.isExtendedOnly, Rule.apply,
    List.filter, List.foldl, Bool.or_self, Bool.not_false, Bool.not_true, Bool.or_true]

theorem toVim_extended (pattern : Text) :
    toVim .extended pattern =
      veryMagic ++ NamedClass.expandAll (characterCodes (bareGroup.everywhere
        (namedGroup.everywhere (caseSwitches (wordBoundary (anchors (extendedConstructs
          (reluctantQuantifiers (vimOperator.everywhere pattern))))))))) := by
  simp only [toVim, Rule.applyAll, Rule.active, Rule.all, Rule.isExtendedOnly, Rule.apply,
    List.filter, List.foldl, Bool.true_or]

end Pattern

end ProjectTags
