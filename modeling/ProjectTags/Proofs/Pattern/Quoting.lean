import Mathlib.Data.List.Chain
import ProjectTags.Proofs.Pattern.Rules

/-!
# Quoted text

Plain text is searched for by putting a backslash in front of each of its metacharacters. The rules
for quantifiers, groups and classes leave such a pattern alone, for all question marks and opening
brackets in it stand behind backslashes, before and after the other rules. The rules for escapes take
any backslash for the beginning of an escape, also one that a backslash in front has made plain.
-/

namespace ProjectTags.Pattern

open Substitution

/-- The characters that are plain in a search pattern only behind a backslash. -/
def metacharacters : Text :=
  ['\\', '^', '$', '.', '|', '?', '*', '+', '(', ')', '[', ']', '{', '}']

def quotedChar (c : Char) : Text :=
  if c ∈ metacharacters then ['\\', c] else [c]

/-- The pattern that finds a text as it stands. -/
def quoted (text : Text) : Text :=
  text.flatMap quotedChar

/-- Whether a backslash of the text and what is behind it look like an escape. -/
def looksEscaped (text : Text) : Bool :=
  text.tails.any opensEscape

variable {text rest old new other : Text} {c previous sign : Char}

theorem quoted_cons (c : Char) (rest : Text) : quoted (c :: rest) = quotedChar c ++ quoted rest :=
  List.flatMap_cons

theorem quoted_cons_of_mem (listed : c ∈ metacharacters) (rest : Text) :
    quoted (c :: rest) = '\\' :: c :: quoted rest := by
  simp [quoted_cons, quotedChar, listed]

theorem quoted_cons_of_not_mem (plain : c ∉ metacharacters) (rest : Text) :
    quoted (c :: rest) = c :: quoted rest := by
  simp [quoted_cons, quotedChar, plain]

theorem quoted_append (text other : Text) : quoted (text ++ other) = quoted text ++ quoted other :=
  List.flatMap_append

theorem mem_quotedChar (mem : c ∈ quotedChar sign) : c = '\\' ∨ c = sign := by
  by_cases listed : sign ∈ metacharacters
  · simpa [quotedChar, listed] using mem
  · right
    simpa [quotedChar, listed] using mem

theorem vimOperator_quoted (absent : ∀ c ∈ text, isVimOperator c = false) :
    vimOperator.everywhere (quoted text) = quoted text := by
  apply vimOperator_eq
  intro c mem
  rcases List.mem_flatMap.mp mem with ⟨d, inText, inside⟩
  rcases mem_quotedChar inside with rfl | rfl
  · rfl
  · exact absent c inText

/-! ## Guarded signs -/

/-- Behind a given character, all question marks and opening brackets of the text stand directly
behind backslashes. -/
def Guarded (previous : Char) (text : Text) : Prop :=
  (previous :: text).IsChain fun a b => b ∈ ['?', '['] → a = '\\'

namespace Guarded

theorem quoted (text : Text) (previous : Char) : Guarded previous (quoted text) := by
  have signs : ∀ sign ∈ ['?', '['], sign ∈ metacharacters := by decide
  induction text generalizing previous with
  | nil => exact List.isChain_singleton previous
  | cons c rest ih =>
      by_cases listed : c ∈ metacharacters
      · rw [quoted_cons_of_mem listed, Guarded, List.isChain_cons_cons, List.isChain_cons_cons]
        refine ⟨?_, fun _ => rfl, ih c⟩
        intro sign
        exact absurd sign (by decide)
      · rw [quoted_cons_of_not_mem listed, Guarded, List.isChain_cons_cons]
        exact ⟨fun sign => absurd (signs c sign) listed, ih c⟩

theorem apart (guarded : Guarded previous text) (isSign : sign ∈ ['?', '[']) (plain : c ≠ '\\') :
    ¬[c, sign] <:+: text := by
  intro inside
  have pair := List.IsChain.infix guarded (inside.trans (List.suffix_cons previous text).isInfix)
  simp only [List.isChain_cons_cons, List.isChain_singleton, and_true] at pair
  exact plain (pair isSign)

/-- Behind a character that is no backslash the text does not begin with a sign, so it can stand
behind any other. -/
theorem of_plain (guarded : Guarded previous text) (plain : previous ≠ '\\') (c : Char) :
    Guarded c text :=
  List.IsChain.imp_head (fun allowed isSign => absurd (allowed isSign) plain) guarded

theorem append_of_inert (inert : Inert other) (guarded : ∀ c, Guarded c text) (c : Char) :
    Guarded c (other ++ text) := by
  have signs : ∀ sign ∈ ['?', '['], sign ∈ ['\\', '?', '['] := by decide
  induction other generalizing c with
  | nil => exact guarded c
  | cons d more ih =>
      rw [Guarded, List.cons_append, List.isChain_cons_cons]
      refine ⟨?_, ih (fun e mem => inert e (List.mem_cons_of_mem _ mem)) d⟩
      intro isSign
      exact absurd (signs d isSign) (inert d (List.mem_cons_self ..))

/-- No escape ends in a backslash, so none takes away the guard of what is behind it. -/
theorem edited (edited : Text.Edited IsEscape old new) (guarded : Guarded previous old) :
    Guarded previous new := by
  induction edited generalizing previous with
  | nil => exact guarded
  | keep c _ ih =>
      rw [Guarded, List.isChain_cons_cons] at guarded ⊢
      exact ⟨guarded.1, ih guarded.2⟩
  | write escape _ ih =>
      rcases escape.ends with ⟨front, last, rfl, plain⟩
      rw [Guarded, List.append_assoc, List.singleton_append, List.isChain_cons_split] at guarded
      have behind := ih guarded.2
      exact append_of_inert escape.inert (fun c => behind.of_plain plain c) previous

theorem foldl_escapeRules {rules : List Substitution} (sub : rules ⊆ escapeRules)
    (guarded : Guarded previous text) :
    Guarded previous (rules.foldl (fun text rule => rule.everywhere text) text) := by
  induction rules generalizing text with
  | nil => exact guarded
  | cons rule others ih =>
      have edits := edits_of_escapeRule (sub (List.mem_cons_self ..))
      rw [List.foldl_cons]
      apply ih fun other mem => sub (List.mem_cons_of_mem _ mem)
      exact guarded.edited (edits.everywhere text)

end Guarded

/-! ## The rules that leave quoted text alone -/

theorem reluctantQuantifiers_quoted (text : Text) :
    reluctantQuantifiers (quoted text) = quoted text := by
  have plain : ∀ c ∈ ['*', '+', '?', '}'], c ≠ '\\' := by decide
  apply reluctantQuantifiers_eq
  intro c listed
  -- A quoted text is guarded behind any character.
  exact (Guarded.quoted text 'x').apart (by decide) (plain c listed)

theorem expandAll_of_guarded (guarded : Guarded previous text) :
    NamedClass.expandAll text = text := by
  apply expandAll_eq
  intro inside
  have pair : ['[', '['] <:+: text := List.IsInfix.trans ⟨[], [':'], rfl⟩ inside
  exact guarded.apart (by decide) (by decide) pair

/-- The rules for escapes are all that matters. -/
theorem toVim_quoted_eq (absent : ∀ c ∈ text, isVimOperator c = false) :
    toVim .regular (quoted text) =
      veryMagic ++ characterCodes (wordBoundary (anchors (quoted text))) := by
  have bounded : Guarded 'x' (wordBoundary (anchors (quoted text))) := by
    rw [wordBoundary_anchors]
    exact (Guarded.quoted text 'x').foldl_escapeRules boundaryRules_subset
  have coded : Guarded 'x' (characterCodes (wordBoundary (anchors (quoted text)))) := by
    rw [characterCodes_eq_foldl]
    exact bounded.foldl_escapeRules codeRules_subset
  have noGroup : ¬['(', '?'] <:+: wordBoundary (anchors (quoted text)) :=
    bounded.apart (by decide) (by decide)
  rw [toVim_regular, vimOperator_quoted absent, reluctantQuantifiers_quoted,
    groups_eq noGroup, expandAll_of_guarded coded]

/-! ## Escapes in quoted text -/

/-- A quoted text goes on with the same characters as long as they are plain. -/
theorem takeWhile_quoted {holds : Char → Bool} (stops : ∀ c ∈ metacharacters, holds c = false)
    (text : Text) : (quoted text).takeWhile holds = text.takeWhile holds := by
  induction text with
  | nil => rfl
  | cons c rest ih =>
      by_cases listed : c ∈ metacharacters
      · have slash := stops '\\' (by decide)
        simp [quoted_cons_of_mem listed, slash, stops c listed]
      · rw [quoted_cons_of_not_mem listed, List.takeWhile_cons, List.takeWhile_cons, ih]

theorem head?_quoted (text : Text) : (quoted text).head? ≠ some '{' := by
  cases text with
  | nil => simp [quoted]
  | cons c rest =>
      by_cases listed : c ∈ metacharacters
      · simp [quoted_cons_of_mem listed]
      · rw [quoted_cons_of_not_mem listed]
        intro same
        obtain rfl : c = '{' := by simpa using same
        exact listed (by decide)

theorem opensEscape_quoted (letter : Char) (more : Text) :
    opensEscape ('\\' :: letter :: quoted more) = opensEscape ('\\' :: letter :: more) := by
  have digits : ∀ c ∈ metacharacters, isHexDigit c = false := by decide
  simp only [opensEscape, takeWhile_quoted digits]

theorem exists_of_quoted_eq_cons (plain : c ∉ metacharacters) (same : quoted text = c :: rest) :
    ∃ more, text = c :: more ∧ quoted more = rest := by
  cases text with
  | nil => simp [quoted] at same
  | cons d more =>
      by_cases listed : d ∈ metacharacters
      · rw [quoted_cons_of_mem listed] at same
        obtain ⟨rfl, _⟩ := List.cons.inj same
        exact absurd (by decide) plain
      · rw [quoted_cons_of_not_mem listed] at same
        obtain ⟨rfl, behind⟩ := List.cons.inj same
        exact ⟨more, rfl, behind⟩

/-- A plain character with a backslash in front stands so in the text itself. -/
theorem suffix_quoted_iff (plain : c ∉ metacharacters) :
    '\\' :: c :: rest <:+ quoted text ↔ ∃ more, '\\' :: c :: more <:+ text ∧ quoted more = rest := by
  have slash : '\\' ∈ metacharacters := by decide
  constructor
  · intro inside
    induction text with
    | nil => simp [quoted] at inside
    | cons d others ih =>
        have later : '\\' :: c :: rest <:+ quoted others →
            ∃ more, '\\' :: c :: more <:+ d :: others ∧ quoted more = rest := by
          intro within
          rcases ih within with ⟨more, suffix, same⟩
          exact ⟨more, suffix.trans (List.suffix_cons d others), same⟩
        by_cases listed : d ∈ metacharacters
        · rw [quoted_cons_of_mem listed] at inside
          rcases List.suffix_cons_iff.mp inside with whole | inside
          · obtain ⟨rfl, _⟩ := List.cons.inj (List.cons.inj whole).2
            exact absurd listed plain
          · rcases List.suffix_cons_iff.mp inside with whole | within
            · obtain ⟨rfl, behind⟩ := List.cons.inj whole
              rcases exists_of_quoted_eq_cons plain behind.symm with ⟨more, rfl, same⟩
              exact ⟨more, List.suffix_rfl, same⟩
            · exact later within
        · rw [quoted_cons_of_not_mem listed] at inside
          rcases List.suffix_cons_iff.mp inside with whole | within
          · obtain ⟨rfl, _⟩ := List.cons.inj whole
            exact absurd slash listed
          · exact later within
  · rintro ⟨more, ⟨before, rfl⟩, rfl⟩
    rw [quoted_append, quoted_cons_of_mem slash, quoted_cons_of_not_mem plain]
    exact (List.suffix_cons _ _).trans (List.suffix_append _ _)

theorem looksEscaped_iff :
    looksEscaped text = true ↔
      ∃ rule ∈ escapeRules, ∃ suffix, suffix <:+ quoted text ∧ rule.front suffix ≠ none := by
  have letters : ∀ letter ∈ escapeLetters, letter ∉ metacharacters := by decide
  simp only [looksEscaped, List.any_eq_true, List.mem_tails]
  constructor
  · rintro ⟨suffix, inside, opens⟩
    rcases exists_of_opensEscape opens with ⟨letter, listed, more, rfl⟩
    rw [← opensEscape_quoted, ← exists_applies_iff letter (head?_quoted more)] at opens
    rcases opens with ⟨rule, mem, applies⟩
    exact ⟨rule, mem, _, (suffix_quoted_iff (letters letter listed)).mpr ⟨more, inside, rfl⟩, applies⟩
  · rintro ⟨rule, mem, suffix, inside, applies⟩
    rcases Option.ne_none_iff_exists'.mp applies with ⟨found, front⟩
    rcases escape_prefix_of_applies mem front with ⟨sign, listed, tail, rfl⟩
    rcases List.mem_map.mp listed with ⟨letter, letterListed, rfl⟩
    rcases (suffix_quoted_iff (letters letter letterListed)).mp inside with ⟨more, within, rfl⟩
    refine ⟨'\\' :: letter :: more, within, ?_⟩
    rw [← opensEscape_quoted, ← exists_applies_iff letter (head?_quoted more)]
    exact ⟨rule, mem, applies⟩

/-- No rule but those for escapes does anything to a quoted text. They do not just if nothing in the
text looks like an escape. -/
theorem toVim_quoted (absent : ∀ c ∈ text, isVimOperator c = false) :
    toVim .regular (quoted text) =
        veryMagic ++ characterCodes (wordBoundary (anchors (quoted text))) ∧
      (toVim .regular (quoted text) = veryMagic ++ quoted text ↔ looksEscaped text = false) := by
  have whole := toVim_quoted_eq absent
  have passes : characterCodes (wordBoundary (anchors (quoted text))) =
      escapeRules.foldl (fun text rule => rule.everywhere text) (quoted text) := by
    rw [escapeRules, List.foldl_append, ← wordBoundary_anchors, ← characterCodes_eq_foldl]
  refine ⟨whole, ?_⟩
  rw [whole, List.append_cancel_left_eq, passes,
    foldl_everywhere_eq_iff fun _ mem => loses_of_escapeRule mem, ← Bool.not_eq_true,
    looksEscaped_iff]
  push Not
  rfl

/-- A text with metacharacters and a backslash that is none of an escape: `\d[0]?`. -/
theorem toVim_quoted_digit :
    (∀ c ∈ "\\d[0]?".toList, isVimOperator c = false) ∧
      toVim .regular (quoted "\\d[0]?".toList) = veryMagic ++ quoted "\\d[0]?".toList := by
  have absent : ∀ c ∈ "\\d[0]?".toList, isVimOperator c = false := by decide
  exact ⟨absent, (toVim_quoted absent).2.mpr (by decide)⟩

/-- The second one of two backslashes is taken for an anchor. -/
theorem toVim_quoted_anchor :
    quoted "\\A".toList = "\\\\A".toList ∧
      toVim .regular (quoted "\\A".toList) = veryMagic ++ "\\^".toList := by
  have absent : ∀ c ∈ "\\A".toList, isVimOperator c = false := by decide
  constructor
  · rfl
  · rw [toVim_quoted_eq absent]
    rfl

end ProjectTags.Pattern
