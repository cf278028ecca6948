import ProjectTags.Pattern.Highlight
import ProjectTags.Proofs.Pattern.Rules

/-!
# Patterns that highlight

The pattern that highlights what a query found is made of the query's own pattern in three steps: a
pair of quotes around it is dropped, a switch for case is put in front, and the whole is carried
over to Vim. No rule applies inside of the switch or from the switch on into what is behind it, and
the switch does not end in a backslash. So it makes no difference whether it is put in front before
the rules or after them.

Last, outside of text search, every dot is written anew. That is right for a dot that stands for any
character, and wrong for one behind a backslash, where it turns a plain dot into a plain backslash.
-/

namespace ProjectTags.Pattern

open Substitution

/-! ## Quotes around a pattern -/

def quotes : Text := ['"', '\'']

/-- The quote that stands around a pattern, if there is one, and what is left without one pair. -/
inductive Wrapped : Text → Option Char → Text → Prop where
  | bare {pattern : Text}
      (unquoted : ∀ quote ∈ quotes, ∀ body, pattern ≠ quote :: (body ++ [quote])) :
      Wrapped pattern none pattern
  | quoted {quote : Char} (isQuote : quote ∈ quotes) (body : Text) :
      Wrapped (quote :: (body ++ [quote])) (some quote) body

variable {pattern body : Text} {quote : Option Char} {mark : Char}

theorem unquoted?_eq_some_iff : unquoted? mark pattern = some body ↔
    pattern = mark :: (body ++ [mark]) := by
  cases pattern with
  | nil => simp [unquoted?]
  | cons c rest =>
      simp only [unquoted?, Option.ite_none_right_eq_some, Bool.and_eq_true, decide_eq_true_eq,
        List.cons.injEq, Option.some.injEq]
      constructor
      · rintro ⟨⟨⟨same, _⟩, last⟩, rfl⟩
        rcases List.getLast?_eq_some_iff.mp last with ⟨start, rfl⟩
        exact ⟨same, by rw [List.dropLast_concat]⟩
      · rintro ⟨rfl, rfl⟩
        simp

theorem exists_wrapped (pattern : Text) : ∃ quote body, Wrapped pattern quote body := by
  by_cases quoted : ∃ mark ∈ quotes, ∃ body, pattern = mark :: (body ++ [mark])
  · rcases quoted with ⟨mark, isQuote, body, rfl⟩
    exact ⟨some mark, body, .quoted isQuote body⟩
  · push Not at quoted
    exact ⟨none, pattern, .bare quoted⟩

theorem Wrapped.unquoted?_eq (wrapped : Wrapped pattern quote body) (isQuote : mark ∈ quotes) :
    unquoted? mark pattern = if quote = some mark then some body else none := by
  cases wrapped with
  | bare unquoted =>
      cases found : unquoted? mark pattern with
      | none => rfl
      | some body =>
          exact absurd (unquoted?_eq_some_iff.mp found) (unquoted mark isQuote body)
  | @quoted other _ body =>
      by_cases same : other = mark
      · rw [if_pos (by rw [same]), same]
        exact unquoted?_eq_some_iff.mpr rfl
      · simp [unquoted?, same]

/-- What is made of a pattern, told from what is left of it without quotes. -/
theorem Wrapped.highlight_eq (wrapped : Wrapped pattern quote body) (options : HighlightOptions) :
    highlight options pattern =
      if options.literal then
        veryNomagic ++ caseSwitch options.ignoreCase ++
          (if quote = some '"' then escapeKeepingQuotes body else escapeLiteral body)
      else if options.textSearch then toVim .regular (caseSwitch options.ignoreCase ++ body)
      else
        Text.replaceChar '.' ['\\', 'w']
          (toVim .regular (caseSwitch options.ignoreCase ++ body)) := by
  have double : unquoted? '"' pattern = if quote = some '"' then some body else none :=
    wrapped.unquoted?_eq (by decide)
  have single : unquoted? '\'' pattern = if quote = some '\'' then some body else none :=
    wrapped.unquoted?_eq (by decide)
  have left : ((unquoted? '"' pattern).or (unquoted? '\'' pattern)).getD pattern = body := by
    rw [double, single]
    cases wrapped with
    | bare _ => rfl
    | quoted isQuote _ =>
        simp only [quotes, List.mem_cons, List.not_mem_nil, or_false] at isQuote
        rcases isQuote with rfl | rfl <;> rfl
  have isDouble : (unquoted? '"' pattern).isSome = true ↔ quote = some '"' := by
    rw [double]
    split <;> simp_all
  simp only [highlight, left, isDouble]

/-! ## The switch in front -/

/-- A step that leaves a beginning as it is and goes on behind it as if it were not there. -/
def Keeps (start : Text) (step : Text → Text) : Prop :=
  ∀ rest, step (start ++ rest) = start ++ step rest

namespace Keeps

variable {start : Text}

theorem comp {step later : Text → Text} (laterKeeps : Keeps start later)
    (stepKeeps : Keeps start step) : Keeps start (later ∘ step) := by
  intro rest
  rw [Function.comp_apply, Function.comp_apply, stepKeeps, laterKeeps]

theorem foldl {α : Type} {items : List α} {step : α → Text → Text}
    (each : ∀ item ∈ items, Keeps start (step item)) :
    Keeps start fun text => items.foldl (fun text item => step item text) text := by
  induction items with
  | nil => exact fun _ => rfl
  | cons item others ih =>
      have first := each item (List.mem_cons_self ..)
      have further := ih fun other mem => each other (List.mem_cons_of_mem _ mem)
      exact further.comp first

end Keeps

variable {ignoreCase : Bool} {rule : Substitution} {first : Char} {others : Text}

theorem keeps_of_needs (needs : rule.Needs (first :: others))
    (absent : first ∉ caseSwitch ignoreCase) :
    Keeps (caseSwitch ignoreCase) rule.everywhere :=
  (needs.spares absent).everywhere_append

theorem keeps_unescaped_of_needs (needs : rule.Needs (first :: others))
    (absent : first ∉ caseSwitch ignoreCase) :
    Keeps (caseSwitch ignoreCase) rule.unescaped := by
  apply (needs.spares absent).unescaped_append
  cases ignoreCase <;> decide

/-- The letter of the switch is none of an escape. -/
theorem exists_caseSwitch (ignoreCase : Bool) :
    ∃ letter, caseSwitch ignoreCase = ['\\', letter] ∧ letter ≠ '\\' ∧ letter ∉ escapeLetters := by
  cases ignoreCase with
  | false => exact ⟨'C', rfl, by decide⟩
  | true => exact ⟨'c', rfl, by decide⟩

theorem not_mem_caseSwitch (ignoreCase : Bool) :
    ∀ sign ∈ ['(', '[', '*', '+', '?', '{'], sign ∉ caseSwitch ignoreCase := by
  cases ignoreCase <;> decide

theorem keeps_escapeRule (mem : rule ∈ escapeRules) :
    Keeps (caseSwitch ignoreCase) rule.everywhere := by
  apply Spares.everywhere_append
  intro c more inside rest
  cases front : rule.front (c :: (more ++ rest)) with
  | none => rfl
  | some found =>
      rcases escape_prefix_of_applies mem front with ⟨sign, listed, start⟩
      rcases List.mem_map.mp listed with ⟨other, isLetter, rfl⟩
      rcases List.cons_prefix_cons.mp start with ⟨rfl, behind⟩
      rcases exists_caseSwitch ignoreCase with ⟨letter, switch, plain, noEscape⟩
      rw [switch] at inside
      -- The one backslash of the switch is its first character, and its letter stands behind it.
      rcases List.suffix_cons_iff.mp inside with whole | later
      · obtain rfl : more = [letter] := (List.cons.inj whole).2
        obtain ⟨rfl, _⟩ := List.cons_prefix_cons.mp behind
        exact absurd isLetter noEscape
      · have last : '\\' ∈ [letter] := later.subset (List.mem_cons_self ..)
        exact absurd (List.mem_singleton.mp last).symm plain

theorem keeps_vimOperator : Keeps (caseSwitch ignoreCase) vimOperator.everywhere := by
  have plain : ∀ c ∈ caseSwitch ignoreCase, isVimOperator c = false := by
    cases ignoreCase <;> decide
  apply Spares.everywhere_append
  intro c more inside rest
  simp [vimOperator, plain c (inside.subset (List.mem_cons_self ..))]

theorem keeps_reluctantQuantifiers : Keeps (caseSwitch ignoreCase) reluctantQuantifiers := by
  have absent := not_mem_caseSwitch ignoreCase
  have star := keeps_unescaped_of_needs (needs_literal '*' ['?'] ['{', '-', '}'])
    (absent '*' (by decide))
  have plus := keeps_unescaped_of_needs (needs_literal '+' ['?'] ['{', '-', '1', ',', '}'])
    (absent '+' (by decide))
  have option := keeps_unescaped_of_needs (needs_literal '?' ['?'] ['{', '-', '0', ',', '1', '}'])
    (absent '?' (by decide))
  have bounds : Keeps (caseSwitch ignoreCase) reluctantBounds.unescaped :=
    keeps_unescaped_of_needs (Enclosure.needs_substitution _ _ _) (absent '{' (by decide))
  exact bounds.comp (option.comp (plus.comp star))

theorem keeps_caseSwitches : Keeps (caseSwitch ignoreCase) caseSwitches := by
  have absent := not_mem_caseSwitch ignoreCase '(' (by decide)
  have off := keeps_of_needs (needs_literal '(' ['?', 'i', ')'] ['\\', 'c']) absent
  have on := keeps_of_needs (needs_literal '(' ['?', '-', 'i', ')'] ['\\', 'C']) absent
  exact on.comp off

theorem keeps_expandAll : Keeps (caseSwitch ignoreCase) NamedClass.expandAll := by
  apply Keeps.foldl
  intro named _
  exact keeps_of_needs (needs_literal _ _ _) (not_mem_caseSwitch ignoreCase '[' (by decide))

/-- No rule of the plain dialect sees the switch. -/
theorem keeps_apply (rule : Rule) (plain : rule.isExtendedOnly = false) :
    Keeps (caseSwitch ignoreCase) rule.apply := by
  have absent := not_mem_caseSwitch ignoreCase '(' (by decide)
  cases rule with
  | vimOperators => exact keeps_vimOperator
  | reluctantQuantifiers => exact keeps_reluctantQuantifiers
  | extendedConstructs => cases plain
  | anchors =>
      have first : boundaryRules.take 3 ⊆ escapeRules := fun _ mem =>
        boundaryRules_subset (List.mem_of_mem_take mem)
      exact Keeps.foldl fun rule mem => keeps_escapeRule (first mem)
  | wordBoundary =>
      exact keeps_escapeRule
        (mem_escapeRules.mpr (Or.inl ⟨('b', ['(', '<', '|', '>', ')']), by decide, rfl⟩))
  | caseSwitches => exact keeps_caseSwitches
  | namedGroups => exact keeps_of_needs needs_namedGroup absent
  | bareGroups => exact keeps_of_needs needs_bareGroup absent
  | characterCodes => exact Keeps.foldl fun rule mem => keeps_escapeRule (codeRules_subset mem)
  | namedClasses => exact keeps_expandAll

theorem toVim_caseSwitch (ignoreCase : Bool) (body : Text) :
    toVim .regular (caseSwitch ignoreCase ++ body) =
      veryMagic ++ caseSwitch ignoreCase ++ Rule.applyAll (Rule.active false) body := by
  have kept : Keeps (caseSwitch ignoreCase) (Rule.applyAll (Rule.active false)) := by
    apply Keeps.foldl
    intro rule mem
    exact keeps_apply rule (by simpa [Rule.active] using (List.mem_filter.mp mem).2)
  rw [toVim, kept, List.append_assoc]

/-- The pattern comes out as it would alone, with the switch behind the mark in front of it. Outside
of text search all dots are then written anew. -/
theorem highlight_keeps_switch (wrapped : Wrapped pattern quote body) (ignoreCase : Bool) :
    ∃ carried, toVim .regular body = veryMagic ++ carried ∧
      highlight ⟨false, ignoreCase, true⟩ pattern =
        veryMagic ++ caseSwitch ignoreCase ++ carried ∧
      highlight ⟨false, ignoreCase, false⟩ pattern =
        Text.replaceChar '.' ['\\', 'w'] (veryMagic ++ caseSwitch ignoreCase ++ carried) := by
  refine ⟨Rule.applyAll (Rule.active false) body, rfl, ?_, ?_⟩
  · simp only [wrapped.highlight_eq, toVim_caseSwitch, Bool.false_eq_true, if_false, if_true]
  · simp only [wrapped.highlight_eq, toVim_caseSwitch, Bool.false_eq_true, if_false]

/-- A quantifier directly behind the switch, in a pattern with quotes around it. -/
theorem highlight_keeps_switch_quantified :
    Wrapped "\"*?x.\"".toList (some '"') "*?x.".toList ∧
      ∃ carried, toVim .regular "*?x.".toList = veryMagic ++ carried ∧
        highlight ⟨false, true, true⟩ "\"*?x.\"".toList = veryMagic ++ caseSwitch true ++ carried ∧
        highlight ⟨false, true, false⟩ "\"*?x.\"".toList =
          Text.replaceChar '.' ['\\', 'w'] (veryMagic ++ caseSwitch true ++ carried) := by
  have whole : "\"*?x.\"".toList = '"' :: ("*?x.".toList ++ ['"']) := by decide
  have wrapped : Wrapped "\"*?x.\"".toList (some '"') "*?x.".toList := by
    rw [whole]
    exact .quoted (by decide) _
  exact ⟨wrapped, highlight_keeps_switch wrapped true⟩

/-! ## Names of symbols -/

/-- A part of a pattern for names. -/
inductive SymbolSign where
  | letter (c : Char) (word : Text.isWordChar c = true)
  /-- A dot that stands for any character. -/
  | wildcard
  /-- A dot behind a backslash, which stands for itself. -/
  | dot

namespace SymbolSign

def written : SymbolSign → Text
  | letter c _ => [c]
  | wildcard => ['.']
  | dot => ['\\', '.']

/-- The part with only wildcards made a character of a name. -/
def marked : SymbolSign → Text
  | letter c _ => [c]
  | wildcard => ['\\', 'w']
  | dot => ['\\', '.']

/-- What becomes of the part if every dot is written anew. -/
def emitted : SymbolSign → Text
  | letter c _ => [c]
  | wildcard => ['\\', 'w']
  | dot => ['\\', '\\', 'w']

theorem over_written (sign : SymbolSign) : Text.Over ['.', '\\'] sign.written := by
  cases sign with
  | letter c word => exact (Text.over_wordChar word).mono _ (List.nil_subset _)
  | wildcard => exact Text.over_of_subset (by decide)
  | dot => exact Text.over_of_subset (by decide)

/-- Behind a backslash there is a dot. -/
theorem follows_written (sign : SymbolSign) : Text.Follows '\\' ['.'] sign.written := by
  cases sign with
  | letter c word => exact Text.follows_of_not_mem (Text.not_mem_wordChar word _ (by decide))
  | wildcard => exact Text.follows_of_not_mem (by decide)
  | dot => simp [written, Text.Follows]

theorem over_flatMap (signs : List SymbolSign) :
    Text.Over ['.', '\\'] (signs.flatMap written) :=
  Text.over_flatMap fun sign _ => sign.over_written

theorem toVim_written (signs : List SymbolSign) :
    toVim .regular (signs.flatMap written) = veryMagic ++ signs.flatMap written := by
  have chars := over_flatMap signs
  have follows : Text.Follows '\\' ['.'] (signs.flatMap written) :=
    Text.follows_flatMap fun sign _ => sign.follows_written
  rw [toVim_regular, vimOperator_eq_of_over chars (by decide),
    rulesBehindOperators_eq chars (by decide) (free_escapes_of_follows follows (by decide))]

theorem wrapped_written (signs : List SymbolSign) :
    Wrapped (signs.flatMap written) none (signs.flatMap written) := by
  have noQuote : ∀ quote ∈ quotes, Text.isWordChar quote = false ∧ quote ∉ ['.', '\\'] := by
    decide +kernel
  refine .bare ?_
  intro quote isQuote body same
  have mem : quote ∈ signs.flatMap written := by
    rw [same]
    exact List.mem_cons_self ..
  rcases noQuote quote isQuote with ⟨noWord, noSign⟩
  rcases over_flatMap signs quote mem with word | sign
  · simp [noWord] at word
  · exact noSign sign

theorem replaceChar_written (sign : SymbolSign) :
    Text.replaceChar '.' ['\\', 'w'] sign.written = sign.emitted := by
  cases sign with
  | letter c word =>
      have noDot : Text.isWordChar '.' = false := by decide +kernel
      have apart : c ≠ '.' := by
        rintro rfl
        simp [noDot] at word
      simp [written, emitted, Text.replaceChar, apart]
  | wildcard => rfl
  | dot => rfl

theorem highlight_written (ignoreCase : Bool) (signs : List SymbolSign) :
    highlight ⟨false, ignoreCase, false⟩ (signs.flatMap written) =
      veryMagic ++ caseSwitch ignoreCase ++ signs.flatMap emitted := by
  have body : Rule.applyAll (Rule.active false) (signs.flatMap written) = signs.flatMap written :=
    List.append_cancel_left (toVim_written signs)
  have start : Text.replaceChar '.' ['\\', 'w'] (veryMagic ++ caseSwitch ignoreCase) =
      veryMagic ++ caseSwitch ignoreCase := by
    cases ignoreCase <;> rfl
  have dots : Text.replaceChar '.' ['\\', 'w'] (signs.flatMap written) = signs.flatMap emitted := by
    rw [Text.replaceChar, List.flatMap_assoc]
    exact List.flatMap_congr fun sign _ => sign.replaceChar_written
  calc highlight ⟨false, ignoreCase, false⟩ (signs.flatMap written)
      = Text.replaceChar '.' ['\\', 'w']
          (toVim .regular (caseSwitch ignoreCase ++ signs.flatMap written)) :=
        (wrapped_written signs).highlight_eq _
    _ = Text.replaceChar '.' ['\\', 'w']
          (veryMagic ++ caseSwitch ignoreCase ++ signs.flatMap written) := by
        rw [toVim_caseSwitch, body]
    _ = veryMagic ++ caseSwitch ignoreCase ++ signs.flatMap emitted := by
        rw [Text.replaceChar, List.flatMap_append, ← Text.replaceChar, ← Text.replaceChar, start,
          dots]

theorem flatMap_emitted_iff (signs : List SymbolSign) :
    signs.flatMap emitted = signs.flatMap marked ↔ dot ∉ signs := by
  induction signs with
  | nil => simp
  | cons sign others ih => cases sign <;> simp [emitted, marked, ih]

/-- Wildcards become characters of a name. A dot behind a backslash becomes a plain backslash and a
letter, so only patterns without such a dot highlight what they should. -/
theorem highlight_symbols (ignoreCase : Bool) (signs : List SymbolSign) :
    highlight ⟨false, ignoreCase, false⟩ (signs.flatMap written) =
        veryMagic ++ caseSwitch ignoreCase ++ signs.flatMap emitted ∧
      (highlight ⟨false, ignoreCase, false⟩ (signs.flatMap written) =
          veryMagic ++ caseSwitch ignoreCase ++ signs.flatMap marked ↔ dot ∉ signs) := by
  have whole := highlight_written ignoreCase signs
  refine ⟨whole, ?_⟩
  rw [whole, List.append_cancel_left_eq, flatMap_emitted_iff]

/-- A name with a dot in it: `a\.b`. -/
def dotted : List SymbolSign :=
  [letter 'a' Text.isWordChar_a, dot, letter 'b' Text.isWordChar_b]

/-- The dot has become a backslash and the letter `w`. -/
theorem highlight_dotted :
    dotted.flatMap written = "a\\.b".toList ∧
      highlight ⟨false, false, false⟩ "a\\.b".toList = "\\v\\Ca\\\\wb".toList ∧
      veryMagic ++ caseSwitch false ++ dotted.flatMap marked = "\\v\\Ca\\.b".toList :=
  ⟨rfl, highlight_written false dotted, rfl⟩

end SymbolSign

end ProjectTags.Pattern
