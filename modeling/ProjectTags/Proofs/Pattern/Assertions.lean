import Mathlib.Data.List.TakeWhile
import ProjectTags.Proofs.Pattern.Rules

/-!
# Assertions

An assertion or an atomic group becomes a plain group with an operator behind it. The five kinds
are written anew one after the other, and no pass looks at what the others have written. The body
of such a group ends at the first closing parenthesis, so the operator stands behind the group it
belongs to just if there are no other groups in the body.
-/

namespace ProjectTags.Pattern

open Substitution

/-- A text of letters, bars and groups in which each opening parenthesis has its closing one. -/
inductive Balanced : Text → Prop where
  | nil : Balanced []
  | letter {c : Char} (word : Text.isWordChar c = true) : Balanced [c]
  | bar : Balanced ['|']
  | append {left right : Text} (first : Balanced left) (second : Balanced right) :
      Balanced (left ++ right)
  | group {text : Text} (inner : Balanced text) : Balanced ('(' :: (text ++ [')']))

namespace Balanced

variable {text rest : Text}

theorem chars (balanced : Balanced text) : Text.Over ['(', ')', '|'] text := by
  induction balanced with
  | nil => exact Text.over_of_subset (by simp)
  | letter word => exact Text.over_wordChar word
  | bar => exact Text.over_of_subset (by simp)
  | append _ _ ihFirst ihSecond => exact ihFirst.append ihSecond
  | group _ ih =>
      have opened : Text.Over ['(', ')', '|'] ['('] := Text.over_of_subset (by simp)
      have closed : Text.Over ['(', ')', '|'] [')'] := Text.over_of_subset (by simp)
      exact opened.append (ih.append closed)

theorem head?_ne_close (balanced : Balanced text) : text.head? ≠ some ')' := by
  induction balanced with
  | nil => simp
  | letter word =>
      have apart := Text.not_mem_wordChar word ')' (by decide)
      intro same
      exact apart (by simpa using same.symm)
  | bar => decide
  | append _ _ ihFirst ihSecond =>
      rw [List.head?_append]
      intro same
      rcases Option.or_eq_some_iff.mp same with same | ⟨_, same⟩
      · exact ihFirst same
      · exact ihSecond same
  | group _ _ => simp

theorem mem_open_iff_mem_close (balanced : Balanced text) : '(' ∈ text ↔ ')' ∈ text := by
  induction balanced with
  | nil => simp
  | letter word =>
      have noOpen := Text.not_mem_wordChar word '(' (by decide)
      have noClose := Text.not_mem_wordChar word ')' (by decide)
      simp only [noOpen, noClose]
  | bar => decide
  | append _ _ ihFirst ihSecond => rw [List.mem_append, List.mem_append, ihFirst, ihSecond]
  | group _ _ => simp

end Balanced

/-- The body of a group. -/
structure GroupBody where
  text : Text
  nonempty : text ≠ []
  balanced : Balanced text

namespace GroupBody

/-- The body up to its first closing parenthesis. -/
def head (body : GroupBody) : Text :=
  body.text.takeWhile (· ≠ ')')

/-- What is behind the first closing parenthesis, with the one that closes the group. -/
def tail (body : GroupBody) : Text :=
  (body.text ++ [')']).drop (body.head.length + 1)

theorem not_mem_head (body : GroupBody) : ')' ∉ body.head := by
  intro mem
  simpa using List.mem_takeWhile_imp mem

theorem head_nonempty (body : GroupBody) : body.head ≠ [] := by
  have begins := body.balanced.head?_ne_close
  cases start : body.text with
  | nil => exact absurd start body.nonempty
  | cons c others =>
      rw [start] at begins
      have stays : c ≠ ')' := by simpa using begins
      simp [head, start, stays]

theorem split (body : GroupBody) : body.text ++ [')'] = body.head ++ ')' :: body.tail := by
  have whole : body.head ++ body.text.dropWhile (· ≠ ')') = body.text :=
    List.takeWhile_append_dropWhile
  cases rest : body.text.dropWhile (· ≠ ')') with
  | nil =>
      rw [rest, List.append_nil] at whole
      simp [tail, ← whole]
  | cons c others =>
      have close : c = ')' := by
        have stops := List.head?_dropWhile_not (· ≠ ')') body.text
        rw [rest] at stops
        simpa using stops
      rw [rest, close] at whole
      simp [tail, ← whole]

theorem over_split (body : GroupBody) :
    Text.Over ['(', ')', '|'] (body.head ++ ')' :: body.tail) := by
  rw [← split]
  exact body.balanced.chars.append (Text.over_of_subset (by simp))

end GroupBody

/-- The assertions and the atomic group. -/
inductive AssertionKind where
  | ahead
  | notAhead
  | behind
  | notBehind
  | atomic
  deriving DecidableEq

namespace AssertionKind

/-- The characters that tell the kind, in a search pattern and in Vim. -/
def mark : AssertionKind → Text
  | ahead => ['=']
  | notAhead => ['!']
  | behind => ['<', '=']
  | notBehind => ['<', '!']
  | atomic => ['>']

def opening (kind : AssertionKind) : Text :=
  '(' :: '?' :: kind.mark

/-- The operator that Vim has behind the group. -/
def operator (kind : AssertionKind) : Text :=
  '@' :: kind.mark

def all : List AssertionKind :=
  [ahead, notAhead, behind, notBehind, atomic]

/-- The rule that writes the groups of this kind anew. -/
def rule (kind : AssertionKind) : Substitution :=
  assertion kind.opening kind.operator

end AssertionKind

/-- A part of a pattern with assertions. -/
inductive Part where
  | letter (c : Char) (word : Text.isWordChar c = true)
  | asserted (kind : AssertionKind) (body : GroupBody)

namespace Part

/-- The part in a search pattern. -/
def written : Part → Text
  | letter c _ => [c]
  | asserted kind body => kind.opening ++ (body.text ++ [')'])

/-- The part with the operator behind its own group. -/
def carried : Part → Text
  | letter c _ => [c]
  | asserted kind body => '(' :: (body.text ++ ')' :: kind.operator)

/-- The part with the operator behind the first closing parenthesis. -/
def emitted : Part → Text
  | letter c _ => [c]
  | asserted kind body => '(' :: (body.head ++ ')' :: (kind.operator ++ body.tail))

/-- The part after the passes for some of the kinds. -/
def partly (done : List AssertionKind) : Part → Text
  | letter c _ => [c]
  | asserted kind body =>
      if kind ∈ done then (asserted kind body).emitted else (asserted kind body).written

end Part

variable {kind other : AssertionKind} {body : GroupBody} {done : List AssertionKind} {rest : Text}

/-! ## The pass for one kind -/

theorem assertions_eq : assertions = AssertionKind.all.map AssertionKind.rule := rfl

namespace AssertionKind

theorem mem_all (kind : AssertionKind) : kind ∈ all := by
  cases kind <;> decide

theorem over_mark (kind : AssertionKind) : Text.Over ['=', '!', '<', '>'] kind.mark := by
  cases kind <;> exact Text.over_of_subset (by simp [mark])

/-- No opening begins with another one. -/
theorem eq_of_opens (start : kind.opening <+: other.opening ++ rest) : kind = other := by
  cases kind <;> cases other <;> simp_all [opening, mark]

theorem needs_rule (kind : AssertionKind) : kind.rule.Needs ('(' :: '?' :: kind.mark) :=
  Enclosure.needs_substitution _ _ _

end AssertionKind

namespace Part

theorem over_emitted (part : Part) :
    Text.Over ['(', ')', '|', '=', '!', '<', '>', '@'] part.emitted := by
  cases part with
  | letter c word => exact Text.over_wordChar word
  | asserted kind body =>
      have mark := kind.over_mark.mono ['(', ')', '|', '=', '!', '<', '>', '@'] (by simp)
      have split := body.over_split.mono ['(', ')', '|', '=', '!', '<', '>', '@'] (by simp)
      have head : Text.Over ['(', ')', '|', '=', '!', '<', '>', '@'] ('(' :: body.head) := by
        intro c mem
        rcases List.mem_cons.mp mem with rfl | mem
        · simp
        · exact split c (by simp [mem])
      have tail : Text.Over ['(', ')', '|', '=', '!', '<', '>', '@'] body.tail :=
        fun c mem => split c (by simp [mem])
      have operator : Text.Over ['(', ')', '|', '=', '!', '<', '>', '@'] [')', '@'] :=
        Text.over_of_subset (by simp)
      have whole := head.append (operator.append (mark.append tail))
      simpa [emitted, AssertionKind.operator] using whole

theorem over_written (part : Part) :
    Text.Over ['(', ')', '|', '=', '!', '<', '>', '?'] part.written := by
  cases part with
  | letter c word => exact Text.over_wordChar word
  | asserted kind body =>
      have front : Text.Over ['(', ')', '|', '=', '!', '<', '>', '?'] ['(', '?'] :=
        Text.over_of_subset (by simp)
      have mark := kind.over_mark.mono ['(', ')', '|', '=', '!', '<', '>', '?'] (by simp)
      have close : Text.Over ['(', ')', '|'] [')'] := Text.over_of_subset (by simp)
      have inner := body.balanced.chars.append close
      exact front.append (mark.append (inner.mono _ (by simp)))

theorem head?_partly (part : Part) (done : List AssertionKind) (rest : Text) :
    (part.partly done ++ rest).head? ≠ some '?' := by
  cases part with
  | letter c word =>
      have apart := Text.not_mem_wordChar word '?' (by decide)
      intro same
      exact apart (by simpa [partly] using same.symm)
  | asserted kind body =>
      simp only [partly]
      split <;> simp [emitted, written, AssertionKind.opening]

/-- No part begins with a question mark. -/
theorem head?_flatMap (parts : List Part) (done : List AssertionKind) :
    (parts.flatMap (partly done)).head? ≠ some '?' := by
  cases parts with
  | nil => simp
  | cons part others => exact head?_partly part done _

/-- The group of this kind is written anew. -/
theorem everywhere_asserted (next : rest.head? ≠ some '?') :
    kind.rule.everywhere ((asserted kind body).written ++ rest) =
      (asserted kind body).emitted ++ kind.rule.everywhere rest := by
  have chars := body.over_split
  have sameLine : '\n' ∉ body.head := fun mem =>
    chars.not_mem (c := '\n') (by decide) (by decide) (by simp [mem])
  have noMark : '?' ∉ body.tail := fun mem =>
    chars.not_mem (c := '?') (by decide) (by decide) (by simp [mem])
  have tailPassed : kind.rule.everywhere (body.tail ++ rest) =
      body.tail ++ kind.rule.everywhere rest :=
    kind.needs_rule.everywhere_append_of_second noMark next
  have passed : kind.rule.everywhere (kind.opening ++ (body.head ++ ')' :: (body.tail ++ rest))) =
      ['('] ++ (body.head ++ (')' :: kind.operator ++ kind.rule.everywhere (body.tail ++ rest))) :=
    (group kind.opening).everywhere_enclosed (List.cons_ne_nil '(' ('?' :: kind.mark)) rfl
      body.head_nonempty body.not_mem_head sameLine
  have whole : (asserted kind body).written ++ rest =
      kind.opening ++ (body.head ++ ')' :: (body.tail ++ rest)) := by
    rw [written, body.split]
    simp
  rw [whole, passed, tailPassed]
  simp [emitted]

/-- The group of another kind is left as it is. -/
theorem everywhere_other (apart : kind ≠ other) (next : rest.head? ≠ some '?') :
    kind.rule.everywhere ((asserted other body).written ++ rest) =
      (asserted other body).written ++ kind.rule.everywhere rest := by
  have misses : kind.rule.front (other.opening ++ (body.text ++ [')'] ++ rest)) = none := by
    apply kind.needs_rule.front_eq_none
    intro start
    exact apart (AssertionKind.eq_of_opens start)
  have mark : kind.rule.everywhere (['?'] ++ (other.mark ++ (body.text ++ [')'] ++ rest))) =
      ['?'] ++ kind.rule.everywhere (other.mark ++ (body.text ++ [')'] ++ rest)) :=
    kind.needs_rule.everywhere_append (by decide)
  have inner : kind.rule.everywhere (other.mark ++ (body.text ++ [')']) ++ rest) =
      other.mark ++ (body.text ++ [')']) ++ kind.rule.everywhere rest := by
    apply kind.needs_rule.everywhere_append_of_second _ next
    have close : Text.Over ['(', ')', '|'] [')'] := Text.over_of_subset (by simp)
    have mark := other.over_mark.mono ['(', ')', '|', '=', '!', '<', '>'] (by simp)
    have whole := mark.append ((body.balanced.chars.append close).mono _ (by simp))
    exact whole.not_mem (by decide) (by decide)
  have first : kind.rule.everywhere ('(' :: '?' :: (other.mark ++ (body.text ++ [')'] ++ rest))) =
      '(' :: kind.rule.everywhere ('?' :: (other.mark ++ (body.text ++ [')'] ++ rest))) :=
    everywhere_cons_of_none misses
  rw [List.singleton_append] at mark
  rw [List.append_assoc] at inner
  calc kind.rule.everywhere ((asserted other body).written ++ rest)
      = '(' :: '?' :: kind.rule.everywhere (other.mark ++ (body.text ++ [')'] ++ rest)) := by
        rw [written, List.append_assoc, AssertionKind.opening, List.cons_append, List.cons_append,
          first, mark]
        rfl
    _ = (asserted other body).written ++ kind.rule.everywhere rest := by
        rw [inner]
        simp [written, AssertionKind.opening]

theorem everywhere_partly_append (part : Part) (next : rest.head? ≠ some '?') :
    kind.rule.everywhere (part.partly done ++ rest) =
      part.partly (kind :: done) ++ kind.rule.everywhere rest := by
  cases part with
  | letter c word =>
      exact kind.needs_rule.everywhere_append (Text.not_mem_wordChar word _ (by decide))
  | asserted other body =>
      by_cases already : other ∈ done
      · have absent : '?' ∉ (asserted other body).emitted :=
          (over_emitted _).not_mem (by decide) (by decide)
        simpa [partly, already] using kind.needs_rule.everywhere_append_of_second absent next
      · by_cases same : other = kind
        · subst same
          simpa [partly, already] using everywhere_asserted next
        · simpa [partly, already, same] using everywhere_other (Ne.symm same) next

/-- One pass writes the groups of its kind anew and leaves all others, before and after their own
pass. -/
theorem everywhere_partly (kind : AssertionKind) (done : List AssertionKind) (parts : List Part) :
    kind.rule.everywhere (parts.flatMap (partly done)) = parts.flatMap (partly (kind :: done)) := by
  induction parts with
  | nil => rfl
  | cons part others ih =>
      rw [List.flatMap_cons, everywhere_partly_append part (head?_flatMap others done), ih,
        List.flatMap_cons]

theorem foldl_rules (kinds done : List AssertionKind) (parts : List Part) :
    (kinds.map AssertionKind.rule).foldl (fun text rule => rule.everywhere text)
      (parts.flatMap (partly done)) = parts.flatMap (partly (kinds.reverse ++ done)) := by
  induction kinds generalizing done with
  | nil => rfl
  | cons kind others ih =>
      rw [List.map_cons, List.foldl_cons, everywhere_partly, ih, List.reverse_cons,
        List.append_assoc, List.singleton_append]

/-- Each kind has had its pass, so each group has been written anew. -/
theorem foldl_assertions (parts : List Part) :
    assertions.foldl (fun text rule => rule.everywhere text) (parts.flatMap written) =
      parts.flatMap emitted := by
  have before : partly [] = written := by
    funext part
    cases part <;> simp [partly, written]
  have after : partly (AssertionKind.all.reverse ++ []) = emitted := by
    funext part
    cases part with
    | letter c word => rfl
    | asserted kind body => simp [partly, kind.mem_all]
  rw [assertions_eq, ← before, foldl_rules, after]

/-! ## The whole pattern -/

theorem follows_written (part : Part) : Text.Follows '?' ['=', '!', '<', '>'] part.written := by
  cases part with
  | letter c word => exact Text.follows_of_not_mem (Text.not_mem_wordChar word _ (by decide))
  | asserted kind body =>
      have opened : Text.Follows '?' ['=', '!', '<', '>'] kind.opening := by
        cases kind <;> simp [Text.Follows, AssertionKind.opening, AssertionKind.mark]
      have noMark : '?' ∉ body.text ++ [')'] :=
        (body.balanced.chars.append (Text.over_of_subset (by simp))).not_mem (by decide) (by decide)
      exact opened.append (Text.follows_of_not_mem noMark)

theorem toVim_written (parts : List Part) :
    toVim .extended (parts.flatMap written) = veryMagic ++ parts.flatMap emitted := by
  have chars : Text.Over _ (parts.flatMap written) :=
    Text.over_flatMap fun part _ => part.over_written
  have overEmitted : Text.Over _ (parts.flatMap emitted) :=
    Text.over_flatMap fun part _ => part.over_emitted
  have noPlus : '+' ∉ parts.flatMap written := chars.not_mem (by decide) (by decide)
  have follows : Text.Follows '?' ['=', '!', '<', '>'] (parts.flatMap written) :=
    Text.follows_flatMap fun part _ => part.follows_written
  have quantifiers := reluctantQuantifiers_eq_of_over chars (by decide) (follows.apart (by decide))
  have comments : comment.removal.everywhere (parts.flatMap written) = parts.flatMap written :=
    comment.needs_removal.everywhere_of_not_mem (c := '#') (by decide)
      (chars.not_mem (by decide) (by decide))
  have extended : extendedConstructs (parts.flatMap written) = parts.flatMap emitted := by
    rw [extendedConstructs, unescaped_possessiveQuantifier, comments, foldl_assertions]
    exact fun c _ => Text.not_infix (by simp) noPlus
  have plainAfter : '\\' ∉ parts.flatMap emitted := overEmitted.not_mem (by decide) (by decide)
  have noBracket : '[' ∉ parts.flatMap emitted := overEmitted.not_mem (by decide) (by decide)
  have noMark : '?' ∉ parts.flatMap emitted := overEmitted.not_mem (by decide) (by decide)
  rw [toVim_extended, vimOperator_eq_of_over chars (by decide),
    quantifiers, extended, laterRules_eq (free_escapes plainAfter)
      (Text.not_infix (by simp) noMark) (Text.not_infix (by simp) noBracket)]

/-! ## The place of the operator -/

theorem length_emitted (part : Part) : part.emitted.length = part.carried.length := by
  cases part with
  | letter c word => rfl
  | asserted kind body =>
      have size := congrArg List.length body.split
      simp only [List.length_append, List.length_cons, List.length_nil] at size
      simp only [emitted, carried, List.length_append, List.length_cons]
      omega

/-- The first closing parenthesis closes the group itself just if there is no group in it. -/
theorem emitted_eq_carried_iff (kind : AssertionKind) (body : GroupBody) :
    (asserted kind body).emitted = (asserted kind body).carried ↔ '(' ∉ body.text := by
  rw [body.balanced.mem_open_iff_mem_close]
  have split := body.split
  constructor
  · intro same mem
    have rewritten : body.head ++ ')' :: (body.tail ++ kind.operator) =
        body.text ++ ')' :: kind.operator := by
      simpa using congrArg (· ++ kind.operator) split.symm
    have moved : kind.operator ++ body.tail = body.tail ++ kind.operator := by
      have groups := (List.cons.inj same).2
      rw [← rewritten, List.append_cancel_left_eq] at groups
      exact (List.cons.inj groups).2
    cases start : body.tail with
    | nil =>
        rw [start, List.append_cancel_right_eq] at split
        exact body.not_mem_head (split ▸ mem)
    | cons c others =>
        have operator : c = '@' := by
          rw [start] at moved
          exact (List.cons.inj moved).1.symm
        apply body.over_split.not_mem (c := '@') (by decide) (by decide)
        simp [start, operator]
  · intro absent
    have all : body.head = body.text := by
      rw [GroupBody.head, List.takeWhile_eq_self_iff]
      intro c mem
      simpa using fun same : c = ')' => absent (same ▸ mem)
    rw [all, List.append_cancel_left_eq] at split
    rw [emitted, carried, all, ← (List.cons.inj split).2, List.append_nil]

theorem flatMap_emitted_iff (parts : List Part) :
    parts.flatMap emitted = parts.flatMap carried ↔
      ∀ part ∈ parts, part.emitted = part.carried := by
  induction parts with
  | nil => simp
  | cons part others ih =>
      rw [List.flatMap_cons, List.flatMap_cons, List.forall_mem_cons, ← ih]
      constructor
      · intro same
        exact List.append_inj same part.length_emitted
      · rintro ⟨first, later⟩
        rw [first, later]

/-- The operators are set behind the first closing parenthesis of their group. They stand behind the
groups they belong to just if no body has a group in it. -/
theorem toVim_assertions (parts : List Part) :
    toVim .extended (parts.flatMap written) = veryMagic ++ parts.flatMap emitted ∧
      (toVim .extended (parts.flatMap written) = veryMagic ++ parts.flatMap carried ↔
        ∀ kind body, asserted kind body ∈ parts → '(' ∉ body.text) := by
  have whole := toVim_written parts
  refine ⟨whole, ?_⟩
  rw [whole, List.append_cancel_left_eq, flatMap_emitted_iff]
  constructor
  · intro same kind body mem
    exact (emitted_eq_carried_iff kind body).mp (same _ mem)
  · intro noGroup part mem
    cases part with
    | letter c word => rfl
    | asserted kind body => exact (emitted_eq_carried_iff kind body).mpr (noGroup kind body mem)

/-- A group inside the body of an assertion: `(?=(a)b)c`. -/
def nested : List Part :=
  have balanced : Balanced "(a)b".toList :=
    (Balanced.letter Text.isWordChar_a).group.append (.letter Text.isWordChar_b)
  [asserted .ahead ⟨"(a)b".toList, by decide, balanced⟩, letter 'c' Text.isWordChar_c]

/-- The operator is set behind the inner group. -/
theorem toVim_nested_group :
    toVim .extended (nested.flatMap written) = veryMagic ++ "((a)@=b)c".toList ∧
      nested.flatMap carried = "((a)b)@=c".toList := by
  constructor
  · rw [toVim_written]
    rfl
  · rfl

end Part

end ProjectTags.Pattern
