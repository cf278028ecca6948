import ProjectTags.Proofs.Pattern.Dialects
import ProjectTags.Proofs.Pattern.Operators

/-!
# The pattern's own signs and those of the rules

A percent sign of a search pattern is plain text and gets a backslash in front, and later a rule
writes a percent sign of its own, which means a group. The two are told apart by what stands next to
them. `Reads` goes along a text one character at a time and knows only whether a backslash stands
directly in front: each backslash belongs to an operator of the pattern or to a switch for case, and
each operator without one is the percent sign of a group.

The rules for quantifiers, switches and groups edit parts that have neither backslashes nor
operators in them and do not begin behind a backslash. So a text still reads as before when they
have edited it, with the same operators. As no backslash has another letter behind it, there is
nothing for the rules for escapes to do.
-/

namespace ProjectTags.Pattern

open Substitution

/-- The operators of Vim that stand directly behind a backslash, in order. -/
def escapedOperators (text : Text) : Text :=
  (text.zip text.tail).filterMap fun (previous, c) =>
    if previous = '\\' && isVimOperator c then some c else none

/-- A pattern of Vim in which the operators of a search pattern are told from those of the rules by
what stands directly next to them. -/
structure SignsApart (pattern carried : Text) : Prop where
  escaped : ∀ sign ∈ ['@', '&'], ∀ before after, carried = before ++ sign :: after →
    before.getLast? = some '\\'
  grouped : ∀ before after, carried = before ++ '%' :: after →
    before.getLast? = some '\\' ∨ after.head? = some '('
  own : escapedOperators carried = pattern.filter isVimOperator

/-- The beginning of a named class. -/
def classOpening : Text := ['[', '[', ':']

variable {text rest chunk old new part other operators pattern : Text} {c previous : Char}
  {grouped behind : Bool}

/-! ## The rule for operators -/

theorem edits_vimOperator_escaped :
    vimOperator.Edits fun part other => ∃ c, part = [c] ∧ other = ['\\', c] := by
  intro c rest new extra applies
  simp only [vimOperator, Option.ite_none_right_eq_some, Option.some.injEq, Prod.mk.injEq]
    at applies
  rcases applies with ⟨_, rfl, rfl⟩
  exact .of_edit ⟨c, rfl, rfl⟩

/-- A backslash in front of a character brings about no text without backslashes. -/
theorem harmless_escaped {signs : List Text} (plain : ∀ sign ∈ signs, '\\' ∉ sign) (c : Char) :
    Text.Harmless signs [c] ['\\', c] where
  nonempty := List.cons_ne_nil _ _
  begins := by
    intro sign mem d inTail same
    obtain rfl : '\\' = d := Option.some.inj same
    exact plain sign mem (List.mem_of_mem_tail inTail)
  inside := by
    intro sign mem d inFront same
    obtain rfl : d = '\\' := List.mem_singleton.mp inFront
    exact plain sign mem (List.mem_of_head? same)
  ends := fun sign mem last => ⟨sign, mem, last, rfl⟩

theorem free_classOpening (noClass : ¬['[', '[', ':'] <:+: pattern) :
    Text.Free [classOpening] pattern := by
  intro sign mem
  rw [List.mem_singleton.mp mem]
  exact noClass

theorem free_escapedOperators {signs : List Text} (plain : ∀ sign ∈ signs, '\\' ∉ sign)
    (free : Text.Free signs pattern) : Text.Free signs (pattern.flatMap vimForm) := by
  rw [← everywhere_vimOperator_eq_flatMap]
  apply (edits_vimOperator_escaped.everywhere pattern).free _ free
  rintro part other ⟨c, rfl, rfl⟩
  exact harmless_escaped plain c

/-! ## How a text reads -/

/-- The characters by which a text is read. -/
def readSigns : Text := ['\\', '%', '@', '&']

/-- A text without such characters. -/
def IsUnread (text : Text) : Prop :=
  ∀ c ∈ text, c ∉ readSigns

instance (text : Text) : Decidable (IsUnread text) :=
  inferInstanceAs (Decidable (∀ c ∈ text, c ∉ readSigns))

/-- How a text reads from a place on, which may be directly behind a backslash, and the operators
with backslashes in it. Groups may be written in Vim's form or not. -/
inductive Reads (grouped : Bool) : Bool → Text → Text → Prop where
  | nil : Reads grouped false [] []
  | unread {c : Char} {rest operators : Text} (noSign : c ∉ readSigns)
      (further : Reads grouped false rest operators) : Reads grouped false (c :: rest) operators
  | slash {rest operators : Text} (further : Reads grouped true rest operators) :
      Reads grouped false ('\\' :: rest) operators
  | operator {c : Char} {rest operators : Text} (isOperator : isVimOperator c = true)
      (further : Reads grouped false rest operators) :
      Reads grouped true (c :: rest) (c :: operators)
  | switch {c : Char} {rest operators : Text} (isSwitch : c ∈ ['c', 'C'])
      (further : Reads grouped false rest operators) : Reads grouped true (c :: rest) operators
  | group {rest operators : Text} (written : grouped = true)
      (further : Reads grouped false rest operators) :
      Reads grouped false ('%' :: '(' :: rest) operators

theorem ne_slash_of_unread (noSign : c ∉ readSigns) : c ≠ '\\' := by
  rintro rfl
  exact noSign (by decide)

theorem ne_slash_of_operator (isOperator : isVimOperator c = true) : c ≠ '\\' := by
  rintro rfl
  exact absurd isOperator (by decide)

theorem ne_slash_of_switch (isSwitch : c ∈ ['c', 'C']) : c ≠ '\\' := by
  rintro rfl
  exact absurd isSwitch (by decide)

namespace Reads

theorem append (unread : IsUnread chunk) (reads : Reads grouped false rest operators) :
    Reads grouped false (chunk ++ rest) operators := by
  induction chunk with
  | nil => exact reads
  | cons c more ih =>
      exact .unread (unread c (List.mem_cons_self ..))
        (ih fun d mem => unread d (List.mem_cons_of_mem _ mem))

theorem of_cons (noSign : c ∉ readSigns) (reads : Reads grouped false (c :: rest) operators) :
    Reads grouped false rest operators := by
  cases reads with
  | unread _ further => exact further
  | slash => exact absurd (by decide) noSign
  | group => exact absurd (by decide) noSign

theorem of_append (unread : IsUnread chunk)
    (reads : Reads grouped false (chunk ++ rest) operators) :
    Reads grouped false rest operators := by
  induction chunk with
  | nil => exact reads
  | cons c more ih =>
      apply ih fun d mem => unread d (List.mem_cons_of_mem _ mem)
      exact reads.of_cons (unread c (List.mem_cons_self ..))

/-- A search pattern without backslashes, once its operators have got theirs. -/
theorem flatMap_vimForm (plain : '\\' ∉ pattern) :
    Reads false false (pattern.flatMap vimForm) (pattern.filter isVimOperator) := by
  induction pattern with
  | nil => exact .nil
  | cons c others ih =>
      rw [List.mem_cons, not_or] at plain
      have further := ih plain.2
      by_cases isOperator : isVimOperator c = true
      · have form : vimForm c = ['\\', c] := if_pos isOperator
        rw [List.flatMap_cons, List.filter_cons_of_pos isOperator, form]
        exact .slash (.operator isOperator further)
      · have form : vimForm c = [c] := if_neg isOperator
        rw [List.flatMap_cons, List.filter_cons_of_neg isOperator, form]
        refine .unread ?_ further
        rw [isVimOperator_iff] at isOperator
        exact fun listed => (List.mem_cons.mp listed).elim (plain.1 ·.symm) isOperator

/-- What stands behind a backslash is no letter of an escape. -/
theorem not_mem_escapeLetters (reads : Reads grouped true (c :: rest) operators) :
    c ∉ escapeLetters := by
  have letters : ∀ letter ∈ escapeLetters, isVimOperator letter = false ∧ letter ∉ ['c', 'C'] := by
    decide
  intro listed
  rcases letters c listed with ⟨noOperator, noSwitch⟩
  cases reads with
  | operator isOperator _ => simp [isOperator] at noOperator
  | switch isSwitch _ => exact noSwitch isSwitch

theorem free_escapes (reads : Reads grouped behind text operators) : Text.Free escapes text := by
  intro escape mem
  rcases List.mem_map.mp mem with ⟨letter, listed, rfl⟩
  -- Only a backslash can be the beginning, and the reading tells what is behind it.
  have passed : ∀ {c : Char} {rest : Text}, c ≠ '\\' → ¬['\\', letter] <:+: rest →
      ¬['\\', letter] <:+: c :: rest := by
    intro c rest other apart inside
    rcases List.infix_cons_iff.mp inside with start | later
    · exact other (List.cons_prefix_cons.mp start).1.symm
    · exact apart later
  induction reads with
  | nil => simp
  | unread noSign _ ih => exact passed (ne_slash_of_unread noSign) ih
  | slash further ih =>
      intro inside
      rcases List.infix_cons_iff.mp inside with start | later
      · rcases (List.cons_prefix_cons.mp start).2 with ⟨more, rfl⟩
        exact further.not_mem_escapeLetters listed
      · exact ih later
  | operator isOperator _ ih => exact passed (ne_slash_of_operator isOperator) ih
  | switch isSwitch _ ih => exact passed (ne_slash_of_switch isSwitch) ih
  | group _ _ ih => exact passed (by decide) (passed (by decide) ih)

end Reads

/-! ## Edits between the signs -/

/-- An edit of a part that has no signs in it and does not begin behind a backslash, which writes
something with no operators of the pattern in it and nothing of a named class. -/
structure IsUnreadEdit (grouped : Bool) (part other : Text) : Prop where
  opens : part.head? ∉ [none, some 'c', some 'C']
  unread : IsUnread part
  reads : ∀ {rest operators : Text}, Reads grouped false rest operators →
    Reads grouped false (other ++ rest) operators
  nonempty : other ≠ []
  noClass : ∀ c ∈ other, c ∉ classOpening

namespace IsUnreadEdit

theorem part_ne_nil (edit : IsUnreadEdit grouped part other) : part ≠ [] := by
  rintro rfl
  exact edit.opens (by simp)

theorem harmless (edit : IsUnreadEdit grouped part other) :
    Text.Harmless [classOpening] part other := by
  have apart : ∀ sign ∈ [classOpening], ∀ c ∈ sign, c ∉ other := by
    intro sign mem c listed inOther
    rw [List.mem_singleton.mp mem] at listed
    exact edit.noClass c inOther listed
  refine ⟨edit.nonempty, ?_, ?_, ?_⟩
  · intro sign mem c inTail first
    exact apart sign mem c (List.mem_of_mem_tail inTail) (List.mem_of_head? first)
  · intro sign mem c inFront first
    exact apart sign mem c (List.mem_of_head? first) (List.mem_of_mem_dropLast inFront)
  · intro sign mem same
    have last : sign.head? = some (other.getLast edit.nonempty) := by
      rw [same, List.getLast?_eq_some_getLast]
    exact absurd (List.getLast_mem _) (apart sign mem _ (List.mem_of_head? last))

end IsUnreadEdit

/-- No edit begins at a sign or behind a backslash, so the reading goes on behind each one. -/
theorem Reads.edited (edited : Text.Edited (IsUnreadEdit grouped) old new)
    (reads : Reads false behind old operators) : Reads grouped behind new operators := by
  induction edited generalizing behind operators with
  | nil =>
      cases reads with
      | nil => exact .nil
  | keep c _ ih =>
      cases reads with
      | unread noSign further => exact .unread noSign (ih further)
      | slash further => exact .slash (ih further)
      | operator isOperator further => exact .operator isOperator (ih further)
      | switch isSwitch further => exact .switch isSwitch (ih further)
      | group written _ => cases written
  | write edit _ ih =>
      cases behind with
      | false => exact edit.reads (ih (reads.of_append edit.unread))
      | true =>
          rcases List.exists_cons_of_ne_nil edit.part_ne_nil with ⟨c, more, rfl⟩
          have noSign := edit.unread c (List.mem_cons_self ..)
          cases reads with
          | operator isOperator _ =>
              exact absurd (List.mem_cons_of_mem _ (isVimOperator_iff.mp isOperator)) noSign
          | switch isSwitch _ =>
              exact absurd (List.mem_cons_of_mem _ (List.mem_map_of_mem isSwitch)) edit.opens

/-- A text that reads as one with some operators and has no named class in it. -/
structure Carries (grouped : Bool) (operators text : Text) : Prop where
  reads : Reads grouped false text operators
  noClass : Text.Free [classOpening] text

namespace Carries

variable {rule : Substitution}

theorem edited (carries : Carries false operators old)
    (edited : Text.Edited (IsUnreadEdit grouped) old new) : Carries grouped operators new :=
  ⟨carries.reads.edited edited, edited.free (fun _ _ edit => edit.harmless) carries.noClass⟩

theorem everywhere (carries : Carries false operators text)
    (edits : rule.Edits (IsUnreadEdit grouped)) :
    Carries grouped operators (rule.everywhere text) :=
  carries.edited (edits.everywhere text)

theorem unescaped (carries : Carries false operators text)
    (edits : rule.Edits (IsUnreadEdit grouped)) :
    Carries grouped operators (rule.unescaped text) :=
  carries.edited (edits.unescapedAfter none text)

end Carries

/-! ## The rules for quantifiers, switches and groups -/

/-- What these rules write without any sign, and in the place of what. -/
def signlessEdits : List (Text × Text) :=
  [(['*', '?'], ['{', '-', '}']), (['+', '?'], ['{', '-', '1', ',', '}']),
    (['?', '?'], ['{', '-', '0', ',', '1', '}']), (['{'], ['{', '-']), (['}', '?'], ['}']),
    ([')'], [')'])]

theorem isUnreadEdit_of_mem (listed : (part, other) ∈ signlessEdits) :
    IsUnreadEdit grouped part other := by
  have all : ∀ entry ∈ signlessEdits, entry.1.head? ∉ [none, some 'c', some 'C'] ∧
      IsUnread entry.1 ∧ IsUnread entry.2 ∧ entry.2 ≠ [] ∧ ∀ c ∈ entry.2, c ∉ classOpening := by
    decide
  rcases all _ listed with ⟨opens, unread, otherUnread, nonempty, noClass⟩
  exact ⟨opens, unread, .append otherUnread, nonempty, noClass⟩

theorem carries_reluctantQuantifiers (carries : Carries false operators text) :
    Carries false operators (reluctantQuantifiers text) := by
  have star : reluctantStar.Edits (IsUnreadEdit false) :=
    edits_literal (isUnreadEdit_of_mem (by decide))
  have plus : reluctantPlus.Edits (IsUnreadEdit false) :=
    edits_literal (isUnreadEdit_of_mem (by decide))
  have option : reluctantOption.Edits (IsUnreadEdit false) :=
    edits_literal (isUnreadEdit_of_mem (by decide))
  have bounds : reluctantBounds.Edits (IsUnreadEdit false) := by
    apply Enclosure.edits_substitution
    · exact List.cons_ne_nil _ _
    · show IsUnreadEdit false ['{'] ['{', '-']
      exact isUnreadEdit_of_mem (by decide)
    · show IsUnreadEdit false ['}', '?'] ['}']
      exact isUnreadEdit_of_mem (by decide)
  exact (((carries.unescaped star).unescaped plus).unescaped option).unescaped bounds

/-- Each switch becomes a backslash and its letter. -/
theorem carries_caseSwitches (carries : Carries false operators text) :
    Carries false operators (caseSwitches text) := by
  have written : ∀ {part : Text} {letter : Char}, letter ∈ ['c', 'C'] →
      part.head? ∉ [none, some 'c', some 'C'] → IsUnread part →
        IsUnreadEdit false part ['\\', letter] := by
    intro part letter isSwitch opens unread
    have noClass : ∀ letter ∈ ['c', 'C'], ∀ c ∈ ['\\', letter], c ∉ classOpening := by decide
    exact ⟨opens, unread, fun reads => .slash (.switch isSwitch reads), List.cons_ne_nil _ _,
      noClass letter isSwitch⟩
  have off : IsUnreadEdit false ['(', '?', 'i', ')'] ['\\', 'c'] :=
    written (by decide) (by decide) (by decide)
  have on : IsUnreadEdit false ['(', '?', '-', 'i', ')'] ['\\', 'C'] :=
    written (by decide) (by decide) (by decide)
  exact (carries.everywhere (edits_literal off)).everywhere (edits_literal on)

/-- The name of a group stands between angle brackets. -/
theorem take_of_groupName? {taken : Nat} (named : groupName? text = some taken) :
    ∃ name, (∀ c ∈ name, Text.isWordChar c = true) ∧ text.take taken = '<' :: (name ++ ['>']) := by
  unfold groupName? at named
  split at named
  · next rest =>
      simp only at named
      split at named
      · next behind closed =>
          simp only [Option.ite_none_left_eq_some, Option.some.injEq] at named
          have word : ∀ c ∈ rest.takeWhile Text.isWordChar, Text.isWordChar c = true :=
            fun c mem => List.mem_takeWhile_imp mem
          rcases List.takeWhile_prefix Text.isWordChar with ⟨tail, whole⟩
          generalize rest.takeWhile Text.isWordChar = name at whole closed named word
          subst whole
          obtain rfl : tail = '>' :: behind := by simpa using closed
          refine ⟨name, word, ?_⟩
          rw [← named.2, List.take_succ_cons, List.append_cons, List.take_left' (by simp)]
      · cases named
  · cases named

/-- The opening of a named group is a parenthesis, a mark, the name and an angle bracket. -/
theorem eq_of_front_namedGroup {extra : Nat}
    (applies : namedGroup.front (c :: rest) = some (new, extra)) :
    c = '(' ∧ new = ['('] ∧ ∃ mark ∈ [['?', 'P', '<'], ['?', '<']], ∃ name,
      (∀ d ∈ name, Text.isWordChar d = true) ∧ rest.take extra = mark ++ (name ++ ['>']) := by
  unfold namedGroup at applies
  simp only at applies
  split at applies
  · next behind same =>
      rcases List.cons.inj same with ⟨rfl, rfl⟩
      rcases Option.map_eq_some_iff.mp applies with ⟨count, named, same⟩
      rcases take_of_groupName? named with ⟨name, word, part⟩
      cases same
      exact ⟨rfl, rfl, ['?', 'P', '<'], by decide, name, word, by simp [part]⟩
  · next behind _ same =>
      rcases List.cons.inj same with ⟨rfl, rfl⟩
      rcases Option.map_eq_some_iff.mp applies with ⟨count, named, same⟩
      rcases take_of_groupName? named with ⟨name, word, part⟩
      cases same
      exact ⟨rfl, rfl, ['?', '<'], by decide, name, word, by simp [part]⟩
  · cases applies

theorem edits_namedGroup : namedGroup.Edits (IsUnreadEdit false) := by
  have marks : ∀ mark ∈ [['?', 'P', '<'], ['?', '<']], IsUnread ('(' :: mark) := by decide
  have noWord : ∀ c ∈ readSigns, c ∈ Text.patternSigns := by decide
  intro c rest new extra applies
  rcases eq_of_front_namedGroup applies with ⟨rfl, rfl, mark, listed, name, word, part⟩
  apply Text.Edited.of_edit
  rw [part]
  refine ⟨by simp, ?_, .append (by decide), List.cons_ne_nil _ _, by decide⟩
  intro d mem
  rw [← List.cons_append] at mem
  rcases List.mem_append.mp mem with inMark | mem
  · exact marks mark listed d inMark
  · rcases List.mem_append.mp mem with inName | last
    · intro sign
      have isWord := word d inName
      simp [Text.isWordChar_eq_false d (noWord d sign)] at isWord
    · rw [List.mem_singleton.mp last]
      decide

/-- Groups that capture nothing are written with the rules' own percent signs. -/
theorem edits_bareGroup : bareGroup.Edits (IsUnreadEdit true) := by
  apply Enclosure.edits_substitution
  · exact List.cons_ne_nil _ _
  · show IsUnreadEdit true ['(', '?', ':'] ['%', '(']
    exact ⟨by decide, by decide, .group rfl, by decide, by decide⟩
  · show IsUnreadEdit true [')'] [')']
    exact isUnreadEdit_of_mem (by decide)

/-- All rules of the plain dialect together. -/
theorem carries_rules (plain : '\\' ∉ pattern) (noClass : ¬['[', '[', ':'] <:+: pattern) :
    ∃ carried, toVim .regular pattern = veryMagic ++ carried ∧
      Carries true (pattern.filter isVimOperator) carried := by
  have escaped : Carries false (pattern.filter isVimOperator) (pattern.flatMap vimForm) :=
    ⟨.flatMap_vimForm plain, free_escapedOperators (by decide) (free_classOpening noClass)⟩
  have quantified := carries_reluctantQuantifiers escaped
  have grouped := ((carries_caseSwitches quantified).everywhere edits_namedGroup).everywhere
    edits_bareGroup
  refine ⟨_, ?_, grouped⟩
  rw [toVim_regular, everywhere_vimOperator_eq_flatMap,
    wordBoundary_anchors_eq quantified.reads.free_escapes,
    characterCodes_eq grouped.reads.free_escapes,
    expandAll_eq (grouped.noClass _ (List.mem_singleton_self _))]

/-! ## What stands next to an operator -/

theorem Reads.beside (reads : Reads grouped behind text operators) {previous : Option Char}
    (state : behind = true → previous = some '\\') {before after : Text}
    (whole : text = before ++ c :: after) (isOperator : isVimOperator c = true) :
    before.getLast?.or previous = some '\\' ∨ c = '%' ∧ after.head? = some '(' := by
  induction reads generalizing before previous with
  | nil => simp at whole
  | unread noSign _ ih =>
      cases before with
      | nil =>
          obtain ⟨rfl, rfl⟩ := List.cons.inj whole
          exact absurd (List.mem_cons_of_mem _ (isVimOperator_iff.mp isOperator)) noSign
      | cons d more =>
          rw [getLast?_cons_or]
          exact ih (by simp) (List.cons.inj whole).2
  | slash _ ih =>
      cases before with
      | nil =>
          obtain ⟨rfl, _⟩ := List.cons.inj whole
          exact absurd isOperator (by decide)
      | cons d more =>
          obtain ⟨rfl, further⟩ := List.cons.inj whole
          rw [getLast?_cons_or]
          exact ih (fun _ => rfl) further
  | operator _ _ ih =>
      cases before with
      | nil => exact Or.inl (state rfl)
      | cons d more =>
          rw [getLast?_cons_or]
          exact ih (by simp) (List.cons.inj whole).2
  | switch isSwitch _ ih =>
      cases before with
      | nil => exact Or.inl (state rfl)
      | cons d more =>
          rw [getLast?_cons_or]
          exact ih (by simp) (List.cons.inj whole).2
  | group _ _ ih =>
      rcases before with _ | ⟨d, _ | ⟨e, more⟩⟩
      · obtain ⟨rfl, rfl⟩ := List.cons.inj whole
        exact Or.inr ⟨rfl, rfl⟩
      · obtain ⟨rfl, _⟩ := List.cons.inj (List.cons.inj whole).2
        exact absurd isOperator (by decide)
      · rw [getLast?_cons_or, getLast?_cons_or]
        exact ih (by simp) (List.cons.inj (List.cons.inj whole).2).2

theorem escapedOperators_slash (isOperator : isVimOperator c = true) (rest : Text) :
    escapedOperators ('\\' :: c :: rest) = c :: escapedOperators (c :: rest) := by
  simp [escapedOperators, isOperator]

theorem escapedOperators_skip (plain : previous ≠ '\\' ∨ isVimOperator c = false) (rest : Text) :
    escapedOperators (previous :: c :: rest) = escapedOperators (c :: rest) := by
  rcases plain with plain | plain <;> simp [escapedOperators, plain]

theorem Reads.escapedOperators_eq (reads : Reads grouped behind text operators)
    (state : previous = '\\' ↔ behind = true) :
    escapedOperators (previous :: text) = operators := by
  induction reads generalizing previous with
  | nil => rfl
  | unread noSign _ ih =>
      have plain : previous ≠ '\\' := by simpa using state
      rw [escapedOperators_skip (Or.inl plain)]
      exact ih (by simpa using ne_slash_of_unread noSign)
  | slash _ ih =>
      have plain : previous ≠ '\\' := by simpa using state
      rw [escapedOperators_skip (Or.inl plain)]
      exact ih (by simp)
  | operator isOperator _ ih =>
      obtain rfl : previous = '\\' := state.mpr rfl
      have next := ne_slash_of_operator isOperator
      rw [escapedOperators_slash isOperator, ih (by simpa using next)]
  | @switch c _ _ isSwitch _ ih =>
      have noOperator : ∀ c ∈ ['c', 'C'], isVimOperator c = false := by decide
      rw [escapedOperators_skip (Or.inr (noOperator c isSwitch))]
      exact ih (by simpa using ne_slash_of_switch isSwitch)
  | group _ _ ih =>
      have plain : previous ≠ '\\' := by simpa using state
      rw [escapedOperators_skip (Or.inl plain), escapedOperators_skip (Or.inl (by decide))]
      exact ih (by decide)

/-- A percent sign without a backslash is that of a group, all other operators have one, and those
with a backslash are the operators of the pattern. -/
theorem toVim_separates_signs (plain : '\\' ∉ pattern) (noClass : ¬['[', '[', ':'] <:+: pattern) :
    SignsApart pattern (toVim .regular pattern) := by
  rcases carries_rules plain noClass with ⟨carried, whole, carries⟩
  have beside : ∀ sign before after, isVimOperator sign = true →
      toVim .regular pattern = before ++ sign :: after →
        before.getLast? = some '\\' ∨ sign = '%' ∧ after.head? = some '(' := by
    intro sign before after isOperator split
    rw [whole, veryMagic, List.cons_append, List.singleton_append] at split
    -- The mark in front of the pattern is no operator.
    rcases before with _ | ⟨first, _ | ⟨second, more⟩⟩
    · obtain ⟨rfl, _⟩ := List.cons.inj split
      exact absurd isOperator (by decide)
    · obtain ⟨rfl, _⟩ := List.cons.inj (List.cons.inj split).2
      exact absurd isOperator (by decide)
    · have inside := (List.cons.inj (List.cons.inj split).2).2
      have last : (first :: second :: more).getLast?.or none = more.getLast?.or (some second) := by
        rw [getLast?_cons_or, getLast?_cons_or]
      rw [Option.or_none] at last
      rw [last]
      exact carries.reads.beside (fun escaped => Bool.noConfusion escaped) inside isOperator
  refine ⟨?_, ?_, ?_⟩
  · intro sign listed before after split
    have signs : ∀ sign ∈ ['@', '&'], isVimOperator sign = true ∧ sign ≠ '%' := by decide
    rcases signs sign listed with ⟨isOperator, other⟩
    exact (beside sign before after isOperator split).resolve_right fun group => other group.1
  · intro before after split
    exact (beside '%' before after rfl split).imp_right And.right
  · rw [whole, veryMagic, List.cons_append, List.singleton_append,
      escapedOperators_skip (Or.inr (by decide))]
    exact carries.reads.escapedOperators_eq (by decide)

/-- Operators of the pattern in front of a group, inside of it, behind it and behind a switch. -/
theorem toVim_separates_signs_in_group :
    '\\' ∉ "50%(?:a@(?<n>b)??)&(?i)%".toList ∧
      ¬['[', '[', ':'] <:+: "50%(?:a@(?<n>b)??)&(?i)%".toList ∧
      SignsApart "50%(?:a@(?<n>b)??)&(?i)%".toList
        (toVim .regular "50%(?:a@(?<n>b)??)&(?i)%".toList) := by
  have plain : '\\' ∉ "50%(?:a@(?<n>b)??)&(?i)%".toList := by decide
  have noClass : ¬['[', '[', ':'] <:+: "50%(?:a@(?<n>b)??)&(?i)%".toList := by decide
  exact ⟨plain, noClass, toVim_separates_signs plain noClass⟩

/-- Side by side the two percent signs stay apart. -/
example : toVim .regular "50%(?:a)".toList = "\\v50\\%%(a)".toList := by decide +kernel

/-! ## Patterns without special syntax -/

/-- Without escapes, question marks and named classes a pattern only gets backslashes in front of
its operators. In the extended dialect that is so if no plus sign makes a quantifier possessive. -/
theorem toVim_unmarked (plain : '\\' ∉ pattern) (noMark : '?' ∉ pattern)
    (noClass : ¬['[', '[', ':'] <:+: pattern) :
    toVim .regular pattern = veryMagic ++ pattern.flatMap vimForm ∧
      ((∀ sign ∈ [['*', '+'], ['+', '+'], ['}', '+']], ¬sign <:+: pattern) →
        toVim .extended pattern = veryMagic ++ pattern.flatMap vimForm) := by
  have free := free_escapedOperators (by decide) (free_classOpening noClass)
  have reads : Reads false false (pattern.flatMap vimForm) (pattern.filter isVimOperator) :=
    .flatMap_vimForm plain
  have noMarkCarried : '?' ∉ pattern.flatMap vimForm := by
    intro mem
    rcases List.mem_flatMap.mp mem with ⟨c, inPattern, inForm⟩
    rcases mem_vimForm inForm with slash | rfl
    · exact absurd slash (by decide)
    · exact noMark inPattern
  have quantifiers : reluctantQuantifiers (pattern.flatMap vimForm) = pattern.flatMap vimForm :=
    reluctantQuantifiers_eq fun c _ => Text.not_infix (by simp) noMarkCarried
  have later := laterRules_eq reads.free_escapes (Text.not_infix (by simp) noMarkCarried)
    (free classOpening (List.mem_singleton_self _))
  constructor
  · rw [toVim_regular, everywhere_vimOperator_eq_flatMap, quantifiers, later]
  · intro apart
    have others : ∀ sign ∈ extendedSigns,
        sign ∈ [['*', '+'], ['+', '+'], ['}', '+']] ∨ '?' ∈ sign := by
      decide
    have freeOfSigns : Text.Free extendedSigns pattern := by
      intro sign mem
      rcases others sign mem with listed | mark
      · exact apart sign listed
      · exact Text.not_infix mark noMark
    have extended := extendedConstructs_eq (free_escapedOperators (by decide) freeOfSigns)
    rw [toVim_extended, everywhere_vimOperator_eq_flatMap, quantifiers, extended, later]

/-- Greedy quantifiers, bounds, groups, a set and all three operators, also side by side. -/
theorem toVim_unmarked_quantified :
    '\\' ∉ "(a|%@)*[&%]{2,3}b+".toList ∧ '?' ∉ "(a|%@)*[&%]{2,3}b+".toList ∧
      ¬['[', '[', ':'] <:+: "(a|%@)*[&%]{2,3}b+".toList ∧
      (∀ sign ∈ [['*', '+'], ['+', '+'], ['}', '+']], ¬sign <:+: "(a|%@)*[&%]{2,3}b+".toList) ∧
      toVim .regular "(a|%@)*[&%]{2,3}b+".toList =
        veryMagic ++ "(a|%@)*[&%]{2,3}b+".toList.flatMap vimForm ∧
      toVim .extended "(a|%@)*[&%]{2,3}b+".toList =
        veryMagic ++ "(a|%@)*[&%]{2,3}b+".toList.flatMap vimForm := by
  have plain : '\\' ∉ "(a|%@)*[&%]{2,3}b+".toList := by decide
  have noMark : '?' ∉ "(a|%@)*[&%]{2,3}b+".toList := by decide
  have noClass : ¬['[', '[', ':'] <:+: "(a|%@)*[&%]{2,3}b+".toList := by decide
  have apart : ∀ sign ∈ [['*', '+'], ['+', '+'], ['}', '+']],
      ¬sign <:+: "(a|%@)*[&%]{2,3}b+".toList := by
    decide
  have carried := toVim_unmarked plain noMark noClass
  exact ⟨plain, noMark, noClass, apart, carried.1, carried.2 apart⟩

end ProjectTags.Pattern
