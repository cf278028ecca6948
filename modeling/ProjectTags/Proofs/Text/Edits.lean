import Mathlib.Data.List.Infix
import ProjectTags.Proofs.Text.Substitution

/-!
# Edited texts

A text is edited by writing other texts in the place of some of its parts. A pass edits a text,
whichever places it leaves out, so what holds of every edited text holds after every pass.

An edit can bring about a text that was not there: inside of what it writes, or where that meets what
is in front of it or behind it. `Harmless` says of one edit that it does neither, and `Edited.free`
that a text which is free of some signs is still free of them after such edits.
-/

namespace ProjectTags

namespace Text

/-- A text with some of its parts written anew, each by an edit that is allowed. -/
inductive Edited (edit : Text → Text → Prop) : Text → Text → Prop
  | nil : Edited edit [] []
  | keep (c : Char) {old new : Text} (rest : Edited edit old new) :
      Edited edit (c :: old) (c :: new)
  | write {part other old new : Text} (allowed : edit part other) (rest : Edited edit old new) :
      Edited edit (part ++ old) (other ++ new)

namespace Edited

variable {edit : Text → Text → Prop} {part other old new oldRest newRest : Text}

theorem refl (edit : Text → Text → Prop) (text : Text) : Edited edit text text := by
  induction text with
  | nil => exact .nil
  | cons c rest ih => exact .keep c ih

theorem of_edit (allowed : edit part other) : Edited edit part other := by
  simpa using Edited.write allowed .nil

theorem append (first : Edited edit old new) (second : Edited edit oldRest newRest) :
    Edited edit (old ++ oldRest) (new ++ newRest) := by
  induction first with
  | nil => exact second
  | keep c _ ih => exact .keep c ih
  | write allowed _ ih =>
      rw [List.append_assoc, List.append_assoc]
      exact .write allowed ih

end Edited

/-! ## Texts that are free of some signs -/

/-- None of the signs occurs in the text. -/
def Free (signs : List Text) (text : Text) : Prop :=
  ∀ sign ∈ signs, ¬sign <:+: text

/-- Writing one text in the place of another brings about none of the signs: no sign goes on with
what is written, and none begins in it except where one with the same rest began before. -/
structure Harmless (signs : List Text) (part other : Text) : Prop where
  nonempty : other ≠ []
  begins : ∀ sign ∈ signs, ∀ c ∈ sign.tail, other.head? ≠ some c
  inside : ∀ sign ∈ signs, ∀ c ∈ other.dropLast, sign.head? ≠ some c
  ends : ∀ sign ∈ signs, sign.head? = other.getLast? →
    ∃ before ∈ signs, before.head? = part.getLast? ∧ before.tail = sign.tail

variable {signs : List Text} {edit : Text → Text → Prop} {part other old new text chunk : Text}

theorem Free.of_infix (free : Free signs text) (within : old <:+: text) : Free signs old :=
  fun sign mem inside => free sign mem (inside.trans within)

theorem infix_of_infix_append {first : Char} {others : Text} (absent : first ∉ chunk)
    (inside : first :: others <:+: chunk ++ text) : first :: others <:+: text := by
  induction chunk with
  | nil => exact inside
  | cons c more ih =>
      rw [List.mem_cons, not_or] at absent
      rw [List.cons_append, List.infix_cons_iff] at inside
      rcases inside with start | later
      · exact absurd (List.cons_prefix_cons.mp start).1 absent.1
      · exact ih absent.2 later

namespace Edited

/-- A beginning of the edited text that no edit can have begun was there before. -/
theorem prefix_of_prefix (edited : Edited edit old new) {start : Text}
    (foreign : ∀ part other, edit part other → other ≠ [] ∧ ∀ c ∈ start, other.head? ≠ some c)
    (begins : start <+: new) : start <+: old := by
  induction edited generalizing start with
  | nil => exact begins
  | keep c _ ih =>
      cases start with
      | nil => exact List.nil_prefix
      | cons d more =>
          rcases List.cons_prefix_cons.mp begins with ⟨rfl, behind⟩
          apply List.cons_prefix_cons.mpr ⟨rfl, ih ?_ behind⟩
          intro part other allowed
          have apart := foreign part other allowed
          exact ⟨apart.1, fun c mem => apart.2 c (List.mem_cons_of_mem _ mem)⟩
  | @write part other _ _ allowed _ _ =>
      rcases foreign part other allowed with ⟨nonempty, apart⟩
      cases start with
      | nil => exact List.nil_prefix
      | cons d more =>
          cases other with
          | nil => exact absurd rfl nonempty
          | cons c others =>
              rcases List.cons_prefix_cons.mp begins with ⟨rfl, _⟩
              exact absurd rfl (apart d (List.mem_cons_self ..))

end Edited

/-- A sign that occurs behind such an edit does not begin in what was written. -/
theorem Harmless.infix_of_infix_append (safe : Harmless signs part other)
    (free : Free signs (part ++ old)) {first : Char} {others : Text} (mem : first :: others ∈ signs)
    (moved : others <+: new → others <+: old) (inside : first :: others <:+: other ++ new) :
    first :: others <:+: new := by
  rw [← List.dropLast_append_getLast safe.nonempty, List.append_assoc,
    List.singleton_append] at inside
  have notInside : first ∉ other.dropLast := fun within => safe.inside _ mem first within rfl
  rcases List.infix_cons_iff.mp (Text.infix_of_infix_append notInside inside) with start | later
  · rcases List.cons_prefix_cons.mp start with ⟨atEnd, behind⟩
    have last : (first :: others).head? = other.getLast? := by
      rw [List.head?_cons, atEnd, List.getLast?_eq_some_getLast]
    rcases safe.ends _ mem last with ⟨before, beforeMem, beforeLast, sameTail⟩
    cases before with
    | nil => exact absurd List.nil_infix (free [] beforeMem)
    | cons c tail =>
        -- This sign began at the end of the part and went on behind it as the other one does.
        obtain rfl : tail = others := sameTail
        rcases List.getLast?_eq_some_iff.mp beforeLast.symm with ⟨init, rfl⟩
        rcases moved behind with ⟨rest, rfl⟩
        exact absurd ⟨init, rest, by simp⟩ (free _ beforeMem)
  · exact later

namespace Edited

theorem free (edited : Edited edit old new)
    (harmless : ∀ part other, edit part other → Harmless signs part other)
    (free : Free signs old) : Free signs new := by
  have moved : ∀ {old new : Text}, Edited edit old new → ∀ {first : Char} {others : Text},
      first :: others ∈ signs → others <+: new → others <+: old := by
    intro old new edited first others mem behind
    apply edited.prefix_of_prefix _ behind
    intro part other allowed
    exact ⟨(harmless part other allowed).nonempty, (harmless part other allowed).begins _ mem⟩
  induction edited with
  | nil => exact free
  | keep c rest ih =>
      intro sign mem inside
      rcases List.infix_cons_iff.mp inside with start | later
      · cases sign with
        | nil => exact free [] mem List.nil_infix
        | cons first others =>
            rcases List.cons_prefix_cons.mp start with ⟨rfl, behind⟩
            apply free _ mem
            exact (List.cons_prefix_cons.mpr ⟨rfl, moved rest mem behind⟩).isInfix
      · exact ih (free.of_infix (List.suffix_cons c _).isInfix) sign mem later
  | @write part _ old _ allowed rest ih =>
      intro sign mem inside
      cases sign with
      | nil => exact free [] mem List.nil_infix
      | cons first others =>
          have later := (harmless _ _ allowed).infix_of_infix_append free mem (moved rest mem) inside
          exact ih (free.of_infix (List.suffix_append part old).isInfix) _ mem later

end Edited

end Text

/-! ## Passes -/

namespace Substitution

variable {rule : Substitution} {edit : Text → Text → Prop} {c : Char} {rest new out : Text}
  {extra : Nat}

/-- Where the rule applies it edits the characters that it takes. -/
def Edits (rule : Substitution) (edit : Text → Text → Prop) : Prop :=
  ∀ c rest new extra, rule.front (c :: rest) = some (new, extra) →
    Text.Edited edit (c :: rest.take extra) new

theorem edits_literal {first : Char} {others new : Text} (allowed : edit (first :: others) new) :
    (literal first others new).Edits edit := by
  intro c rest written extra applies
  simp only [literal, Option.ite_none_right_eq_some, Bool.and_eq_true, decide_eq_true_eq,
    List.isPrefixOf_iff_prefix, Option.some.injEq, Prod.mk.injEq] at applies
  rcases applies with ⟨⟨rfl, ⟨behind, rfl⟩⟩, rfl, rfl⟩
  rw [List.take_left]
  exact .of_edit allowed

theorem Edits.cons_of_some (edits : rule.Edits edit)
    (applies : rule.front (c :: rest) = some (new, extra))
    (behind : Text.Edited edit (rest.drop extra) out) :
    Text.Edited edit (c :: rest) (new ++ out) := by
  simpa using (edits c rest new extra applies).append behind

theorem Edits.everywhere (edits : rule.Edits edit) (text : Text) :
    Text.Edited edit text (rule.everywhere text) := by
  induction size : text.length using Nat.strong_induction_on generalizing text with
  | _ bound ih =>
      cases text with
      | nil => exact .nil
      | cons c rest =>
          rw [List.length_cons] at size
          cases front : rule.front (c :: rest) with
          | none =>
              rw [everywhere_cons_of_none front]
              exact .keep c (ih rest.length (by omega) rest rfl)
          | some found =>
              rw [everywhere_cons_of_some front]
              apply edits.cons_of_some front
              apply ih (rest.drop found.2).length _ _ rfl
              rw [List.length_drop]
              omega

theorem Edits.unescapedAfter (edits : rule.Edits edit) (previous : Option Char) (text : Text) :
    Text.Edited edit text (rule.unescapedAfter previous text) := by
  induction size : text.length using Nat.strong_induction_on generalizing previous text with
  | _ bound ih =>
      cases text with
      | nil =>
          rw [unescapedAfter_nil]
          exact .nil
      | cons c rest =>
          rw [List.length_cons] at size
          have kept := Text.Edited.keep c (ih rest.length (by omega) (some c) rest rfl)
          cases front : rule.front (c :: rest) with
          | none =>
              rw [unescapedAfter_cons_of_none front]
              exact kept
          | some found =>
              by_cases escaped : previous = some '\\'
              · rw [escaped, unescapedAfter_cons_of_escaped front]
                exact kept
              · rw [unescapedAfter_cons_of_some front escaped]
                apply edits.cons_of_some front
                apply ih (rest.drop found.2).length _ _ _ rfl
                rw [List.length_drop]
                omega

end Substitution

end ProjectTags
