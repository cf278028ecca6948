import ProjectTags.Pattern.Enclosure
import ProjectTags.Proofs.Text.Edits

/-!
# A pass over an enclosed part

Where a construct begins, a pass writes its body as it stands, up to the first closing text, and
goes on behind it. `Enclosure.closing` is that second half of the work: with it a pass can be
followed over the body one character at a time, and what is inside the body does not matter.
-/

namespace ProjectTags.Pattern

open Substitution

variable {close text chunk rest body others : Text} {c first second : Char}

/-! ## The body -/

theorem isPrefixOf_eq_false (apart : ¬close <+: text) : close.isPrefixOf text = false := by
  rw [← Bool.not_eq_true, List.isPrefixOf_iff_prefix]
  exact apart

theorem isPrefixOf_append (close rest : Text) : close.isPrefixOf (close ++ rest) = true :=
  List.isPrefixOf_iff_prefix.mpr (List.prefix_append close rest)

theorem upTo?_cons_of_not_close (apart : ¬close <+: c :: rest) (sameLine : c ≠ '\n') :
    upTo? close (c :: rest) = (upTo? close rest).map (c :: ·) := by
  simp [upTo?, isPrefixOf_eq_false apart, sameLine]

theorem upTo?_close (nonempty : close ≠ []) (rest : Text) :
    upTo? close (close ++ rest) = some [] := by
  cases close with
  | nil => exact absurd rfl nonempty
  | cons c others =>
      have fits := isPrefixOf_append (c :: others) rest
      rw [List.cons_append] at fits
      simp only [List.cons_append, upTo?, fits, if_true]

theorem isSome_upTo? (close : Text) (nonempty : close ≠ []) (sameLine : '\n' ∉ chunk)
    (rest : Text) :
    (upTo? close (chunk ++ (close ++ rest))).isSome := by
  induction chunk with
  | nil => simp [upTo?_close nonempty]
  | cons c more ih =>
      have later := ih fun mem => sameLine (List.mem_cons_of_mem _ mem)
      have firstSame : c ≠ '\n' := fun same => sameLine (by simp [same])
      simp only [List.cons_append, upTo?, firstSame, if_false]
      split
      · rfl
      · simpa using later

/-- The body stands in front of the first closing text. -/
theorem eq_of_upTo? (found : upTo? close text = some body) :
    ∃ rest, text = body ++ (close ++ rest) := by
  induction text generalizing body with
  | nil => simp [upTo?] at found
  | cons c rest ih =>
      simp only [upTo?] at found
      split at found
      · next fits =>
          cases found
          rcases List.isPrefixOf_iff_prefix.mp fits with ⟨behind, whole⟩
          exact ⟨behind, whole.symm⟩
      · split at found
        · cases found
        · obtain ⟨later, laterFound, rfl⟩ := Option.map_eq_some_iff.mp found
          rcases ih laterFound with ⟨behind, rfl⟩
          exact ⟨behind, rfl⟩

/-- Behind the body the closing text stands for the first time. -/
def IsShortest (close body : Text) : Prop :=
  ∀ shorter, shorter ++ close <+: body ++ close → shorter = body

theorem isShortest_nil (close : Text) : IsShortest close [] := by
  intro shorter inside
  have size := inside.length_le
  rw [List.length_append, List.nil_append] at size
  exact List.length_eq_zero_iff.mp (by omega)

theorem isShortest_cons_iff (apart : ¬close <+: c :: body ++ close) :
    IsShortest close (c :: body) ↔ IsShortest close body := by
  constructor
  · intro shortest shorter inside
    have whole := shortest (c :: shorter) (List.cons_prefix_cons.mpr ⟨rfl, inside⟩)
    exact (List.cons.inj whole).2
  · intro shortest shorter inside
    cases shorter with
    | nil => exact absurd inside apart
    | cons d more =>
        rcases List.cons_prefix_cons.mp inside with ⟨rfl, insideBody⟩
        rw [shortest more insideBody]

theorem upTo?_of_close (nonempty : close ≠ []) (here : close <+: text) :
    upTo? close text = some [] := by
  rcases here with ⟨behind, rfl⟩
  exact upTo?_close nonempty behind

theorem upTo?_lineBreak (apart : ¬close <+: '\n' :: rest) : upTo? close ('\n' :: rest) = none := by
  simp [upTo?, isPrefixOf_eq_false apart]

/-- The body is the shortest text on its line that a closing text follows. -/
theorem upTo?_eq_some_iff (nonempty : close ≠ []) :
    upTo? close text = some body ↔
      '\n' ∉ body ∧ body ++ close <+: text ∧ IsShortest close body := by
  induction text generalizing body with
  | nil => simp [upTo?, nonempty]
  | cons c rest ih =>
      by_cases here : close <+: c :: rest
      · rw [upTo?_of_close nonempty here, Option.some.injEq]
        constructor
        · rintro rfl
          exact ⟨List.not_mem_nil, here, isShortest_nil close⟩
        · rintro ⟨_, stands, shortest⟩
          exact shortest [] (List.prefix_of_prefix_length_le here stands (by simp))
      · have apart {more : Text} (stands : more ++ close <+: rest) :
            ¬close <+: c :: more ++ close := fun start =>
          here (start.trans (List.cons_prefix_cons.mpr ⟨rfl, stands⟩))
        by_cases lineBreak : c = '\n'
        · subst lineBreak
          rw [upTo?_lineBreak here]
          refine iff_of_false (by simp) ?_
          rintro ⟨sameLine, stands, _⟩
          cases body with
          | nil => exact here stands
          | cons d more =>
              rcases List.cons_prefix_cons.mp stands with ⟨rfl, _⟩
              exact sameLine (List.mem_cons_self ..)
        · rw [upTo?_cons_of_not_close here lineBreak, Option.map_eq_some_iff]
          constructor
          · rintro ⟨later, found, rfl⟩
            rcases ih.mp found with ⟨sameLine, stands, shortest⟩
            exact ⟨List.not_mem_cons_of_ne_of_not_mem (Ne.symm lineBreak) sameLine,
              List.cons_prefix_cons.mpr ⟨rfl, stands⟩,
              (isShortest_cons_iff (apart stands)).mpr shortest⟩
          · rintro ⟨sameLine, stands, shortest⟩
            cases body with
            | nil => exact absurd stands here
            | cons d more =>
                rcases List.cons_prefix_cons.mp stands with ⟨rfl, standsLater⟩
                refine ⟨more, ih.mpr ⟨?_, standsLater, ?_⟩, rfl⟩
                · exact fun mem => sameLine (List.mem_cons_of_mem _ mem)
                · exact (isShortest_cons_iff (apart standsLater)).mp shortest

theorem someUpTo?_eq (apart : ¬close <+: text) : someUpTo? close text = upTo? close text := by
  cases text with
  | nil => rfl
  | cons c rest =>
      by_cases lineBreak : c = '\n'
      · subst lineBreak
        simp [someUpTo?, upTo?, isPrefixOf_eq_false apart]
      · rw [upTo?_cons_of_not_close apart lineBreak]
        simp [someUpTo?, lineBreak]

theorem eq_of_someUpTo? (found : someUpTo? close text = some body) :
    ∃ rest, text = body ++ (close ++ rest) := by
  cases text with
  | nil => simp [someUpTo?] at found
  | cons c rest =>
      simp only [someUpTo?] at found
      split at found
      · cases found
      · obtain ⟨later, laterFound, rfl⟩ := Option.map_eq_some_iff.mp found
        rcases eq_of_upTo? laterFound with ⟨behind, rfl⟩
        exact ⟨behind, rfl⟩

namespace Enclosure

variable (enclosure : Enclosure) {before after : Text}

/-- A construct is its opening, its body and its closing text. -/
theorem eq_of_body? (found : enclosure.body? text = some body) :
    ∃ rest, text = enclosure.opening ++ (body ++ (enclosure.close ++ rest)) := by
  simp only [body?, Option.bind_eq_bind, Option.bind_eq_some_iff] at found
  rcases found with ⟨behind, dropped, bodyFound⟩
  have split : ∃ rest, behind = body ++ (enclosure.close ++ rest) := by
    split at bodyFound
    · exact eq_of_upTo? bodyFound
    · exact eq_of_someUpTo? bodyFound
  rcases split with ⟨rest, rfl⟩
  exact ⟨rest, Text.eq_append_of_dropPrefix? dropped⟩

/-- The body of a construct that may be empty. -/
theorem body?_eq_some_iff (empty : enclosure.mayBeEmpty = true) (nonempty : enclosure.close ≠ []) :
    enclosure.body? text = some body ↔ '\n' ∉ body ∧
      enclosure.opening ++ (body ++ enclosure.close) <+: text ∧ IsShortest enclosure.close body := by
  simp only [body?, empty, if_true, Option.bind_eq_bind, Option.bind_eq_some_iff]
  constructor
  · rintro ⟨rest, dropped, found⟩
    rcases (upTo?_eq_some_iff nonempty).mp found with ⟨sameLine, stands, shortest⟩
    rw [Text.eq_append_of_dropPrefix? dropped]
    exact ⟨sameLine, (List.prefix_append_right_inj _).mpr stands, shortest⟩
  · rintro ⟨sameLine, ⟨behind, rfl⟩, shortest⟩
    refine ⟨body ++ enclosure.close ++ behind, ?_, ?_⟩
    · rw [List.append_assoc enclosure.opening, Text.dropPrefix?_append]
    · exact (upTo?_eq_some_iff nonempty).mpr ⟨sameLine, List.prefix_append _ _, shortest⟩

theorem needs_substitution (before after : Text) :
    (enclosure.substitution before after).Needs enclosure.opening := by
  intro text found applies
  simp only [substitution, Option.bind_eq_bind, Option.bind_eq_some_iff] at applies
  rcases applies with ⟨body, bodyFound, _⟩
  rcases enclosure.eq_of_body? bodyFound with ⟨rest, rfl⟩
  exact List.prefix_append _ _

theorem needs_removal : enclosure.removal.Needs enclosure.opening := by
  intro text found applies
  simp only [removal, Option.bind_eq_bind, Option.bind_eq_some_iff] at applies
  rcases applies with ⟨body, bodyFound, _⟩
  rcases enclosure.eq_of_body? bodyFound with ⟨rest, rfl⟩
  exact List.prefix_append _ _

/-- A construct without its closing text is none. -/
theorem front_of_no_close (absent : ¬enclosure.close <:+: text) :
    (enclosure.substitution before after).front text = none := by
  cases found : enclosure.body? text with
  | none => simp [substitution, found]
  | some body =>
      rcases enclosure.eq_of_body? found with ⟨rest, rfl⟩
      exact absurd ⟨enclosure.opening ++ body, rest, by simp⟩ absent

/-- A construct is edited at its opening and at its closing text, and the body is kept. -/
theorem edits_substitution {edit : Text → Text → Prop} (nonempty : enclosure.opening ≠ [])
    (opens : edit enclosure.opening before) (closes : edit enclosure.close after) :
    (enclosure.substitution before after).Edits edit := by
  intro c rest new extra applies
  simp only [substitution, Option.bind_eq_bind, Option.bind_eq_some_iff, Option.pure_def,
    Option.some.injEq, Prod.mk.injEq] at applies
  rcases applies with ⟨body, found, rfl, rfl⟩
  rcases enclosure.eq_of_body? found with ⟨behind, whole⟩
  have taken : c :: rest.take (enclosure.opening.length + body.length + enclosure.close.length - 1) =
      enclosure.opening ++ (body ++ enclosure.close) := by
    cases opening : enclosure.opening with
    | nil => exact absurd opening nonempty
    | cons first others =>
        rw [opening, List.cons_append] at whole
        rcases List.cons.inj whole with ⟨rfl, rfl⟩
        have size : (c :: others).length + body.length + enclosure.close.length - 1 =
            (others ++ (body ++ enclosure.close)).length := by
          simp only [List.length_cons, List.length_append]
          omega
        have front : others ++ (body ++ (enclosure.close ++ behind)) =
            others ++ (body ++ enclosure.close) ++ behind := by
          simp
        rw [size, front, List.take_left, List.cons_append]
  rw [taken, List.append_assoc]
  exact (Text.Edited.of_edit opens).append ((Text.Edited.refl edit body).append (.of_edit closes))

/-- What a pass writes behind the opening of a construct: all up to the closing text, then what
stands for that, and what is behind it as elsewhere. -/
def closing (enclosure : Enclosure) (before after : Text) : Text → Text
  | [] => []
  | c :: rest =>
      if enclosure.close.isPrefixOf (c :: rest) then
        after ++ (enclosure.substitution before after).everywhere
          (rest.drop (enclosure.close.length - 1))
      else c :: enclosure.closing before after rest

theorem closing_cons_of_not_close (apart : ¬enclosure.close <+: c :: rest) :
    enclosure.closing before after (c :: rest) = c :: enclosure.closing before after rest := by
  simp [closing, isPrefixOf_eq_false apart]

theorem closing_close (nonempty : enclosure.close ≠ []) (rest : Text) :
    enclosure.closing before after (enclosure.close ++ rest) =
      after ++ (enclosure.substitution before after).everywhere rest := by
  cases closeEq : enclosure.close with
  | nil => exact absurd closeEq nonempty
  | cons c others =>
      have fits := isPrefixOf_append (c :: others) rest
      rw [List.cons_append] at fits
      simp [closing, closeEq, fits]

theorem closing_append (begins : enclosure.close = first :: others) (absent : first ∉ chunk) :
    enclosure.closing before after (chunk ++ rest) =
      chunk ++ enclosure.closing before after rest := by
  induction chunk with
  | nil => rfl
  | cons c more ih =>
      have apart : ¬enclosure.close <+: c :: (more ++ rest) := by
        rw [begins]
        intro start
        exact absent (by simp [(List.cons_prefix_cons.mp start).1])
      rw [List.cons_append, closing_cons_of_not_close enclosure apart,
        ih fun mem => absent (List.mem_cons_of_mem _ mem), List.cons_append]

/-- The pass inside a body that is copied, or elsewhere. -/
def passing (enclosure : Enclosure) (before after : Text) (copying : Bool) : Text → Text :=
  if copying then enclosure.closing before after
  else (enclosure.substitution before after).everywhere

theorem passing_append {otherFirst : Char} {moreOthers : Text} {copying : Bool}
    (opens : enclosure.opening = first :: others) (noOpening : first ∉ chunk)
    (closes : enclosure.close = otherFirst :: moreOthers) (noClose : otherFirst ∉ chunk) :
    enclosure.passing before after copying (chunk ++ rest) =
      chunk ++ enclosure.passing before after copying rest := by
  cases copying with
  | false =>
      have needs := enclosure.needs_substitution before after
      rw [opens] at needs
      exact needs.everywhere_append noOpening
  | true => exact closing_append enclosure closes noClose

theorem closing_of_upTo? (nonempty : enclosure.close ≠ [])
    (found : upTo? enclosure.close text = some body) :
    enclosure.closing before after text =
      body ++ after ++ (enclosure.substitution before after).everywhere
        (text.drop (body.length + enclosure.close.length)) := by
  induction text generalizing body with
  | nil => simp [upTo?] at found
  | cons c rest ih =>
      simp only [upTo?] at found
      split at found
      · next fits =>
          cases found
          have positive := List.length_pos_iff.mpr nonempty
          have drops : (c :: rest).drop enclosure.close.length =
              rest.drop (enclosure.close.length - 1) := by
            rw [← Nat.sub_add_cancel positive]
            simp
          simp [closing, fits, drops]
      · next misses =>
          split at found
          · cases found
          · obtain ⟨later, laterFound, rfl⟩ := Option.map_eq_some_iff.mp found
            simp [closing, misses, ih laterFound, Nat.add_right_comm]

/-- Where a construct begins and its end is on the line, its opening is written anew and the body
is gone over. -/
theorem everywhere_opening (opens : enclosure.opening ≠ []) (nonempty : enclosure.close ≠ [])
    (closed : (upTo? enclosure.close text).isSome)
    (filled : enclosure.mayBeEmpty = true ∨ ¬enclosure.close <+: text) :
    (enclosure.substitution before after).everywhere (enclosure.opening ++ text) =
      before ++ enclosure.closing before after text := by
  obtain ⟨body, found⟩ := Option.isSome_iff_exists.mp closed
  have bodyFound : enclosure.body? (enclosure.opening ++ text) = some body := by
    simp only [body?, Text.dropPrefix?_append, Option.bind_eq_bind, Option.bind_some]
    split
    · exact found
    · next notEmpty =>
        have apart := filled.resolve_left notEmpty
        rw [someUpTo?_eq apart, found]
  have applies : (enclosure.substitution before after).front (enclosure.opening ++ text) =
      some (before ++ body ++ after,
        enclosure.opening.length + body.length + enclosure.close.length - 1) := by
    simp [substitution, bodyFound]
  rw [closing_of_upTo? enclosure nonempty found]
  cases opening : enclosure.opening with
  | nil => exact absurd opening opens
  | cons c others =>
      rw [opening, List.cons_append] at applies
      rw [List.cons_append, everywhere_cons_of_some applies]
      have drops : (others ++ text).drop
          ((c :: others).length + body.length + enclosure.close.length - 1) =
            text.drop (body.length + enclosure.close.length) := by
        have size : (c :: others).length + body.length + enclosure.close.length - 1 =
            others.length + (body.length + enclosure.close.length) := by
          simp only [List.length_cons]
          omega
        rw [size, List.drop_append]
        simp
      rw [drops]
      simp

/-- A construct that one character closes and that has something in it. -/
theorem everywhere_enclosed {sign : Char} (opens : enclosure.opening ≠ [])
    (closes : enclosure.close = [sign]) (filled : chunk ≠ []) (absent : sign ∉ chunk)
    (sameLine : '\n' ∉ chunk) :
    (enclosure.substitution before after).everywhere
        (enclosure.opening ++ (chunk ++ sign :: rest)) =
      before ++ (chunk ++ (after ++ (enclosure.substitution before after).everywhere rest)) := by
  have nonempty : enclosure.close ≠ [] := by simp [closes]
  have closed := isSome_upTo? enclosure.close nonempty sameLine rest
  have apart : ¬enclosure.close <+: chunk ++ (enclosure.close ++ rest) := by
    cases chunk with
    | nil => exact absurd rfl filled
    | cons c more =>
        rw [closes]
        intro start
        exact absent (by simp [(List.cons_prefix_cons.mp start).1])
  have whole : (enclosure.substitution before after).everywhere
      (enclosure.opening ++ (chunk ++ (enclosure.close ++ rest))) =
        before ++ enclosure.closing before after (chunk ++ (enclosure.close ++ rest)) :=
    everywhere_opening enclosure opens nonempty closed (Or.inr apart)
  rw [closing_append enclosure closes absent, closing_close enclosure nonempty] at whole
  simpa only [closes, List.singleton_append] using whole

end Enclosure

end ProjectTags.Pattern
