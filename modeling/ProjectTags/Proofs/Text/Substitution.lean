import Mathlib.Data.List.Infix
import ProjectTags.Text.Substitution

/-!
# Passes along a text

A pass goes along a text one place at a time: where its rule does not apply one character is kept,
and where it applies the replacement is written and the characters that were taken are passed over.
These equations are all that is used of passes below.

Most rules apply only where some text stands. A pass with such a rule changes nothing where that
text, or one of its characters, is missing. Without backslashes both kinds of pass are the same.
-/

namespace ProjectTags.Substitution

variable {rule : Substitution} {c first second : Char} {chunk rest text new opening others : Text}
  {extra : Nat} {previous : Option Char}

/-! ## One place -/

theorem scan_eq (rule : Substitution) (taken : Nat) (text : Text) :
    rule.scan taken text = rule.everywhere (text.drop taken) := by
  induction taken generalizing text with
  | zero => rfl
  | succ fewer ih =>
      cases text with
      | nil => rfl
      | cons c rest => simpa [scan] using ih rest

@[simp]
theorem everywhere_nil (rule : Substitution) : rule.everywhere [] = [] := rfl

theorem everywhere_cons_of_none (misses : rule.front (c :: rest) = none) :
    rule.everywhere (c :: rest) = c :: rule.everywhere rest := by
  simp only [everywhere, scan, misses]

theorem everywhere_cons_of_some (applies : rule.front (c :: rest) = some (new, extra)) :
    rule.everywhere (c :: rest) = new ++ rule.everywhere (rest.drop extra) := by
  rw [← scan_eq]
  simp only [everywhere, scan, applies]

theorem unescapedAfter_of_nowhere (nowhere : rule.seek? text = none) :
    rule.unescapedAfter previous text = text := by
  rw [unescapedAfter]
  split
  · rfl
  · next hit found => simp [nowhere] at found

theorem unescapedAfter_of_hit {hit : Hit} (found : rule.seek? text = some hit) :
    rule.unescapedAfter previous text =
      if hit.before.getLast?.or previous = some '\\' then
        hit.before ++ hit.first :: rule.unescapedAfter (some hit.first) hit.rest
      else
        hit.before ++ hit.new ++
          rule.unescapedAfter ((hit.rest.take hit.extra).getLast?.or (some hit.first))
            (hit.rest.drop hit.extra) := by
  rw [unescapedAfter]
  split
  · next nowhere => simp [found] at nowhere
  · next other otherFound =>
      rw [found, Option.some.injEq] at otherFound
      subst otherFound
      rfl

@[simp]
theorem unescapedAfter_nil (rule : Substitution) (previous : Option Char) :
    rule.unescapedAfter previous [] = [] :=
  unescapedAfter_of_nowhere rfl

theorem getLast?_cons_or (c : Char) (before : Text) (previous : Option Char) :
    (c :: before).getLast?.or previous = before.getLast?.or (some c) := by
  cases before <;> simp [List.getLast?_cons]

/-- Where the rule does not apply the character is kept. -/
theorem unescapedAfter_cons_of_none (misses : rule.front (c :: rest) = none) :
    rule.unescapedAfter previous (c :: rest) = c :: rule.unescapedAfter (some c) rest := by
  cases later : rule.seek? rest with
  | none =>
      have nowhere : rule.seek? (c :: rest) = none := by simp [seek?, misses, later]
      rw [unescapedAfter_of_nowhere nowhere, unescapedAfter_of_nowhere later]
  | some hit =>
      have found : rule.seek? (c :: rest) = some { hit with before := c :: hit.before } := by
        simp [seek?, misses, later]
      rw [unescapedAfter_of_hit found, unescapedAfter_of_hit later]
      simp only [getLast?_cons_or]
      split <;> rfl

theorem seek?_of_applies (applies : rule.front (c :: rest) = some (new, extra)) :
    rule.seek? (c :: rest) = some ⟨[], c, rest, new, extra⟩ := by
  simp [seek?, applies]

/-- Where the rule applies behind a backslash the character is kept too. -/
theorem unescapedAfter_cons_of_escaped (applies : rule.front (c :: rest) = some (new, extra)) :
    rule.unescapedAfter (some '\\') (c :: rest) = c :: rule.unescapedAfter (some c) rest := by
  rw [unescapedAfter_of_hit (seek?_of_applies applies)]
  simp

theorem unescapedAfter_cons_of_some (applies : rule.front (c :: rest) = some (new, extra))
    (free : previous ≠ some '\\') :
    rule.unescapedAfter previous (c :: rest) =
      new ++ rule.unescapedAfter ((rest.take extra).getLast?.or (some c)) (rest.drop extra) := by
  rw [unescapedAfter_of_hit (seek?_of_applies applies)]
  simp [free]

/-! ## Without backslashes -/

/-- The character in front of any place is not a backslash, so no place is excepted. -/
theorem unescapedAfter_eq_everywhere (free : previous ≠ some '\\') (plain : '\\' ∉ text) :
    rule.unescapedAfter previous text = rule.everywhere text := by
  induction size : text.length using Nat.strong_induction_on generalizing previous text with
  | _ bound ih =>
      cases text with
      | nil => simp
      | cons c rest =>
          have first : some c ≠ some '\\' := by
            rintro same
            simp_all
          have others : '\\' ∉ rest := fun mem => plain (List.mem_cons_of_mem _ mem)
          cases front : rule.front (c :: rest) with
          | none =>
              rw [unescapedAfter_cons_of_none front, everywhere_cons_of_none front]
              rw [ih rest.length (by simp [← size]) first others rfl]
          | some found =>
              rcases found with ⟨new, extra⟩
              rw [unescapedAfter_cons_of_some front free, everywhere_cons_of_some front]
              have shorter : (rest.drop extra).length < bound := by
                rw [← size, List.length_drop, List.length_cons]
                omega
              rw [ih (rest.drop extra).length shorter ?_ ?_ rfl]
              · intro last
                rcases Option.or_eq_some_iff.mp last with taken | ⟨_, same⟩
                · exact others (List.mem_of_mem_take (List.mem_of_getLast? taken))
                · exact first same
              · exact fun mem => others (List.mem_of_mem_drop mem)

theorem unescaped_eq_everywhere (rule : Substitution) (plain : '\\' ∉ text) :
    rule.unescaped text = rule.everywhere text :=
  unescapedAfter_eq_everywhere (by simp) plain

/-! ## Where a rule does not apply -/

/-- A rule that applies only where a given text stands. -/
def Needs (rule : Substitution) (opening : Text) : Prop :=
  ∀ text found, rule.front text = some found → opening <+: text

theorem Needs.front_eq_none (needs : rule.Needs opening) (absent : ¬opening <+: text) :
    rule.front text = none := by
  cases front : rule.front text with
  | none => rfl
  | some found => exact absurd (needs text found front) absent

theorem everywhere_of_misses (misses : ∀ suffix, suffix <:+ text → rule.front suffix = none) :
    rule.everywhere text = text := by
  induction text with
  | nil => rfl
  | cons c rest ih =>
      rw [everywhere_cons_of_none (misses _ List.suffix_rfl)]
      rw [ih fun suffix inside => misses suffix (inside.trans (List.suffix_cons c rest))]

theorem unescapedAfter_of_misses (misses : ∀ suffix, suffix <:+ text → rule.front suffix = none) :
    rule.unescapedAfter previous text = text := by
  induction text generalizing previous with
  | nil => simp
  | cons c rest ih =>
      rw [unescapedAfter_cons_of_none (misses _ List.suffix_rfl)]
      rw [ih fun suffix inside => misses suffix (inside.trans (List.suffix_cons c rest))]

theorem foldl_everywhere_eq {rules : List Substitution}
    (fixed : ∀ rule ∈ rules, rule.everywhere text = text) :
    rules.foldl (fun text rule => rule.everywhere text) text = text := by
  induction rules with
  | nil => rfl
  | cons rule others ih =>
      rw [List.foldl_cons, fixed rule (List.mem_cons_self ..)]
      exact ih fun other mem => fixed other (List.mem_cons_of_mem _ mem)

theorem Needs.misses (needs : rule.Needs opening) (absent : ¬opening <:+: text) :
    ∀ suffix, suffix <:+ text → rule.front suffix = none := by
  intro suffix inside
  apply needs.front_eq_none
  intro start
  exact absent (start.isInfix.trans inside.isInfix)

theorem Needs.everywhere_of_absent (needs : rule.Needs opening) (absent : ¬opening <:+: text) :
    rule.everywhere text = text :=
  everywhere_of_misses (needs.misses absent)

theorem Needs.unescaped_of_absent (needs : rule.Needs opening) (absent : ¬opening <:+: text) :
    rule.unescaped text = text :=
  unescapedAfter_of_misses (needs.misses absent)

theorem Needs.everywhere_of_not_mem (needs : rule.Needs opening) (mem : c ∈ opening)
    (absent : c ∉ text) : rule.everywhere text = text :=
  needs.everywhere_of_absent fun inside => absent (inside.subset mem)

/-- A part in which the rule cannot begin to apply, whatever stands behind it. -/
def Spares (rule : Substitution) (chunk : Text) : Prop :=
  ∀ c more, c :: more <:+ chunk → ∀ rest, rule.front (c :: (more ++ rest)) = none

theorem Spares.tail {more : Text} (spares : rule.Spares (c :: more)) : rule.Spares more :=
  fun d others inside => spares d others (inside.trans (List.suffix_cons c more))

/-- A pass goes over such a part. -/
theorem Spares.everywhere_append (spares : rule.Spares chunk) (rest : Text) :
    rule.everywhere (chunk ++ rest) = chunk ++ rule.everywhere rest := by
  induction chunk with
  | nil => rfl
  | cons c more ih =>
      rw [List.cons_append, everywhere_cons_of_none (spares c more List.suffix_rfl rest),
        ih spares.tail, List.cons_append]

theorem Spares.unescapedAfter_append (spares : rule.Spares chunk) (rest : Text) :
    rule.unescapedAfter previous (chunk ++ rest) =
      chunk ++ rule.unescapedAfter (chunk.getLast?.or previous) rest := by
  induction chunk generalizing previous with
  | nil => rfl
  | cons c more ih =>
      rw [List.cons_append, unescapedAfter_cons_of_none (spares c more List.suffix_rfl rest),
        ih spares.tail, getLast?_cons_or, List.cons_append]

/-- Of the character in front of a text it matters only whether it is a backslash. -/
theorem unescapedAfter_of_plain (plain : previous ≠ some '\\') (text : Text) :
    rule.unescapedAfter previous text = rule.unescaped text := by
  rw [unescaped]
  cases found : rule.seek? text with
  | none => rw [unescapedAfter_of_nowhere found, unescapedAfter_of_nowhere found]
  | some hit =>
      rw [unescapedAfter_of_hit found, unescapedAfter_of_hit found]
      cases hit.before.getLast? with
      | none => simp [plain]
      | some last => rfl

theorem Spares.unescaped_append (spares : rule.Spares chunk) (last : chunk.getLast? ≠ some '\\')
    (rest : Text) : rule.unescaped (chunk ++ rest) = chunk ++ rule.unescaped rest := by
  rw [unescaped, spares.unescapedAfter_append, Option.or_none, unescapedAfter_of_plain last]

theorem Needs.spares (needs : rule.Needs (first :: others)) (absent : first ∉ chunk) :
    rule.Spares chunk := by
  intro c more inside rest
  apply needs.front_eq_none
  intro start
  exact absent (inside.subset (by simp [(List.cons_prefix_cons.mp start).1]))

theorem Needs.everywhere_append (needs : rule.Needs (first :: others)) (absent : first ∉ chunk) :
    rule.everywhere (chunk ++ rest) = chunk ++ rule.everywhere rest :=
  (needs.spares absent).everywhere_append rest

/-- The same if the second character is missing, in the part and directly behind it. -/
theorem Needs.everywhere_append_of_second (needs : rule.Needs (first :: second :: others))
    (absent : second ∉ chunk) (next : rest.head? ≠ some second) :
    rule.everywhere (chunk ++ rest) = chunk ++ rule.everywhere rest := by
  induction chunk with
  | nil => rfl
  | cons c more ih =>
      have misses : rule.front (c :: (more ++ rest)) = none := by
        apply needs.front_eq_none
        rintro start
        rcases List.cons_prefix_cons.mp start with ⟨_, startMore⟩
        have head : (more ++ rest).head? = some second := by
          rcases startMore with ⟨tail, whole⟩
          simp [← whole]
        cases more with
        | nil => exact next head
        | cons d others =>
            simp only [List.cons_append, List.head?_cons, Option.some.injEq] at head
            exact absent (by simp [head])
      rw [List.cons_append, everywhere_cons_of_none misses,
        ih fun mem => absent (List.mem_cons_of_mem _ mem), List.cons_append]

/-! ## Rules that lose a character -/

/-- Where the rule applies it writes the sign less often than it stood there. -/
def Loses (rule : Substitution) (sign : Char) : Prop :=
  ∀ text new extra, rule.front text = some (new, extra) →
    new.count sign < (text.take (extra + 1)).count sign

variable {sign : Char} {rules : List Substitution}

/-- Such a rule cannot apply without a trace. -/
theorem Loses.misses_or_count_lt (loses : rule.Loses sign) (text : Text) :
    (∀ suffix, suffix <:+ text → rule.front suffix = none) ∨
      (rule.everywhere text).count sign < text.count sign := by
  induction size : text.length using Nat.strong_induction_on generalizing text with
  | _ bound ih =>
      cases text with
      | nil =>
          left
          intro suffix inside
          rw [List.suffix_nil.mp inside]
          cases front : rule.front [] with
          | none => rfl
          | some found => simpa using loses [] found.1 found.2 front
      | cons c rest =>
          rw [List.length_cons] at size
          cases front : rule.front (c :: rest) with
          | none =>
              rw [everywhere_cons_of_none front]
              rcases ih rest.length (by omega) rest rfl with misses | fewer
              · left
                intro suffix inside
                rcases List.suffix_cons_iff.mp inside with rfl | later
                · exact front
                · exact misses suffix later
              · right
                rw [List.count_cons, List.count_cons]
                omega
          | some found =>
              rcases found with ⟨new, extra⟩
              right
              have fewer := loses _ new extra front
              have noMore : (rule.everywhere (rest.drop extra)).count sign ≤
                  (rest.drop extra).count sign := by
                have shorter : (rest.drop extra).length < bound := by
                  rw [List.length_drop]
                  omega
                rcases ih _ shorter _ rfl with misses | fewer
                · rw [everywhere_of_misses misses]
                · exact fewer.le
              calc (rule.everywhere (c :: rest)).count sign
                  = new.count sign + (rule.everywhere (rest.drop extra)).count sign := by
                    rw [everywhere_cons_of_some front, List.count_append]
                _ < ((c :: rest).take (extra + 1)).count sign +
                    ((c :: rest).drop (extra + 1)).count sign := by
                    rw [List.drop_succ_cons]
                    omega
                _ = (c :: rest).count sign := by
                    rw [← List.count_append, List.take_append_drop]

theorem foldl_misses_or_count_lt (loses : ∀ rule ∈ rules, rule.Loses sign) (text : Text) :
    (∀ rule ∈ rules, ∀ suffix, suffix <:+ text → rule.front suffix = none) ∨
      (rules.foldl (fun text rule => rule.everywhere text) text).count sign < text.count sign := by
  induction rules generalizing text with
  | nil => simp
  | cons rule others ih =>
      have later := ih fun other mem => loses other (List.mem_cons_of_mem _ mem)
      rw [List.foldl_cons, List.forall_mem_cons]
      rcases (loses rule (List.mem_cons_self ..)).misses_or_count_lt text with misses | fewer
      · rw [everywhere_of_misses misses]
        exact (later text).imp_left fun others => ⟨misses, others⟩
      · right
        rcases later (rule.everywhere text) with none | fewerStill
        · rwa [foldl_everywhere_eq fun other mem => everywhere_of_misses (none other mem)]
        · exact fewerStill.trans fewer

/-- What one pass has changed no later pass restores. -/
theorem foldl_everywhere_eq_iff (loses : ∀ rule ∈ rules, rule.Loses sign) :
    rules.foldl (fun text rule => rule.everywhere text) text = text ↔
      ∀ rule ∈ rules, ∀ suffix, suffix <:+ text → rule.front suffix = none := by
  constructor
  · intro same
    rcases foldl_misses_or_count_lt loses text with misses | fewer
    · exact misses
    · rw [same] at fewer
      exact absurd fewer (lt_irrefl _)
  · intro misses
    exact foldl_everywhere_eq fun rule mem => everywhere_of_misses (misses rule mem)

/-! ## Literal rules -/

theorem needs_literal (first : Char) (others new : Text) :
    (literal first others new).Needs (first :: others) := by
  intro text found applies
  cases text with
  | nil => simp [literal] at applies
  | cons c rest =>
      simp only [literal] at applies
      split at applies
      · next fits =>
          simp only [Bool.and_eq_true, decide_eq_true_eq, List.isPrefixOf_iff_prefix] at fits
          exact List.cons_prefix_cons.mpr ⟨fits.1.symm, fits.2⟩
      · cases applies

theorem front_literal (first : Char) (others new rest : Text) :
    (literal first others new).front (first :: (others ++ rest)) = some (new, others.length) := by
  simp [literal]

theorem everywhere_literal (first : Char) (others new rest : Text) :
    (literal first others new).everywhere (first :: (others ++ rest)) =
      new ++ (literal first others new).everywhere rest := by
  rw [everywhere_cons_of_some (front_literal first others new rest), List.drop_left]

end ProjectTags.Substitution
