import Mathlib.Data.List.TakeWhile
import ProjectTags.Shell.Word

/-!
# Steps of reading a word

What the reader of words does at one place, by the character that stands there. Lines that are
joined at the place are skipped first, so each equation is about the cursor behind them. Whatever a
word has that gives way to a value becomes a part that is no text; `literal?` is the text of a word
that has no such part.
-/

namespace ProjectTags.Shell

open Region

/-- The cursor behind the lines that are joined at its place. -/
def Cursor.joined (cursor : Cursor) : Cursor :=
  { cursor with
    rest := (skipJoins cursor.rest).2
    line := cursor.line + (skipJoins cursor.rest).1 }

/-- The cursor behind some characters. -/
def Cursor.behind (cursor : Cursor) (count : Nat) : Cursor :=
  { cursor with
    rest := cursor.rest.drop count
    line := cursor.line + (cursor.rest.take count).count '\n' }

/-- The text of a word, unless a part of it gives way to a value. -/
def literal? : Word → Option Text
  | [] => some []
  | .text _ value :: others => (literal? others).map (value ++ ·)
  | _ :: _ => none

/-- Whether a dollar sign introduces something in front of a text. -/
def introduces (text : Text) : Bool :=
  match (skipJoins text).2 with
  | [] => false
  | c :: _ => c = '(' || c = '\x7b' || beginsName c || isSpecial c

variable {cursor after : Cursor} {inner : InnerReading} {steps : Nat} {region : Region}
  {text rest value : Text} {c : Char} {parts others : List Part} {part : Part} {quoted : Bool}

theorem literal?_pushText (quoted : Bool) (text : Text) (parts : List Part) :
    literal? (pushText quoted text parts) = (literal? parts).map (text ++ ·) := by
  unfold pushText
  split
  · split
    · simp [literal?, Function.comp_def]
    · simp [literal?]
  · simp [literal?]

theorem literal?_append (first second : List Part) :
    literal? (first ++ second) =
      (literal? first).bind fun text => (literal? second).map (text ++ ·) := by
  induction first with
  | nil => simp [literal?]
  | cons part first ih =>
      cases part with
      | text quoted value =>
          rw [List.cons_append, literal?, literal?, ih]
          cases literal? first <;> simp [Function.comp_def]
      | _ => rfl

theorem literal?_quotedParts (parts : List Part) :
    literal? (quotedParts parts) = literal? parts := by
  unfold quotedParts
  split
  · rfl
  · simp [literal?]

/-! ## Joined lines -/

theorem skipJoins_skipJoins (text : Text) :
    skipJoins (skipJoins text).2 = (0, (skipJoins text).2) := by
  fun_induction skipJoins text with
  | case1 rest ih => exact ih
  | case2 text other =>
     rw [skipJoins]
     exact other

theorem joined_joined (cursor : Cursor) : cursor.joined.joined = cursor.joined := by
  simp [Cursor.joined, skipJoins_skipJoins]

/-! ## One place -/

theorem run_remaining (cursor : Cursor) :
    remaining.run cursor = .ok (cursor.joined.rest, cursor.joined) := rfl

theorem run_advance (count : Nat) (cursor : Cursor) :
    (advance count).run cursor = .ok ((), cursor.behind count) := rfl

theorem run_peek (cursor : Cursor) :
    peek.run cursor = .ok (cursor.joined.rest.head?, cursor.joined) := rfl

theorem ok_bind {ε α β : Type} (value : α) (next : α → Except ε β) :
    (Except.ok value >>= next) = next value := rfl

theorem bind_eq_ok {ε α β : Type} {first : Except ε α} {next : α → Except ε β} {last : β} :
    (first >>= next) = .ok last ↔ ∃ value, first = .ok value ∧ next value = .ok last := by
  cases first <;> simp [bind, Except.bind]

theorem readParts_end (ends : region.endsAt cursor.joined.rest = true)
    (closed : cursor.joined.rest = [] → region.flaw? = none) :
    (readParts inner (steps + 1) region).run cursor = .ok (([], false), cursor.joined) := by
  change (remaining >>= _).run cursor = _
  simp only [StateT.run_bind, run_remaining, ok_bind, ends, if_true]
  by_cases empty : cursor.joined.rest = []
  · simp [empty, closed empty]
    rfl
  · simp [empty]
    rfl

theorem readParts_unclosed {flaw : Flaw} (empty : cursor.joined.rest = [])
    (opened : region.flaw? = some flaw) :
    (readParts inner (steps + 1) region).run cursor = .error ⟨cursor.joined.line, flaw⟩ := by
  change (remaining >>= _).run cursor = _
  simp only [StateT.run_bind, run_remaining, ok_bind, empty, Region.endsAt, if_true,
    List.isEmpty_nil, opened]
  rfl

theorem readParts_backslash (start : cursor.joined.rest = '\\' :: c :: rest)
    (inside : region.endsAt ('\\' :: c :: rest) = false) :
    (readParts inner (steps + 1) region).run cursor =
      (readParts inner steps region).run (cursor.joined.behind 2) >>= fun read =>
        .ok ((pushText true (if region.isEscapable c then [c] else ['\\', c]) read.1.1, true),
          read.2) := by
  change (remaining >>= _).run cursor = _
  simp only [StateT.run_bind, run_remaining, ok_bind, start, inside, Bool.false_eq_true, if_false,
    run_advance]
  rfl

theorem readParts_lastBackslash (start : cursor.joined.rest = ['\\'])
    (inside : region.endsAt ['\\'] = false) :
    (readParts inner (steps + 1) region).run cursor =
      .ok (([.text true ['\\']], true), cursor.joined.behind 1) := by
  change (remaining >>= _).run cursor = _
  simp only [StateT.run_bind, run_remaining, ok_bind, start, inside, Bool.false_eq_true, if_false,
    run_advance]
  rfl

theorem readParts_doubleQuote (start : cursor.joined.rest = '"' :: rest) :
    (readParts inner (steps + 1) .bare).run cursor =
      (readParts inner steps .quotes).run (cursor.joined.behind 1) >>= fun held =>
        (readParts inner steps .bare).run (held.2.behind 1) >>= fun read =>
          .ok ((quotedParts held.1.1 ++ read.1.1, true), read.2) := by
  change (remaining >>= _).run cursor = _
  simp only [StateT.run_bind, run_remaining, ok_bind, start]
  rfl

theorem readParts_singleQuote (start : cursor.joined.rest = '\'' :: rest) :
    (readParts inner (steps + 1) .bare).run cursor =
      readSingleQuoted.run (cursor.joined.behind 1) >>= fun own =>
        (readParts inner steps .bare).run own.2 >>= fun read =>
          .ok ((.text true own.1 :: read.1.1, true), read.2) := by
  change (remaining >>= _).run cursor = _
  simp only [StateT.run_bind, run_remaining, ok_bind, start]
  rfl

theorem readParts_backquote (start : cursor.joined.rest = '\x60' :: rest)
    (inside : region.endsAt ('\x60' :: rest) = false) (other : region ≠ .closing) :
    (readParts inner (steps + 1) region).run cursor =
      (readBackquotes inner steps region.isQuoted).run cursor.joined >>= fun own =>
        (readParts inner steps region).run own.2 >>= fun read =>
          .ok ((own.1 :: read.1.1, read.1.2), read.2) := by
  change (remaining >>= _).run cursor = _
  simp only [StateT.run_bind, run_remaining, ok_bind, start, inside, Bool.false_eq_true, if_false,
    other]
  rfl

theorem readParts_dollar (start : cursor.joined.rest = '$' :: rest)
    (inside : region.endsAt ('$' :: rest) = false) (other : region ≠ .closing) :
    (readParts inner (steps + 1) region).run cursor =
      (readDollar inner steps region).run (cursor.joined.behind 1) >>= fun own =>
        (readParts inner steps region).run own.2 >>= fun read =>
          .ok ((match own.1 with
            | some part => part :: read.1.1
            | none => pushText region.isQuoted ['$'] read.1.1, read.1.2), read.2) := by
  change (remaining >>= _).run cursor = _
  simp only [StateT.run_bind, run_remaining, ok_bind, start, inside, Bool.false_eq_true, if_false,
    other, run_advance]
  congr
  funext own
  congr
  funext read
  cases own.1 <;> rfl

/-- The characters that begin something in a word or in quotes. -/
def specialCharacters : Text := ['\\', '\'', '"', '\x60', '$', '(', ')']

theorem readParts_other (start : cursor.joined.rest = c :: rest)
    (inside : region.endsAt (c :: rest) = false) (other : c ∉ specialCharacters) :
    (readParts inner (steps + 1) region).run cursor =
      (readParts inner steps region).run
          (cursor.joined.behind (c :: rest.takeWhile isPlain).length) >>= fun read =>
        .ok ((pushText region.isQuoted (c :: rest.takeWhile isPlain) read.1.1, read.1.2),
          read.2) := by
  simp only [specialCharacters, List.mem_cons, List.not_mem_nil, or_false, not_or] at other
  rcases other with ⟨slash, single, double, back, dollar, opening, closing⟩
  change (remaining >>= _).run cursor = _
  simp only [StateT.run_bind, run_remaining, ok_bind, start, inside, Bool.false_eq_true, if_false]
  split
  case h_10 same =>
    cases same
    simp only [StateT.run_bind, run_advance, ok_bind]
    rfl
  all_goals simp_all

/-- Single quotes and parentheses stand for themselves between double quotes. -/
theorem readParts_mark (start : cursor.joined.rest = c :: rest) (mark : c ∈ ['\'', '(', ')']) :
    (readParts inner (steps + 1) .quotes).run cursor =
      (readParts inner steps .quotes).run (cursor.joined.behind 1) >>= fun read =>
        .ok ((pushText true [c] read.1.1, read.1.2), read.2) := by
  simp only [List.mem_cons, List.not_mem_nil, or_false] at mark
  change (remaining >>= _).run cursor = _
  rcases mark with rfl | rfl | rfl
  all_goals
    simp only [StateT.run_bind, run_remaining, ok_bind, start]
    rfl

/-! ## What a dollar sign introduces -/

theorem readDollar_of_not_introduces (plain : introduces cursor.rest = false) :
    (readDollar inner (steps + 1) region).run cursor = .ok (none, cursor.joined) := by
  rw [readDollar.eq_def]
  simp only [StateT.run_bind, run_peek, ok_bind]
  unfold introduces at plain
  cases found : cursor.joined.rest with
  | nil => rfl
  | cons c rest =>
      have here : (skipJoins cursor.rest).2 = c :: rest := found
      simp [here] at plain
      simp [plain]
      rfl

/-- What a dollar sign introduces is no text. -/
theorem exists_of_introduces {own : Option Part} (opens : introduces cursor.rest = true)
    (read : (readDollar inner (steps + 1) region).run cursor = .ok (own, after)) :
    ∃ part, own = some part ∧ ∀ others, literal? (part :: others) = none := by
  rw [readDollar.eq_def] at read
  simp only [StateT.run_bind, run_peek, ok_bind] at read
  unfold introduces at opens
  cases found : cursor.joined.rest with
  | nil =>
      have here : (skipJoins cursor.rest).2 = [] := found
      simp [here] at opens
  | cons c rest =>
      have here : (skipJoins cursor.rest).2 = c :: rest := found
      simp only [here, Bool.or_eq_true, decide_eq_true_eq] at opens
      rw [found, List.head?_cons] at read
      split at read
      case h_1 =>
        simp only [StateT.run_bind, run_advance, run_peek, ok_bind] at read
        split at read
        · simp only [StateT.run_bind, run_advance, ok_bind] at read
          rcases bind_eq_ok.mp read with ⟨expression, _, read⟩
          cases read
          exact ⟨_, rfl, fun _ => rfl⟩
        · rcases bind_eq_ok.mp read with ⟨command, _, read⟩
          cases read
          exact ⟨_, rfl, fun _ => rfl⟩
      case h_2 =>
        simp only [StateT.run_bind, run_advance, ok_bind] at read
        rcases bind_eq_ok.mp read with ⟨name, _, read⟩
        rcases bind_eq_ok.mp read with ⟨use, _, read⟩
        cases read
        exact ⟨_, rfl, fun _ => rfl⟩
      case h_3 d notOpening notBrace same =>
        cases same
        split at read
        · simp only [StateT.run_bind] at read
          rcases bind_eq_ok.mp read with ⟨name, _, read⟩
          cases read
          exact ⟨_, rfl, fun _ => rfl⟩
        · next noName =>
            split at read
            · cases read
              exact ⟨_, rfl, fun _ => rfl⟩
            · simp_all
      case h_4 nothing => cases nothing

theorem readDollar_cases {own : Option Part}
    (read : (readDollar inner (steps + 1) region).run cursor = .ok (own, after)) :
    (own = none ∧ introduces cursor.rest = false ∧ after = cursor.joined) ∨
      ∃ part, own = some part ∧ ∀ others, literal? (part :: others) = none := by
  cases opens : introduces cursor.rest with
  | false =>
      rw [readDollar_of_not_introduces opens] at read
      cases read
      exact Or.inl ⟨rfl, rfl, rfl⟩
  | true => exact Or.inr (exists_of_introduces opens read)

theorem readBackquotes_eq_ok
    (read : (readBackquotes inner steps quoted).run cursor = .ok (part, after)) :
    ∀ others, literal? (part :: others) = none := by
  cases steps with
  | zero => cases read
  | succ steps =>
      rw [readBackquotes.eq_def] at read
      simp only [StateT.run_bind] at read
      rcases bind_eq_ok.mp read with ⟨_, _, read⟩
      rcases bind_eq_ok.mp read with ⟨_, _, read⟩
      rcases bind_eq_ok.mp read with ⟨_, _, read⟩
      rcases bind_eq_ok.mp read with ⟨_, _, read⟩
      cases read
      exact fun _ => rfl

end ProjectTags.Shell
