import ProjectTags.Proofs.Text.Substitution
import ProjectTags.Proofs.Text.Utf8

/-!
# Substituting along the bytes of a text

A text is kept as its bytes, and a pass along it names its places by counting them. The pass keeps
two places: up to the first one all is written, and from the second one on it looks for the next
match. Behind a backslash only the second place moves on, by one character; what it has passed over
is written with the next match, in one piece.

A place inside a character would be a failure. There is none, because each place counts the bytes of
a beginning of the text. What is written already and what becomes of the rest are the same text
after every round (`Splits.result`), and the second place goes up with every round, so that the
rounds come to an end.
-/

namespace ProjectTags

namespace Utf8

/-- The text in front of a byte and the text from it on. A text is not cut inside a character or
behind its end. -/
def cut? : Nat → Text → Option (Text × Text)
  | 0, text => some ([], text)
  | _ + 1, [] => none
  | place + 1, c :: rest =>
      if (encodeChar c).length ≤ place + 1 then
        (cut? (place + 1 - (encodeChar c).length) rest).map fun (before, behind) =>
          (c :: before, behind)
      else none

/-- The text from one byte up to another. -/
def slice? (text : Text) (first stop : Nat) : Option Text :=
  if first ≤ stop then do
    let (_, behind) ← cut? first text
    let (inside, _) ← cut? (stop - first) behind
    return inside
  else none

/-- The byte behind the character at a byte; behind the end it is the next one. -/
def next? (text : Text) (place : Nat) : Option Nat := do
  let (_, behind) ← cut? place text
  return place + behind.head?.elim 1 fun c => (encodeChar c).length

variable {text : Text} {place next : Nat}

theorem length_encodeChar_pos (c : Char) : 0 < (encodeChar c).length :=
  List.length_pos_iff.mpr (encodeChar_ne_nil c)

@[simp]
theorem length_nil : length [] = 0 := rfl

@[simp]
theorem length_cons (c : Char) (rest : Text) :
    length (c :: rest) = (encodeChar c).length + length rest := by
  simp [length, encode]

@[simp]
theorem length_append (first second : Text) :
    length (first ++ second) = length first + length second := by
  simp [length]

theorem cut?_length (before behind : Text) :
    cut? (length before) (before ++ behind) = some (before, behind) := by
  induction before with
  | nil => simp [cut?]
  | cons c rest ih =>
      have positive := length_encodeChar_pos c
      obtain ⟨place, counted⟩ : ∃ place, (encodeChar c).length + length rest = place + 1 :=
        Nat.exists_eq_add_one.mpr (by omega)
      have fits : (encodeChar c).length ≤ place + 1 := by omega
      have left : place + 1 - (encodeChar c).length = length rest := by omega
      rw [length_cons, counted, List.cons_append, cut?, if_pos fits, left, ih]
      rfl

theorem slice?_length (before inside behind : Text) :
    slice? (before ++ (inside ++ behind)) (length before) (length (before ++ inside)) =
      some inside := by
  have inward : length (before ++ inside) - length before = length inside := by simp
  rw [slice?, if_pos (by simp), inward]
  simp [cut?_length]

theorem next?_length (before : Text) (c : Char) (rest : Text) :
    next? (before ++ c :: rest) (length before) = some (length (before ++ [c])) := by
  simp [next?, cut?_length]

theorem lt_of_next? (found : next? text place = some next) : place < next := by
  simp only [next?, Option.bind_eq_bind, Option.bind_eq_some_iff, Option.pure_def,
    Option.some.injEq] at found
  rcases found with ⟨⟨_, behind⟩, _, rfl⟩
  cases behind with
  | nil => simp
  | cons c rest => simp [length_encodeChar_pos]

end Utf8

namespace Substitution

/-- A place where a rule applies: its first byte and the byte behind it, and what the rule says. -/
structure Match where
  first : Nat
  stop : Nat
  new : Text

/-- The leftmost match from a byte on. -/
def matchFrom? (rule : Substitution) (text : Text) (start : Nat) : Option (Option Match) := do
  let (_, ahead) ← Utf8.cut? start text
  return (rule.seek? ahead).map fun hit =>
    let first := start + Utf8.length hit.before
    ⟨first, first + Utf8.length (hit.first :: hit.rest.take hit.extra), hit.new⟩

/-- The two places of a pass and what it has written. -/
structure Cursors where
  /-- Up to this byte all is written. -/
  copied : Nat
  /-- From this byte on the next match is looked for. -/
  start : Nat
  written : Text

namespace Cursors

/-- One round of a pass, if there is another match. It has no outcome at all if it would cut the
text inside a character. -/
def round (rule : Substitution) (text : Text) (cursors : Cursors) : Option (Option Cursors) :=
  if cursors.start ≤ Utf8.length text then do
    match ← rule.matchFrom? text cursors.start with
    | none => return none
    | some found =>
        let next ← Utf8.next? text found.first
        let front ← Utf8.slice? text 0 found.first
        if front.getLast? = some '\\' then return some { cursors with start := next }
        else
          let passed ← Utf8.slice? text cursors.copied found.first
          return some ⟨found.stop, if found.first = found.stop then next else found.stop,
            cursors.written ++ passed ++ found.new⟩
  else return none

variable {rule : Substitution} {text done passed ahead : Text} {cursors further : Cursors}

theorem le_first_of_matchFrom? {start : Nat} {found : Match}
    (search : rule.matchFrom? text start = some (some found)) :
    start ≤ found.first ∧ found.first < found.stop := by
  simp only [matchFrom?, Option.bind_eq_bind, Option.bind_eq_some_iff, Option.pure_def,
    Option.some.injEq, Option.map_eq_some_iff] at search
  rcases search with ⟨_, _, hit, _, rfl⟩
  have positive := Utf8.length_encodeChar_pos hit.first
  simp only [Utf8.length_cons]
  omega

/-- The second place goes up with every round and is in the text before. -/
theorem lt_start_of_round (goesOn : cursors.round rule text = some (some further)) :
    cursors.start ≤ Utf8.length text ∧ cursors.start < further.start := by
  unfold round at goesOn
  split at goesOn
  · next within =>
      refine ⟨within, ?_⟩
      simp only [Option.bind_eq_bind, Option.bind_eq_some_iff, Option.pure_def] at goesOn
      rcases goesOn with ⟨outcome, search, goesOn⟩
      cases outcome with
      | none => simp at goesOn
      | some found =>
          rcases le_first_of_matchFrom? search with ⟨behindStart, nonempty⟩
          simp only [Option.bind_eq_some_iff] at goesOn
          rcases goesOn with ⟨next, nextFound, front, _, goesOn⟩
          have further := Utf8.lt_of_next? nextFound
          split at goesOn
          · simp only [Option.some.injEq] at goesOn
            subst goesOn
            simp only
            omega
          · simp only [Option.bind_eq_some_iff, Option.some.injEq] at goesOn
            rcases goesOn with ⟨_, _, rfl⟩
            simp only
            split <;> omega
  · simp at goesOn

/-- All rounds of a pass; then the rest of the text is written. -/
def run (rule : Substitution) (text : Text) (cursors : Cursors) : Option Text :=
  match _ : cursors.round rule text with
  | none => none
  | some none =>
      (Utf8.cut? cursors.copied text).map fun (_, rest) => cursors.written ++ rest
  | some (some further) => further.run rule text
termination_by Utf8.length text + 1 - cursors.start
decreasing_by
  have progress := lt_start_of_round ‹_›
  omega

/-- The text is parted by the two places of a pass, and what is written already goes on to the
result of the whole. -/
structure Splits (rule : Substitution) (text : Text) (cursors : Cursors)
    (done passed ahead : Text) : Prop where
  whole : text = done ++ (passed ++ ahead)
  copied : cursors.copied = Utf8.length done
  start : cursors.start = Utf8.length (done ++ passed)
  result : cursors.written ++ (passed ++ rule.unescapedAfter (done ++ passed).getLast? ahead) =
    rule.unescaped text

theorem Splits.start_le (splits : Splits rule text cursors done passed ahead) :
    cursors.start ≤ Utf8.length text := by
  rw [splits.start, splits.whole, ← List.append_assoc, Utf8.length_append (done ++ passed)]
  exact Nat.le_add_right _ _

theorem Splits.matchFrom?_eq (splits : Splits rule text cursors done passed ahead) :
    rule.matchFrom? text cursors.start = some ((rule.seek? ahead).map fun hit =>
      ⟨Utf8.length (done ++ passed ++ hit.before),
        Utf8.length (done ++ passed ++ hit.before ++ hit.first :: hit.rest.take hit.extra),
        hit.new⟩) := by
  have cut : Utf8.cut? cursors.start text = some (done ++ passed, ahead) := by
    rw [splits.start, splits.whole, ← List.append_assoc, Utf8.cut?_length]
  simp only [matchFrom?, cut, Option.bind_eq_bind, Option.bind_some, Option.pure_def]
  simp only [splits.start, Utf8.length_append]

/-- A round with a match cuts the text only between characters. -/
theorem Splits.round_eq_of_hit (splits : Splits rule text cursors done passed ahead) {hit : Hit}
    (search : rule.seek? ahead = some hit) :
    let front := done ++ passed ++ hit.before
    let behind := Utf8.length (front ++ hit.first :: hit.rest.take hit.extra)
    cursors.round rule text = some (some
      (if front.getLast? = some '\\' then
        { cursors with start := Utf8.length (front ++ [hit.first]) }
      else ⟨behind, behind, cursors.written ++ (passed ++ hit.before) ++ hit.new⟩)) := by
  intro front behind
  have whole : text = front ++ hit.first :: hit.rest := by
    simp [front, splits.whole, seek?_splits search]
  have found := splits.matchFrom?_eq
  rw [search, Option.map_some] at found
  have next : Utf8.next? text (Utf8.length front) = some (Utf8.length (front ++ [hit.first])) := by
    rw [whole, Utf8.next?_length]
  have before : Utf8.slice? text 0 (Utf8.length front) = some front := by
    rw [whole]
    exact Utf8.slice?_length [] front _
  have passes : Utf8.slice? text cursors.copied (Utf8.length front) =
      some (passed ++ hit.before) := by
    have parted : text = done ++ (passed ++ hit.before ++ hit.first :: hit.rest) := by
      simp [whole, front]
    have place : Utf8.length front = Utf8.length (done ++ (passed ++ hit.before)) := by
      simp only [front, List.append_assoc]
    rw [splits.copied, place, parted, Utf8.slice?_length]
  have nonempty : Utf8.length front ≠ behind := by
    have positive := Utf8.length_encodeChar_pos hit.first
    simp only [behind, Utf8.length_append front, Utf8.length_cons]
    omega
  rw [round, if_pos splits.start_le, found]
  simp only [Option.bind_eq_bind, Option.bind_some, Option.pure_def]
  rw [next, before, passes]
  simp only [Option.bind_some, behind, front] at nonempty ⊢
  rw [if_neg nonempty]
  split <;> rfl

/-- A match behind a backslash is passed over with its first character alone. -/
theorem Splits.of_escaped (splits : Splits rule text cursors done passed ahead) {hit : Hit}
    (search : rule.seek? ahead = some hit)
    (escaped : (done ++ passed ++ hit.before).getLast? = some '\\') :
    Splits rule text
      { cursors with start := Utf8.length (done ++ passed ++ hit.before ++ [hit.first]) }
      done (passed ++ hit.before ++ [hit.first]) hit.rest where
  whole := by simp [splits.whole, seek?_splits search]
  copied := splits.copied
  start := by simp
  result := by
    have result := splits.result
    rw [List.getLast?_append] at escaped
    rw [unescapedAfter_of_hit search, if_pos escaped] at result
    simpa using result

/-- Any other match is written anew, after what was passed over. -/
theorem Splits.of_free (splits : Splits rule text cursors done passed ahead) {hit : Hit}
    (search : rule.seek? ahead = some hit)
    (free : (done ++ passed ++ hit.before).getLast? ≠ some '\\') :
    let behind := done ++ passed ++ hit.before ++ hit.first :: hit.rest.take hit.extra
    Splits rule text
      ⟨Utf8.length behind, Utf8.length behind,
        cursors.written ++ (passed ++ hit.before) ++ hit.new⟩
      behind [] (hit.rest.drop hit.extra) where
  whole := by simp [splits.whole, seek?_splits search]
  copied := rfl
  start := by simp
  result := by
    have result := splits.result
    rw [List.getLast?_append] at free
    rw [unescapedAfter_of_hit search, if_neg free] at result
    simpa [List.getLast?_append, List.getLast?_cons] using result

/-- A round either finds no match, and is the last one, or keeps the text parted. -/
theorem Splits.round_cases (splits : Splits rule text cursors done passed ahead) :
    (rule.seek? ahead = none ∧ cursors.round rule text = some none) ∨
      ∃ further done passed ahead, cursors.round rule text = some (some further) ∧
        Splits rule text further done passed ahead := by
  cases search : rule.seek? ahead with
  | none =>
      left
      simp [round, splits.start_le, splits.matchFrom?_eq, search]
  | some hit =>
      right
      have goesOn := splits.round_eq_of_hit search
      simp only at goesOn
      by_cases escaped : (done ++ passed ++ hit.before).getLast? = some '\\'
      · rw [if_pos escaped] at goesOn
        exact ⟨_, _, _, _, goesOn, splits.of_escaped search escaped⟩
      · rw [if_neg escaped] at goesOn
        exact ⟨_, _, _, _, goesOn, splits.of_free search escaped⟩

theorem Splits.run_eq (splits : Splits rule text cursors done passed ahead) :
    cursors.run rule text = some (rule.unescaped text) := by
  -- The induction is on the rounds that are left.
  fun_induction run rule text cursors generalizing done passed ahead with
  | case1 cursors failed =>
      rcases splits.round_cases with ⟨_, last⟩ | ⟨_, _, _, _, goesOn, _⟩
      · simp [failed] at last
      · simp [failed] at goesOn
  | case2 cursors ended =>
      rcases splits.round_cases with ⟨nowhere, _⟩ | ⟨_, _, _, _, goesOn, _⟩
      · have result := splits.result
        rw [unescapedAfter_of_nowhere nowhere] at result
        rw [splits.copied, splits.whole, Utf8.cut?_length, ← splits.whole, ← result]
        rfl
      · simp [ended] at goesOn
  | case3 cursors further goesOn ih =>
      rcases splits.round_cases with ⟨_, last⟩ | ⟨next, _, _, _, nextRound, nextSplits⟩
      · simp [goesOn] at last
      · rw [goesOn, Option.some.injEq, Option.some.injEq] at nextRound
        subst nextRound
        exact ih nextSplits

/-- A pass at its beginning. -/
def atStart : Cursors := ⟨0, 0, []⟩

/-- A pass over the bytes of a text comes to its end without a failure and writes what the rule
makes of the text behind no backslash. -/
theorem run_atStart (rule : Substitution) (text : Text) :
    atStart.run rule text = some (rule.unescaped text) := by
  have splits : Splits rule text atStart [] [] text := ⟨rfl, rfl, rfl, rfl⟩
  exact splits.run_eq

end Cursors

end Substitution

end ProjectTags
