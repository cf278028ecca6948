import Mathlib.Data.List.Forall2
import ProjectTags.Proofs.Shell.Literal
import ProjectTags.Proofs.Text.Pieces
import ProjectTags.Shell.Parser

/-!
# Lines with one simple command

The pieces of a script that are words wherever a blank or the end of the script follows. One after
the other, with blanks in front, they are the tokens of a line, as long as no text of the script is
announced and no word stands for another text. So a script of one line, which is a name with words
behind it and a redirection of the errors, is read as one simple command with these words.
-/

namespace ProjectTags.Shell

open Region

/-- The characters that begin something other than a word, or may do so. -/
def nonWordCharacters : Text := [' ', '\t', '#', '\n', '&', '|', ';', '(', ')', '<', '>', '\\']

/-- A piece of a script is read as a word. -/
structure IsWord (piece : Text) (word : Word) : Prop where
  begins : ∃ c others, piece = c :: others ∧ c ∉ nonWordCharacters
  read : ∀ inner (cursor : Cursor) behind, endsAt .bare behind = true →
    cursor.rest = piece ++ behind → ∃ quoted line,
      (readWord inner .bare).run cursor =
        .ok ((word, quoted), { cursor with rest := behind, line := line })

/-- A blank or nothing. -/
def Parted (behind : Text) : Prop :=
  behind = [] ∨ ∃ others, behind = ' ' :: others

/-- No token depends on what was read before. -/
structure Clean (cursor : Cursor) : Prop where
  announced : cursor.announced = []
  aliases : cursor.aliases = []
  expanding : cursor.expanding = []

variable {cursor after : Cursor} {inner : InnerReading} {steps line : Nat}
  {piece name text behind : Text} {word : Word} {words : List Word} {token : Token}
  {prospect : Prospect} {redirections : List Redirection} {quoted : Bool} {c : Char}

theorem Parted.ends (parted : Parted behind) : endsAt .bare behind = true := by
  rcases parted with rfl | ⟨others, rfl⟩ <;> rfl

/-! ## Pieces that are words -/

theorem joined_of_head? (other : cursor.rest.head? ≠ some '\\') : cursor.joined = cursor := by
  have alone : skipJoins cursor.rest = (0, cursor.rest) := by
    apply skipJoins.eq_2
    intro others same
    simp [same] at other
  simp [Cursor.joined, alone]

theorem head?_of_endsAt (ends : endsAt .bare text = true) : text.head? ≠ some '\\' := by
  intro head
  rcases text with _ | ⟨c, others⟩
  · cases head
  · cases head
    cases ends

theorem readParts_bare_end (ends : endsAt .bare cursor.rest = true) :
    (readParts inner (steps + 1) .bare).run cursor = .ok (([], false), cursor) := by
  have here : cursor.joined = cursor := joined_of_head? (head?_of_endsAt ends)
  rw [readParts_end (by rwa [here]) (fun _ => rfl), here]

theorem isWord_quoted (literal : isLiteral text = true) :
    IsWord ('"' :: (text ++ ['"'])) (quotedParts (heldParts text)) where
  begins := ⟨'"', _, rfl, by decide⟩
  read inner cursor behind ends start := by
    have here : cursor.joined = cursor := joined_of_head? (by simp [start])
    have opened : (cursor.behind 1).rest = text ++ '"' :: behind := by simp [Cursor.behind, start]
    have enough : (cursor.behind 1).rest.length < 4 * cursor.rest.length + 39 := by
      rw [opened, start]
      simp
      omega
    rcases gives_of_spelled inner (Or.inr rfl)
      (opened ▸ spelled_of_isLiteral literal behind) enough with ⟨parts, _, line, read, _, held⟩
    refine ⟨true, line, ?_⟩
    rw [run_readWord]
    change (readParts inner (4 * cursor.rest.length + 39 + 1) .bare).run cursor = _
    rw [readParts_doubleQuote (by rw [here, start]; rfl), here, read, ok_bind,
      readParts_bare_end (by exact ends), ok_bind, held rfl, List.append_nil]
    rfl

theorem readWord_plain (inner : InnerReading) (filled : text ≠ []) (plain : text.all isPlain = true)
    (ends : endsAt .bare behind = true) (start : cursor.rest = text ++ behind) :
    ∃ line, (readWord inner .bare).run cursor =
      .ok (([.text false text], false), { cursor with rest := behind, line := line }) := by
  rcases text with _ | ⟨c, text⟩
  · exact absurd rfl filled
  change cursor.rest = c :: (text ++ behind) at start
  have allPlain : ∀ d ∈ c :: text, isPlain d = true := by simpa using plain
  rcases not_mem_of_isPlain (allPlain c (List.mem_cons_self ..)) with ⟨other, within⟩
  have here : cursor.joined = cursor := joined_of_head? (by
    simp [specialCharacters] at other
    simp [start, other])
  have run : (text ++ behind).takeWhile isPlain = text := by
    rw [List.takeWhile_append_of_pos fun d mem => allPlain d (List.mem_cons_of_mem c mem)]
    rcases behind with _ | ⟨d, behind⟩
    · simp
    · have stops : isPlain d = false := by
        by_contra isPlain
        have := (not_mem_of_isPlain (by simpa using isPlain)).2
        simp [endsAt, this] at ends
      simp [stops]
  have rest : (cursor.behind (c :: text).length).rest = behind :=
    rest_behind (c :: text) start
  refine ⟨(cursor.behind (c :: text).length).line, ?_⟩
  rw [run_readWord]
  change (readParts inner (4 * cursor.rest.length + 39 + 1) .bare).run cursor = _
  rw [readParts_other (by rw [here]; exact start) (by exact within) other, here, run,
    readParts_bare_end (by rwa [rest]), ok_bind, ← rest]
  rfl

theorem isWord_plain (begins : text.head? ≠ some '#') (filled : text ≠ [])
    (plain : text.all isPlain = true) : IsWord text [.text false text] where
  begins := by
    rcases text with _ | ⟨c, text⟩
    · exact absurd rfl filled
    refine ⟨c, text, rfl, ?_⟩
    have first : isPlain c = true := by simp_all
    simp [isPlain, endsWord] at first
    simp at begins
    simp [nonWordCharacters, first, begins]
  read inner cursor behind ends start := by
    rcases readWord_plain inner filled plain ends start with ⟨line, read⟩
    exact ⟨false, line, read⟩

/-! ## Tokens -/

theorem readToken_blank (start : cursor.rest = ' ' :: behind) :
    (readToken inner .bare (steps + 1)).run cursor =
      (readToken inner .bare steps).run (cursor.behind 1) := by
  have here : cursor.joined = cursor := joined_of_head? (by simp [start])
  rw [readToken.eq_def]
  simp only [StateT.run_bind, run_peek, ok_bind, here, start, List.head?_cons, run_advance]

theorem readToken_end (start : cursor.rest = []) :
    (readToken inner .bare (steps + 1)).run cursor = .ok (.endOfText, cursor) := by
  have here : cursor.joined = cursor := joined_of_head? (by simp [start])
  rw [readToken.eq_def]
  simp only [StateT.run_bind, run_peek, ok_bind, here, start, List.head?_nil]
  rfl

theorem readToken_word (inner : InnerReading) (steps : Nat) (isWord : IsWord piece word)
    (parted : Parted behind) (start : cursor.rest = piece ++ behind) :
    ∃ quoted line, (readToken inner .bare (steps + 1)).run cursor =
      .ok (.word word quoted, { cursor with rest := behind, line := line }) := by
  rcases isWord.begins with ⟨c, others, rfl, begins⟩
  simp only [nonWordCharacters, List.mem_cons, List.not_mem_nil, or_false, not_or] at begins
  have here : cursor.joined = cursor := joined_of_head? (by simp [start, begins])
  rcases isWord.read inner cursor behind parted.ends start with ⟨quoted, line, read⟩
  set next : Cursor := { cursor with rest := behind, line := line }
  have parts : next.joined = next ∧ next.rest.head? ≠ some '<' ∧ next.rest.head? ≠ some '>' := by
    refine ⟨joined_of_head? (head?_of_endsAt parted.ends), ?_⟩
    rcases parted with rfl | ⟨others, rfl⟩ <;> simp [next]
  refine ⟨quoted, line, ?_⟩
  rw [readToken.eq_def]
  simp only [StateT.run_bind, run_peek, ok_bind, here, start, List.cons_append, List.head?_cons]
  split
  case h_13 =>
    simp only [StateT.run_bind, read, ok_bind, run_peek, parts.1]
    split
    · next digit sign same =>
        rw [same] at parts
        have noSign : sign ≠ '<' ∧ sign ≠ '>' := by simpa using parts.2
        simp [noSign]
        rfl
    · rfl
  all_goals simp_all

theorem readRedirection_write (start : cursor.rest = '>' :: c :: behind)
    (other : c ∉ ['>', '|', '&', '\\']) (descriptor : Nat) :
    (readRedirection (some descriptor)).run cursor =
      .ok (.redirection ⟨descriptor, .write, false⟩, cursor.behind 1) := by
  have here : cursor.joined = cursor := joined_of_head? (by simp [start])
  simp only [readRedirection, StateT.run_bind, run_remaining, ok_bind, here, start]
  split
  case h_4 => rfl
  all_goals simp_all

/-- The front of a redirection of the errors. -/
theorem readToken_errors (inner : InnerReading) (steps : Nat)
    (start : cursor.rest = '2' :: '>' :: c :: behind)
    (other : c ∉ ['>', '|', '&', '\\']) :
    ∃ line, (readToken inner .bare (steps + 1)).run cursor =
      .ok (.redirection ⟨2, .write, false⟩, { cursor with rest := c :: behind, line := line }) := by
  have here : cursor.joined = cursor := joined_of_head? (by simp [start])
  rcases readWord_plain inner (show ['2'] ≠ [] by simp) (by decide)
    (by rfl : endsAt .bare ('>' :: c :: behind) = true) start with ⟨line, read⟩
  set next : Cursor := { cursor with rest := '>' :: c :: behind, line := line }
  have hereNext : next.joined = next := joined_of_head? (by simp [next])
  refine ⟨(next.behind 1).line, ?_⟩
  rw [readToken.eq_def]
  simp only [StateT.run_bind, run_peek, ok_bind, here, start, List.head?_cons]
  split
  case h_13 =>
    have sign : next.rest.head? = some '>' := rfl
    simp only [StateT.run_bind, read, ok_bind, run_peek, hereNext, sign]
    exact readRedirection_write rfl other 2
  all_goals simp_all

theorem takeToken_pushed (pushed : cursor.pushed = some token) :
    (takeToken inner .bare).run cursor = .ok (token, { cursor with pushed := none }) := by
  simp only [takeToken, StateT.run_bind, StateT.run_get, pure_bind, pushed]
  rfl

theorem takeToken_read (pushed : cursor.pushed = none) :
    (takeToken inner .bare).run cursor =
      (readToken inner .bare (cursor.rest.length + 1)).run cursor := by
  simp only [takeToken, StateT.run_bind, StateT.run_get, pure_bind, pushed]

theorem aliasOf?_of_clean (clean : Clean cursor) :
    (aliasOf? text).run cursor = .ok (none, cursor) := by
  simp only [aliasOf?, StateT.run_bind, StateT.run_get, pure_bind, clean.expanding, clean.aliases]
  rfl

/-- The next token is what is taken, if it can be nothing else. -/
theorem nextToken_of_takeToken (clean : Clean cursor) (cleanAfter : Clean after)
    (take : (takeToken inner .bare).run cursor = .ok (token, after)) (inLine : token ≠ .newline)
    (unreserved : prospect.reserved = true →
      ∀ text, token = .word [.text false text] false → text ∉ reservedWords) :
    (nextToken inner prospect (steps + 1)).run cursor = .ok (token, after) := by
  rw [nextToken.eq_def]
  simp only [StateT.run_bind, StateT.run_get, pure_bind, take, ok_bind, clean.expanding]
  split
  · exact absurd rfl inLine
  · next text =>
      have free : (prospect.reserved && reservedWords.elem text) = false := by
        cases reserved : prospect.reserved with
        | false => rfl
        | true => simpa using unreserved reserved text rfl
      simp only [free, Bool.false_eq_true, if_false]
      split
      · simp only [StateT.run_bind, aliasOf?_of_clean cleanAfter, ok_bind]
        rfl
      · rfl
  · rfl

/-! ## Simple commands -/

theorem expect_of_takeToken (clean : Clean cursor) (cleanAfter : Clean after)
    (take : (takeToken (innerReading steps) .bare).run cursor = .ok (token, after))
    (inLine : token ≠ .newline)
    (unreserved : prospect.reserved = true →
      ∀ text, token = .word [.text false text] false → text ∉ reservedWords) :
    (expect (steps + 1) prospect).run cursor = .ok (token, after) := by
  rw [expect]
  simp only [StateT.run_bind, StateT.run_get, pure_bind]
  exact nextToken_of_takeToken clean cleanAfter take inLine unreserved

theorem expect_word (steps : Nat) (prospect : Prospect) (clean : Clean cursor)
    (pushed : cursor.pushed = none) (isWord : IsWord piece word) (parted : Parted behind)
    (start : cursor.rest = ' ' :: (piece ++ behind))
    (unreserved : prospect.reserved = false) :
    ∃ quoted line, (expect (steps + 1) prospect).run cursor =
      .ok (.word word quoted, { cursor with rest := behind, line := line }) := by
  have opened : (cursor.behind 1).rest = piece ++ behind := by simp [Cursor.behind, start]
  rcases readToken_word (innerReading steps) (piece ++ behind).length isWord parted opened with
    ⟨quoted, line, read⟩
  refine ⟨quoted, line, expect_of_takeToken clean ⟨clean.1, clean.2, clean.3⟩ ?_ (by simp)
    (by simp [unreserved])⟩
  rw [takeToken_read pushed, readToken_blank start, start]
  exact read

theorem expect_pushed (steps : Nat) (prospect : Prospect) (clean : Clean cursor)
    (pushed : cursor.pushed = some token) (inLine : token ≠ .newline)
    (unreserved : prospect.reserved = false) :
    (expect (steps + 1) prospect).run cursor = .ok (token, { cursor with pushed := none }) :=
  expect_of_takeToken clean ⟨clean.1, clean.2, clean.3⟩ (takeToken_pushed pushed) inLine
    (by simp [unreserved])

theorem expect_end (clean : Clean cursor) (pushed : cursor.pushed = none)
    (start : cursor.rest = []) :
    (expect (steps + 1) prospect).run cursor = .ok (.endOfText, cursor) := by
  refine expect_of_takeToken clean clean ?_ (by simp) (by simp)
  rw [takeToken_read pushed, readToken_end start]

theorem readSimple_word (steps line : Nat) (clean : Clean cursor)
    (pushed : cursor.pushed = none) (isWord : IsWord piece word) (parted : Parted behind)
    (start : cursor.rest = ' ' :: (piece ++ behind)) (filled : words ≠ []) :
    ∃ later, (readSimple (steps + 2) line [] words []).run cursor =
      (readSimple (steps + 1) line [] (words ++ [word]) []).run
        { cursor with rest := behind, line := later } := by
  rcases expect_word steps ⟨false, false, words.isEmpty⟩ clean pushed isWord parted start rfl with
    ⟨quoted, later, read⟩
  refine ⟨later, ?_⟩
  rw [readSimple.eq_def]
  simp only [StateT.run_bind, read, ok_bind]
  simp [filled]

/-- Pieces of a line, each behind a blank. -/
def spaced (pieces : List Text) : Text :=
  pieces.flatMap (' ' :: ·)

theorem spaced_cons (piece : Text) (pieces : List Text) :
    spaced (piece :: pieces) = ' ' :: (piece ++ spaced pieces) := rfl

theorem spaced_append (first second : List Text) :
    spaced (first ++ second) = spaced first ++ spaced second :=
  List.flatMap_append

theorem spaced_flatMap {α : Type} (items : List α) (pieces : α → List Text) :
    spaced (items.flatMap pieces) = items.flatMap fun item => spaced (pieces item) :=
  List.flatMap_assoc

theorem parted_spaced (pieces : List Text) (parted : Parted behind) :
    Parted (spaced pieces ++ behind) := by
  rcases pieces with _ | ⟨piece, pieces⟩
  · exact parted
  · exact Or.inr ⟨_, rfl⟩

theorem length_le_spaced (pieces : List Text) : pieces.length ≤ (spaced pieces).length := by
  induction pieces with
  | nil => exact le_refl _
  | cons piece pieces ih =>
      simp only [spaced, List.flatMap_cons, List.length_append, List.length_cons] at ih ⊢
      omega

theorem readSimple_words (steps line : Nat) {pieces : List Text} {others : List Word}
    (all : List.Forall₂ IsWord pieces others) (clean : Clean cursor)
    (pushed : cursor.pushed = none) (parted : Parted behind)
    (start : cursor.rest = spaced pieces ++ behind) (filled : words ≠ []) :
    ∃ later, (readSimple (steps + pieces.length + 1) line [] words []).run cursor =
      (readSimple (steps + 1) line [] (words ++ others) []).run
        { cursor with rest := behind, line := later } := by
  induction all generalizing cursor words with
  | nil =>
      have here : cursor.rest = behind := start
      refine ⟨cursor.line, ?_⟩
      rw [List.append_nil, ← here]
      rfl
  | @cons piece word pieces others isWord _ ih =>
      have start : cursor.rest = ' ' :: (piece ++ (spaced pieces ++ behind)) := by
        simpa [spaced] using start
      rcases readSimple_word (steps + pieces.length) line clean pushed isWord
        (parted_spaced pieces parted) start filled with ⟨next, first⟩
      have cleanNext : Clean { cursor with rest := spaced pieces ++ behind, line := next } :=
        ⟨clean.1, clean.2, clean.3⟩
      rcases ih cleanNext pushed rfl (show words ++ [word] ≠ [] by simp) with ⟨later, rest⟩
      refine ⟨later, ?_⟩
      rw [List.length_cons, ← Nat.add_assoc, first, rest, List.append_assoc]
      rfl

theorem readSimple_end (clean : Clean cursor) (pushed : cursor.pushed = none)
    (start : cursor.rest = []) :
    (readSimple (steps + 2) line [] words redirections).run cursor =
      .ok (.simple line [] words redirections, { cursor with pushed := some .endOfText }) := by
  rw [readSimple.eq_def]
  simp only [StateT.run_bind, expect_end clean pushed start, ok_bind]
  rfl

theorem expect_errors (steps : Nat) (prospect : Prospect) (clean : Clean cursor)
    (pushed : cursor.pushed = none) (start : cursor.rest = ' ' :: '2' :: '>' :: c :: behind)
    (other : c ∉ ['>', '|', '&', '\\']) :
    ∃ line, (expect (steps + 1) prospect).run cursor =
      .ok (.redirection ⟨2, .write, false⟩, { cursor with rest := c :: behind, line := line }) := by
  have opened : (cursor.behind 1).rest = '2' :: '>' :: c :: behind := by simp [Cursor.behind, start]
  rcases readToken_errors (innerReading steps) ((c :: behind).length + 2) opened other with
    ⟨line, read⟩
  refine ⟨line, expect_of_takeToken clean ⟨clean.1, clean.2, clean.3⟩ ?_ (by simp) (by simp)⟩
  rw [takeToken_read pushed, readToken_blank start, start]
  exact read

theorem readTarget_write (inner : InnerReading) (pushed : cursor.pushed = none)
    (isWord : IsWord piece word) (parted : Parted behind)
    (start : cursor.rest = piece ++ behind) (descriptor : Nat) :
    ∃ line, (readTarget inner ⟨descriptor, .write, false⟩).run cursor =
      .ok (.mk descriptor .write word, { cursor with rest := behind, line := line }) := by
  rcases readToken_word inner cursor.rest.length isWord parted start with
    ⟨quoted, line, read⟩
  refine ⟨line, ?_⟩
  simp only [readTarget, StateT.run_bind, takeToken_read pushed, read, ok_bind]
  rfl

theorem readSimple_errors {others : Text} (steps line : Nat) (words : List Word)
    (clean : Clean cursor)
    (pushed : cursor.pushed = none) (isWord : IsWord (c :: others) word)
    (other : c ∉ ['>', '|', '&', '\\'])
    (start : cursor.rest = ' ' :: '2' :: '>' :: (c :: others)) :
    ∃ later, (readSimple (steps + 2) line [] words []).run cursor =
      (readSimple (steps + 1) line [] words [.mk 2 .write word]).run
        { cursor with rest := [], line := later } := by
  rcases expect_errors steps ⟨false, false, words.isEmpty⟩ clean pushed start other with
    ⟨first, read⟩
  have pushedFirst : ({ cursor with rest := c :: others, line := first } : Cursor).pushed = none :=
    pushed
  rcases readTarget_write (innerReading (steps + 1)) pushedFirst isWord (Or.inl rfl)
    (List.append_nil _).symm 2 with ⟨later, target⟩
  refine ⟨later, ?_⟩
  rw [readSimple.eq_def]
  simp only [StateT.run_bind, read, ok_bind, target]
  rfl

theorem assignment?_of_not_mem (plain : '=' ∉ name) : assignment? [.text false name] = none := by
  have uncut : Text.splitAt? '=' name = none := Text.splitAt?_eq_none_iff.mpr plain
  simp [assignment?, uncut]

theorem readSimple_name (clean : Clean cursor)
    (pushed : cursor.pushed = some (.word [.text false name] quoted)) (plain : '=' ∉ name) :
    (readSimple (steps + 2) line [] [] []).run cursor =
      (readSimple (steps + 1) line [] [[.text false name]] []).run
        { cursor with pushed := none } := by
  have read := expect_pushed steps ⟨false, false, ([] : List Word).isEmpty⟩ clean pushed (by simp)
    rfl
  rw [readSimple.eq_def]
  simp only [StateT.run_bind, read, ok_bind]
  simp [assignment?_of_not_mem plain]

/-! ## A whole line -/

theorem run_push : (push token).run cursor = .ok ((), { cursor with pushed := some token }) := rfl

theorem pushed_again (pushed : cursor.pushed = some token) :
    ({ cursor with pushed := some token } : Cursor) = cursor := by
  rw [← pushed]

/-- How a command is read from a place where its name was given back, up to the end of the
script. -/
def ReadsTo (read : Reading Command) (cursor : Cursor) (command : Command) : Prop :=
  ∃ line, read.run cursor =
    .ok (command, { cursor with rest := [], line := line, pushed := some .endOfText })

theorem readCompound_word (clean : Clean cursor) (pushed : cursor.pushed = some (.word word quoted))
    {command : Command}
    (simple : ReadsTo (readSimple (steps + 1) cursor.line [] [] []) cursor command) :
    ReadsTo (readCompound (steps + 2)) cursor command := by
  have read := expect_pushed steps .plain clean pushed (by simp) rfl
  rcases simple with ⟨line, simple⟩
  refine ⟨line, ?_⟩
  rw [readCompound.eq_def]
  simp only [StateT.run_bind, StateT.run_get, pure_bind, read, ok_bind, Token.isMark,
    Bool.false_eq_true, if_false, run_push, pushed_again pushed, simple]

theorem readPipes_end (steps : Nat) (clean : Clean cursor)
    (pushed : cursor.pushed = some .endOfText) :
    (readPipes (steps + 2)).run cursor = .ok ([], cursor) := by
  have read := expect_pushed steps .plain clean pushed (by simp) rfl
  rw [readPipes.eq_def]
  simp only [StateT.run_bind, read, ok_bind, Token.isMark, Bool.false_eq_true, if_false, run_push,
    pushed_again pushed]
  rfl

theorem readChainRest_end {command : Command} (clean : Clean cursor)
    (pushed : cursor.pushed = some .endOfText) :
    (readChainRest (steps + 2) command).run cursor = .ok (command, cursor) := by
  have read := expect_pushed steps .plain clean pushed (by simp) rfl
  rw [readChainRest.eq_def]
  simp only [StateT.run_bind, read, ok_bind, Token.isMark, Bool.false_eq_true, if_false, run_push,
    pushed_again pushed, Bool.or_self]
  rfl

theorem readPipeline_word (clean : Clean cursor) (pushed : cursor.pushed = some (.word word quoted))
    {command : Command} (compound : ReadsTo (readCompound (steps + 2)) cursor command) :
    ReadsTo (readPipeline (steps + 3)) cursor command := by
  have read := expect_pushed (steps + 1) .plain clean pushed (by simp) rfl
  rcases compound with ⟨line, compound⟩
  refine ⟨line, ?_⟩
  rw [readPipeline.eq_def]
  simp only [StateT.run_bind, read, ok_bind, Token.isMark, Bool.false_eq_true, if_false, run_push,
    StateT.run_pure, pure_bind, pushed_again pushed, compound]
  have ending : Clean { cursor with rest := [], line := line, pushed := some .endOfText } :=
    ⟨clean.1, clean.2, clean.3⟩
  have none := readPipes_end steps ending rfl
  rw [none]
  rfl

theorem readChain_word (clean : Clean cursor) {command : Command}
    (pipeline : ReadsTo (readPipeline (steps + 3)) cursor command) :
    ReadsTo (readChain (steps + 4)) cursor command := by
  rcases pipeline with ⟨line, pipeline⟩
  refine ⟨line, ?_⟩
  rw [readChain.eq_def]
  simp only [StateT.run_bind, pipeline, ok_bind]
  exact readChainRest_end ⟨clean.1, clean.2, clean.3⟩ rfl

theorem readAnnounced_of_clean (inner : InnerReading) (clean : Clean cursor) :
    (readAnnounced inner).run cursor = .ok ((), cursor) := by
  have same : ({ cursor with announced := [] } : Cursor) = cursor := by
    rw [← clean.announced]
  simp only [readAnnounced, StateT.run_bind, StateT.run_get, pure_bind, clean.announced]
  exact congrArg (fun cursor => Except.ok ((), cursor)) same

theorem readCommandLine_word (count : Nat) {command : Command}
    (first : (expect (steps + 4) .command).run cursor = .ok (.word word quoted, after))
    (cleanAfter : Clean after)
    (chain : ReadsTo (readChain (steps + 4)) { after with pushed := some (.word word quoted) }
      command) :
    ∃ line, (readCommandLine (steps + 4) (count + 1) none).run cursor =
      .ok (some command, { after with rest := [], line := line, pushed := some .endOfText }) := by
  rcases chain with ⟨line, chain⟩
  have cleanLast (pushed : Option Token) :
      Clean { after with rest := [], line := line, pushed := pushed } :=
    ⟨cleanAfter.1, cleanAfter.2, cleanAfter.3⟩
  have ending := expect_pushed (steps + 3) .plain (cleanLast (some .endOfText)) rfl (by simp) rfl
  have nothing := readAnnounced_of_clean (innerReading (steps + 4)) (cleanLast none)
  refine ⟨line, ?_⟩
  rw [readCommandLine]
  simp only [StateT.run_bind, StateT.run_get, pure_bind, first, ok_bind, run_push, chain, ending,
    Token.isMark, Bool.false_eq_true, if_false, nothing]
  rfl

section

variable {pieces : List Text} {others : Text} {target : Word}
  (isName : IsWord name [.text false name]) (plain : '=' ∉ name)
  (all : List.Forall₂ IsWord pieces words)
  (isTarget : IsWord (c :: others) target) (other : c ∉ ['>', '|', '&', '\\'])

include plain all isTarget other

theorem readSimple_line (steps line : Nat) (given : Clean cursor)
    (pushed : cursor.pushed = some (.word [.text false name] quoted))
    (start : cursor.rest = spaced pieces ++ ' ' :: '2' :: '>' :: c :: others) :
    ReadsTo (readSimple (steps + pieces.length + 4) line [] [] []) cursor
      (.simple line [] ([.text false name] :: words) [.mk 2 .write target]) := by
  have clean : Clean { cursor with pushed := none } := ⟨given.1, given.2, given.3⟩
  rcases readSimple_words (steps + 2) line all clean rfl (Or.inr ⟨'2' :: '>' :: c :: others, rfl⟩)
    start (show [[.text false name]] ≠ [] by simp) with ⟨second, readWords⟩
  have cleanSecond : Clean { cursor with
      pushed := none, rest := ' ' :: '2' :: '>' :: c :: others, line := second } :=
    ⟨clean.1, clean.2, clean.3⟩
  rcases readSimple_errors (steps + 1) line ([[.text false name]] ++ words) cleanSecond rfl isTarget
    other rfl with ⟨third, readErrors⟩
  refine ⟨third, ?_⟩
  calc (readSimple (steps + pieces.length + 4) line [] [] []).run cursor
      = (readSimple (steps + pieces.length + 3) line [] [[.text false name]] []).run
          { cursor with pushed := none } := readSimple_name given pushed plain
    _ = (readSimple (steps + 3) line [] ([[.text false name]] ++ words) []).run _ := by
        rw [← readWords]
        congr 2
        omega
    _ = _ := readErrors
    _ = _ := readSimple_end ⟨clean.1, clean.2, clean.3⟩ rfl rfl

include isName

/-- A line with a name, words behind it and a redirection of the errors is one simple command. -/
theorem readCommand_line (unreserved : name ∉ reservedWords) (next : Nat) :
    ∃ line after,
      readCommand.run
          (Cursor.start (name ++ (spaced pieces ++ ' ' :: '2' :: '>' :: c :: others)) next []) =
        .ok ((some (.simple line [] ([.text false name] :: words) [.mk 2 .write target]),
          true), after) := by
  generalize ending : spaced pieces ++ ' ' :: '2' :: '>' :: c :: others = behind
  have parted : Parted behind := by
    rw [← ending]
    exact parted_spaced pieces (Or.inr ⟨_, rfl⟩)
  have fewer : pieces.length ≤ (name ++ behind).length := by
    have := length_le_spaced pieces
    simp [← ending]
    omega
  rcases Nat.exists_eq_add_of_le' (show pieces.length + 7 ≤ readingSteps (name ++ behind) by
    rw [readingSteps]; omega) with ⟨steps, enough⟩
  set cursor := Cursor.start (name ++ behind) next []
  have clean : Clean cursor := ⟨rfl, rfl, rfl⟩
  have start : cursor.rest = name ++ behind := rfl
  rcases readToken_word (innerReading (steps + pieces.length + 6)) (name ++ behind).length isName
    parted start with ⟨quoted, line, read⟩
  set after : Cursor := { cursor with rest := behind, line := line }
  have first : (expect (steps + pieces.length + 7) .command).run cursor =
      .ok (.word [.text false name] quoted, after) := by
    apply expect_of_takeToken clean ⟨rfl, rfl, rfl⟩ ?_ (by simp)
    · rintro - text same
      cases same
      exact unreserved
    · rw [takeToken_read rfl]
      exact read
  set given : Cursor := { after with pushed := some (.word [.text false name] quoted) }
  have cleanGiven : Clean given := ⟨rfl, rfl, rfl⟩
  have simple := readSimple_line plain all isTarget other steps given.line cleanGiven rfl
    ending.symm
  have compound := readCompound_word cleanGiven rfl simple
  have chain := readChain_word cleanGiven (readPipeline_word cleanGiven rfl compound)
  rcases readCommandLine_word (steps + pieces.length + 6) first ⟨rfl, rfl, rfl⟩ chain with
    ⟨last, whole⟩
  refine ⟨line, { after with rest := [], line := last, pushed := some .endOfText }, ?_⟩
  have enough : readingSteps cursor.rest = steps + pieces.length + 7 := enough
  have fresh : (set { cursor with pushed := none, announced := [] } : Reading PUnit).run cursor =
    .ok (⟨⟩, cursor) := rfl
  simp only [readCommand, StateT.run_bind, StateT.run_get, pure_bind, fresh, ok_bind, enough, whole]
  rfl

end

end ProjectTags.Shell
