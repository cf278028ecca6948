import ProjectTags.Proofs.Shell.Reading

/-!
# How literal words are spelled

The rules of quoting as a relation of its own: how a text is spelled in a word of a command, or
between double quotes in it, where nothing is expanded. The reader of words follows these rules
exactly: it reads whatever is spelled so, and what it reads without an expansion is spelled so.

A spelling never has fewer characters than the text. Between double quotes one that has the same
number of characters is the text itself, which then is a text of a special kind.
-/

namespace ProjectTags.Shell

open Region

/-- A text is spelled at the front of a script, up to a rest of it, in a word that is not quoted or
between double quotes. -/
inductive Spelled : Region → Text → Text → Text → Prop
  | stop {region : Region} {script : Text} (ends : region.endsAt script = true)
      (closed : script = [] → region.flaw? = none) : Spelled region script [] script
  | join {region : Region} {script value rest : Text} (others : Spelled region script value rest) :
      Spelled region ('\\' :: '\n' :: script) value rest
  | escape {region : Region} {c : Char} {script value rest : Text} (inLine : c ≠ '\n')
      (others : Spelled region script value rest) :
      Spelled region ('\\' :: c :: script)
        ((if region.isEscapable c then [c] else ['\\', c]) ++ value) rest
  | lastBackslash {region : Region} : Spelled region ['\\'] ['\\'] []
  | apostrophes {inside script value rest : Text} (plain : '\'' ∉ inside)
      (others : Spelled .bare script value rest) :
      Spelled .bare ('\'' :: (inside ++ '\'' :: script)) (inside ++ value) rest
  | quotes {inside script value behind rest : Text} (held : Spelled .quotes script inside behind)
      (others : Spelled .bare behind.tail value rest) :
      Spelled .bare ('"' :: script) (inside ++ value) rest
  | dollar {region : Region} {script value rest : Text} (plain : introduces script = false)
      (others : Spelled region script value rest) :
      Spelled region ('$' :: script) ('$' :: value) rest
  | mark {c : Char} {script value rest : Text} (special : c ∈ ['\'', '(', ')'])
      (others : Spelled .quotes script value rest) : Spelled .quotes (c :: script) (c :: value) rest
  | plain {region : Region} {c : Char} {script value rest : Text} (other : c ∉ specialCharacters)
      (inside : region.endsAt (c :: script) = false) (others : Spelled region script value rest) :
      Spelled region (c :: script) (c :: value) rest

variable {cursor after : Cursor} {inner : InnerReading} {steps : Nat} {region : Region}
  {script rest value run : Text} {c : Char} {parts : List Part} {quoted : Bool}

theorem endsAt_backslash (region : Region) (rest : Text) :
    region.endsAt ('\\' :: rest) = false := by
  cases region <;> simp [endsAt, endsWord]

theorem endsAt_dollar (region : Region) (rest : Text) : region.endsAt ('$' :: rest) = false := by
  cases region <;> simp [endsAt, endsWord]

/-- A character of a run is no mark, and neither kind of region ends at it. -/
theorem not_mem_of_isPlain (plain : isPlain c = true) :
    c ∉ specialCharacters ∧ endsWord c = false := by
  simp_all [isPlain, specialCharacters]

theorem length_drop_skipJoins (script : Text) : (skipJoins script).2.length ≤ script.length := by
  fun_induction skipJoins script with
  | case1 script ih =>
      simp only [List.length_cons]
      omega
  | case2 script other => exact le_refl _

theorem skipJoins_ne (script rest : Text) : (skipJoins script).2 ≠ '\\' :: '\n' :: rest := by
  fun_induction skipJoins script with
  | case1 script ih => exact ih
  | case2 script other => exact other rest

namespace Spelled

theorem of_skipJoins (spelled : Spelled region (skipJoins script).2 value rest) :
    Spelled region script value rest := by
  fun_induction skipJoins script with
  | case1 script ih => exact join (ih spelled)
  | case2 script other => exact spelled

theorem append_plain (run : Text) (kind : region = .bare ∨ region = .quotes)
    (all : ∀ c ∈ run, isPlain c = true) (spelled : Spelled region script value rest) :
    Spelled region (run ++ script) (run ++ value) rest := by
  induction run with
  | nil => exact spelled
  | cons c run ih =>
      rcases not_mem_of_isPlain (all c (List.mem_cons_self ..)) with ⟨other, within⟩
      refine .plain other ?_ (ih fun d mem => all d (List.mem_cons_of_mem c mem))
      rcases kind with rfl | rfl
      · exact within
      · simp [specialCharacters] at other
        simp [endsAt, other]

end Spelled

namespace Spelled

/-- A spelling takes the front of the script. Quotes make it longer than the text. -/
theorem exists_taken (kind : region = .bare ∨ region = .quotes)
    (spelled : Spelled region script value rest) :
    ∃ taken, script = taken ++ rest ∧ value.length ≤ taken.length ∧
      ('"' ∈ taken → value.length < taken.length) := by
  induction spelled with
  | stop => exact ⟨[], rfl, le_refl _, by simp⟩
  | join _ ih =>
      rcases ih kind with ⟨taken, rfl, longer, quote⟩
      refine ⟨'\\' :: '\n' :: taken, rfl, ?_, fun _ => ?_⟩ <;> simp <;> omega
  | @escape region c _ _ _ inLine _ ih =>
      rcases ih kind with ⟨taken, rfl, longer, quote⟩
      refine ⟨'\\' :: c :: taken, rfl, ?_, fun mem => ?_⟩
      · split <;> simp <;> omega
      · split
        · simp
          omega
        · next plain =>
            have other : c ≠ '"' := by
              rintro rfl
              rcases kind with rfl | rfl <;> simp [isEscapable] at plain
            have := quote (by simpa [other.symm] using mem)
            simpa using this
  | lastBackslash => exact ⟨['\\'], rfl, le_refl _, by simp⟩
  | @apostrophes inside _ _ _ _ _ ih =>
      rcases ih kind with ⟨taken, rfl, longer, quote⟩
      refine ⟨'\'' :: (inside ++ '\'' :: taken), by simp, ?_, fun _ => ?_⟩ <;> simp <;> omega
  | @quotes _ _ _ behind rest _ _ ihHeld ih =>
      rcases ihHeld (Or.inr rfl) with ⟨takenHeld, rfl, longerHeld, _⟩
      rcases ih (Or.inl rfl) with ⟨taken, same, longer, _⟩
      refine ⟨'"' :: (takenHeld ++ behind.take 1 ++ taken), ?_, ?_, fun _ => ?_⟩
      · rw [List.cons_append, List.append_assoc, ← same, ← List.drop_one, List.append_assoc,
          List.take_append_drop]
      · simp; omega
      · simp; omega
  | dollar _ _ ih =>
      rcases ih kind with ⟨taken, rfl, longer, quote⟩
      exact ⟨'$' :: taken, rfl, by simpa using longer, by simpa using quote⟩
  | @mark c _ _ _ special _ ih =>
      rcases ih kind with ⟨taken, rfl, longer, quote⟩
      have other : c ≠ '"' := by
        rintro rfl
        simp at special
      exact ⟨c :: taken, rfl, by simpa using longer, by simpa [other.symm] using quote⟩
  | @plain _ c _ _ _ other _ _ ih =>
      rcases ih kind with ⟨taken, rfl, longer, quote⟩
      have other : c ≠ '"' := by
        rintro rfl
        simp [specialCharacters] at other
      exact ⟨c :: taken, rfl, by simpa using longer, by simpa [other.symm] using quote⟩

theorem length_rest_le (kind : region = .bare ∨ region = .quotes)
    (spelled : Spelled region script value rest) : rest.length ≤ script.length := by
  rcases spelled.exists_taken kind with ⟨taken, rfl, _⟩
  simp

/-- If the script is used up between double quotes then for a backslash at its end. -/
theorem getLast?_of_quotes (spelled : Spelled .quotes script value []) :
    script.getLast? = some '\\' := by
  generalize within : Region.quotes = region, none : ([] : Text) = rest at spelled
  induction spelled with
  | stop ends closed =>
      subst within none
      simp [flaw?] at closed
  | join _ ih => simp [List.getLast?_cons, ih within none]
  | escape _ _ ih => simp [List.getLast?_cons, ih within none]
  | lastBackslash => rfl
  | apostrophes => cases within
  | quotes => cases within
  | dollar _ _ ih => simp [List.getLast?_cons, ih within none]
  | mark _ _ ih => simp [List.getLast?_cons, ih within none]
  | plain _ _ _ ih => simp [List.getLast?_cons, ih within none]

end Spelled

/-! ## What is read is spelled -/

theorem literal?_pushText_eq_some {text : Text}
    (literal : literal? (pushText quoted text parts) = some value) :
    ∃ others, literal? parts = some others ∧ text ++ others = value := by
  rwa [literal?_pushText, Option.map_eq_some_iff] at literal

theorem readSingleQuoted_eq_ok {own : Text}
    (read : readSingleQuoted.run cursor = .ok (own, after)) :
    '\'' ∉ own ∧ cursor.rest = own ++ '\'' :: after.rest := by
  have cut := List.takeWhile_append_dropWhile (p := (· != '\'')) (l := cursor.rest)
  simp only [readSingleQuoted, StateT.run_bind, StateT.run_get, pure_bind, run_advance,
    ok_bind] at read
  split at read
  · cases read
  · next closed =>
      cases read
      constructor
      · intro mem
        simpa using List.mem_takeWhile_imp mem
      · rcases found : cursor.rest.dropWhile (· != '\'') with _ | ⟨d, others⟩
        · rw [found, List.append_nil] at cut
          exact absurd (congrArg List.length cut) closed
        · have stops : d = '\'' := by
            have := List.head_dropWhile_not (fun c => c != '\'') (l := cursor.rest)
              (by simp [found])
            simpa [found] using this
          rw [found, stops] at cut
          generalize cursor.rest.takeWhile (· != '\'') = inside at cut ⊢
          simp [Cursor.behind, ← cut]

/-- Whatever literal text is read in some steps is spelled. -/
def ReadsSpelled (inner : InnerReading) (steps : Nat) : Prop :=
  ∀ ⦃region : Region⦄ ⦃cursor after : Cursor⦄ ⦃parts : List Part⦄ ⦃quoted : Bool⦄ ⦃value : Text⦄,
    region = .bare ∨ region = .quotes → cursor.rest.length < steps →
      (readParts inner steps region).run cursor = .ok ((parts, quoted), after) →
        literal? parts = some value → Spelled region cursor.rest value after.rest

namespace ReadsSpelled

variable (fewer : ReadsSpelled inner steps) (enough : cursor.joined.rest.length < steps + 1)
  (literal : literal? parts = some value)

include fewer enough

/-- What is read in fewer steps behind some characters. -/
theorem behind (taken : Text) (kind : region = .bare ∨ region = .quotes)
    (start : cursor.joined.rest = taken ++ script)
    (filled : taken ≠ []) (literal : literal? parts = some value)
    (read : (readParts inner steps region).run (cursor.joined.behind taken.length) =
      .ok ((parts, quoted), after)) : Spelled region script value after.rest := by
  have rest : (cursor.joined.behind taken.length).rest = script := by
    simp [Cursor.behind, start]
  rw [← rest]
  apply fewer kind ?_ read literal
  have size := List.length_pos_iff.mpr filled
  rw [start, List.length_append] at enough
  rw [rest]
  omega

include literal

section

variable (kind : region = .bare ∨ region = .quotes)

include kind

theorem backslash (start : cursor.joined.rest = '\\' :: c :: script)
    (read : (readParts inner (steps + 1) region).run cursor = .ok ((parts, quoted), after)) :
    Spelled region cursor.joined.rest value after.rest := by
  rw [readParts_backslash start (endsAt_backslash _ _)] at read
  rcases bind_eq_ok.mp read with ⟨⟨⟨others, more⟩, behind⟩, readOthers, same⟩
  cases same
  rcases literal?_pushText_eq_some literal with ⟨own, literalOthers, rfl⟩
  have inLine : c ≠ '\n' := by
    rintro rfl
    exact skipJoins_ne _ _ start
  have later := fewer.behind enough ['\\', c] kind start (by simp) literalOthers
    readOthers
  rw [start]
  exact .escape inLine later

theorem dollar (start : cursor.joined.rest = '$' :: script)
    (read : (readParts inner (steps + 1) region).run cursor = .ok ((parts, quoted), after)) :
    Spelled region cursor.joined.rest value after.rest := by
  have other : region ≠ .closing := by
    rcases kind with rfl | rfl <;> simp
  have rest : (cursor.joined.behind 1).rest = script := by simp [Cursor.behind, start]
  simp only [start, List.length_cons] at enough
  rw [readParts_dollar start (endsAt_dollar _ _) other] at read
  rcases bind_eq_ok.mp read with ⟨⟨own, behind⟩, readOwn, read⟩
  rcases bind_eq_ok.mp read with ⟨⟨⟨others, more⟩, later⟩, readOthers, same⟩
  cases same
  rcases steps with _ | steps
  · omega
  rcases readDollar_cases readOwn with ⟨rfl, plain, rfl⟩ | ⟨part, rfl, expanded⟩
  · rcases literal?_pushText_eq_some literal with ⟨_, literalOthers, rfl⟩
    rw [rest] at plain
    rw [start]
    refine .dollar plain (.of_skipJoins ?_)
    rw [← rest]
    refine fewer kind ?_ readOthers literalOthers
    have := length_drop_skipJoins (cursor.joined.behind 1).rest
    rw [rest] at this
    change (skipJoins (cursor.joined.behind 1).rest).2.length < _
    rw [rest]
    omega
  · rw [expanded] at literal
    cases literal

omit fewer enough in
theorem backquote (start : cursor.joined.rest = '\x60' :: script)
    (inside : region.endsAt ('\x60' :: script) = false)
    (read : (readParts inner (steps + 1) region).run cursor = .ok ((parts, quoted), after)) :
    Spelled region cursor.joined.rest value after.rest := by
  have other : region ≠ .closing := by
    rcases kind with rfl | rfl <;> simp
  rw [readParts_backquote start inside other] at read
  rcases bind_eq_ok.mp read with ⟨⟨own, behind⟩, readOwn, read⟩
  rcases bind_eq_ok.mp read with ⟨⟨⟨others, more⟩, later⟩, readOthers, same⟩
  cases same
  rw [readBackquotes_eq_ok readOwn] at literal
  cases literal

theorem other (start : cursor.joined.rest = c :: script)
    (inside : region.endsAt (c :: script) = false) (other : c ∉ specialCharacters)
    (read : (readParts inner (steps + 1) region).run cursor = .ok ((parts, quoted), after)) :
    Spelled region cursor.joined.rest value after.rest := by
  rw [readParts_other start inside other] at read
  rcases bind_eq_ok.mp read with ⟨⟨⟨others, more⟩, behind⟩, readOthers, same⟩
  cases same
  rcases literal?_pushText_eq_some literal with ⟨_, literalOthers, rfl⟩
  have cut : c :: script = (c :: script.takeWhile isPlain) ++ script.dropWhile isPlain := by
    rw [List.cons_append, List.takeWhile_append_dropWhile]
  have later := fewer.behind enough _ kind (start.trans cut) (by simp) literalOthers readOthers
  rw [start]
  refine .plain other inside ?_
  have run := later.append_plain (script.takeWhile isPlain) kind fun d mem =>
    List.mem_takeWhile_imp mem
  rwa [List.takeWhile_append_dropWhile] at run

end

theorem doubleQuote (start : cursor.joined.rest = '"' :: script)
    (read : (readParts inner (steps + 1) .bare).run cursor = .ok ((parts, quoted), after)) :
    Spelled .bare cursor.joined.rest value after.rest := by
  rw [readParts_doubleQuote start] at read
  rcases bind_eq_ok.mp read with ⟨⟨⟨held, more⟩, behind⟩, readHeld, read⟩
  rcases bind_eq_ok.mp read with ⟨⟨⟨others, more⟩, later⟩, readOthers, same⟩
  cases same
  rw [literal?_append, literal?_quotedParts, Option.bind_eq_some_iff] at literal
  rcases literal with ⟨inside, literalHeld, literal⟩
  rcases Option.map_eq_some_iff.mp literal with ⟨_, literalOthers, rfl⟩
  have spelledHeld := fewer.behind enough ['"'] (Or.inr rfl) start (by simp) literalHeld
    readHeld
  rw [start]
  refine .quotes spelledHeld ?_
  rw [← List.drop_one]
  have shorter := spelledHeld.length_rest_le (Or.inr rfl)
  have enough : (behind.behind 1).rest.length < steps := by
    change (behind.rest.drop 1).length < steps
    rw [start, List.length_cons] at enough
    rw [List.length_drop]
    omega
  exact fewer (Or.inl rfl) enough readOthers literalOthers

theorem singleQuote (start : cursor.joined.rest = '\'' :: script)
    (read : (readParts inner (steps + 1) .bare).run cursor = .ok ((parts, quoted), after)) :
    Spelled .bare cursor.joined.rest value after.rest := by
  rw [readParts_singleQuote start] at read
  rcases bind_eq_ok.mp read with ⟨⟨own, behind⟩, readOwn, read⟩
  rcases bind_eq_ok.mp read with ⟨⟨⟨others, more⟩, later⟩, readOthers, same⟩
  cases same
  rcases Option.map_eq_some_iff.mp literal with ⟨_, literalOthers, rfl⟩
  rcases readSingleQuoted_eq_ok readOwn with ⟨plain, whole⟩
  have rest : (cursor.joined.behind 1).rest = script := by simp [Cursor.behind, start]
  rw [rest] at whole
  rw [start, whole]
  refine .apostrophes plain (fewer (Or.inl rfl) ?_ readOthers literalOthers)
  rw [start, whole] at enough
  simp only [List.length_cons, List.length_append] at enough
  omega

theorem mark (start : cursor.joined.rest = c :: script) (mark : c ∈ ['\'', '(', ')'])
    (read : (readParts inner (steps + 1) .quotes).run cursor = .ok ((parts, quoted), after)) :
    Spelled .quotes cursor.joined.rest value after.rest := by
  rw [readParts_mark start mark] at read
  rcases bind_eq_ok.mp read with ⟨⟨⟨others, more⟩, behind⟩, readOthers, same⟩
  cases same
  rcases literal?_pushText_eq_some literal with ⟨_, literalOthers, rfl⟩
  rw [start]
  exact .mark mark (fewer.behind enough [c] (Or.inr rfl) start (by simp) literalOthers
    readOthers)

end ReadsSpelled

/-- What is read without an expansion is spelled. -/
theorem spelled_of_readParts (inner : InnerReading) (steps : Nat) : ReadsSpelled inner steps := by
  induction steps with
  | zero =>
      intro region cursor after parts quoted value kind enough
      omega
  | succ steps ih =>
      intro region cursor after parts quoted value kind enough read literal
      apply Spelled.of_skipJoins
      change Spelled region cursor.joined.rest value after.rest
      have enough := lt_of_le_of_lt (length_drop_skipJoins cursor.rest) enough
      change cursor.joined.rest.length < steps + 1 at enough
      by_cases ends : region.endsAt cursor.joined.rest = true
      · by_cases closed : cursor.joined.rest = [] → region.flaw? = none
        · rw [readParts_end ends closed] at read
          cases read
          cases literal
          exact .stop ends closed
        · rcases Classical.not_imp.mp closed with ⟨empty, flawed⟩
          rcases Option.ne_none_iff_exists'.mp flawed with ⟨flaw, opened⟩
          rw [readParts_unclosed empty opened] at read
          cases read
      rw [Bool.not_eq_true] at ends
      rcases start : cursor.joined.rest with _ | ⟨c, script⟩
      · simp [start, endsAt] at ends
      rw [start] at ends
      rw [← start]
      by_cases special : c ∈ specialCharacters
      · simp only [specialCharacters, List.mem_cons, List.not_mem_nil, or_false] at special
        rcases special with rfl | rfl | rfl | rfl | rfl | mark
        · rcases script with _ | ⟨c, script⟩
          · rw [readParts_lastBackslash start ends] at read
            cases read
            cases literal
            have used : (cursor.joined.behind 1).rest = [] := by simp [Cursor.behind, start]
            rw [start, used]
            exact .lastBackslash
          · exact ih.backslash enough literal kind start read
        · rcases kind with rfl | rfl
          · exact ih.singleQuote enough literal start read
          · exact ih.mark enough literal start (by simp) read
        · rcases kind with rfl | rfl
          · exact ih.doubleQuote enough literal start read
          · simp [endsAt] at ends
        · exact ReadsSpelled.backquote literal kind start ends read
        · exact ih.dollar enough literal kind start read
        · rcases kind with rfl | rfl
          · rcases mark with rfl | rfl <;> simp [endsAt, endsWord] at ends
          · exact ih.mark enough literal start (by simp [mark]) read
      · exact ih.other enough literal kind start ends special read

/-! ## What is spelled is read -/

theorem Spelled.split_plain (kind : region = .bare ∨ region = .quotes)
    (all : ∀ c ∈ run, isPlain c = true) (spelled : Spelled region (run ++ script) value rest) :
    ∃ later, value = run ++ later ∧ Spelled region script later rest := by
  induction run generalizing value with
  | nil => exact ⟨value, rfl, spelled⟩
  | cons c run ih =>
      have first := all c (List.mem_cons_self ..)
      rcases not_mem_of_isPlain first with ⟨other, within⟩
      simp only [specialCharacters, List.mem_cons, List.not_mem_nil, or_false, not_or] at other
      generalize whole : c :: run ++ script = text at spelled
      cases spelled with
      | plain other inside others =>
          cases whole
          rcases ih (fun d mem => all d (List.mem_cons_of_mem c mem)) others with
            ⟨later, rfl, spelled⟩
          exact ⟨later, rfl, spelled⟩
      | stop ends closed =>
          subst whole
          rcases kind with rfl | rfl <;> simp_all [endsAt]
      | mark special others =>
          simp_all
      | _ => simp_all

theorem Spelled.skipJoins (spelled : Spelled region script value rest) :
    Spelled region (skipJoins script).2 value rest := by
  fun_induction Shell.skipJoins script with
  | case1 script ih =>
      cases spelled with
      | join others => exact ih others
      | escape inLine others => exact absurd rfl inLine
      | stop ends closed => simp [endsAt_backslash] at ends
      | plain other inside others => simp [specialCharacters] at other
      | mark special others => simp at special
  | case2 script other => exact spelled

theorem readParts_joined :
    (readParts inner (steps + 1) region).run cursor.joined =
      (readParts inner (steps + 1) region).run cursor := by
  rw [readParts.eq_def]
  simp only [StateT.run_bind, run_remaining, ok_bind, joined_joined]

/-- The parts of a text between quotes. -/
def heldParts (text : Text) : List Part :=
  if text = [] then [] else [.text true text]

theorem pushText_heldParts (text : Text) (filled : run ≠ []) :
    pushText true run (heldParts text) = heldParts (run ++ text) := by
  unfold heldParts
  by_cases empty : text = [] <;> simp [empty, filled, pushText]

/-- The reader gives a word that stands for a text, and has gone on to a rest. -/
def Gives (region : Region) (read : Except Mistake ((List Part × Bool) × Cursor)) (cursor : Cursor)
    (value rest : Text) : Prop :=
  ∃ parts quoted line, read = .ok ((parts, quoted), { cursor with rest := rest, line := line }) ∧
    literal? parts = some value ∧ (region = .quotes → parts = heldParts value)

theorem Gives.push {read : Except Mistake ((List Part × Bool) × Cursor)}
    (gives : Gives region read cursor value rest) (filled : run ≠ [])
    (same : region = .quotes → quoted = true) (more : (List Part × Bool) × Cursor → Bool) :
    Gives region
      (read >>= fun read => .ok ((pushText quoted run read.1.1, more read), read.2)) cursor
      (run ++ value) rest := by
  rcases gives with ⟨parts, _, line, rfl, literal, held⟩
  refine ⟨_, _, line, rfl, ?_, fun within => ?_⟩
  · rw [literal?_pushText, literal]
    rfl
  · rw [same within, held within, pushText_heldParts value filled]

theorem readSingleQuoted_of_spelled {inside : Text} (plain : '\'' ∉ inside)
    (start : cursor.rest = inside ++ '\'' :: script) :
    readSingleQuoted.run cursor = .ok (inside, cursor.behind (inside.length + 1)) := by
  have taken : cursor.rest.takeWhile (· != '\'') = inside := by
    rw [start, List.takeWhile_append_of_pos]
    · simp
    · intro c mem
      have other : c ≠ '\'' := by
        rintro rfl
        exact plain mem
      simp [other]
  simp only [readSingleQuoted, StateT.run_bind, StateT.run_get, pure_bind, run_advance, ok_bind,
    taken]
  simp [start]
  rfl

theorem rest_behind (taken : Text) (start : cursor.rest = taken ++ script) :
    (cursor.behind taken.length).rest = script := by
  simp [Cursor.behind, start]

/-- What is spelled is read. -/
theorem gives_of_spelled (inner : InnerReading) (kind : region = .bare ∨ region = .quotes)
    (spelled : Spelled region cursor.rest value rest) (enough : cursor.rest.length < steps) :
    Gives region ((readParts inner steps region).run cursor) cursor value rest := by
  induction steps generalizing region cursor value rest with
  | zero => omega
  | succ steps ih =>
      have spelled : Spelled region cursor.joined.rest value rest := spelled.skipJoins
      have enough : cursor.joined.rest.length < steps + 1 :=
        lt_of_le_of_lt (length_drop_skipJoins cursor.rest) enough
      have later {region : Region} {next : Cursor} {script value rest : Text}
          (kind : region = .bare ∨ region = .quotes) (start : next.rest = script)
          (spelled : Spelled region script value rest) (fewer : script.length < steps) :
          Gives region ((readParts inner steps region).run next) next value rest := by
        subst start
        exact ih kind spelled fewer
      generalize start : cursor.joined.rest = script at spelled enough
      cases spelled with
      | stop ends closed =>
          subst start
          rw [readParts_end ends closed]
          exact ⟨_, _, _, rfl, rfl, fun _ => rfl⟩
      | join others => exact absurd start (skipJoins_ne _ _)
      | @escape _ c script value _ inLine others =>
          rw [readParts_backslash start (endsAt_backslash _ _)]
          refine Gives.push ?_ (by split <;> simp) (fun _ => rfl) _
          refine later kind (rest_behind ['\\', c] start) others ?_
          simp only [List.length_cons] at enough
          omega
      | lastBackslash =>
          rw [readParts_lastBackslash start (endsAt_backslash _ _)]
          have used : (cursor.joined.behind 1).rest = [] := rest_behind ['\\'] start
          refine ⟨[.text true ['\\']], true, (cursor.joined.behind 1).line, ?_, rfl, fun _ => rfl⟩
          rw [← used]
          rfl
      | @apostrophes inside script value _ plain others =>
          have opened : (cursor.joined.behind 1).rest = inside ++ '\'' :: script :=
            rest_behind ['\''] start
          rw [readParts_singleQuote start, readSingleQuoted_of_spelled plain opened, ok_bind]
          have closed : ((cursor.joined.behind 1).behind (inside.length + 1)).rest = script := by
            change List.drop _ (cursor.joined.behind 1).rest = script
            simp [opened]
          have fewer : script.length < steps := by
            simp only [List.length_cons, List.length_append] at enough
            omega
          rcases later kind closed others fewer with ⟨parts, _, line, read, literal, _⟩
          rw [read]
          refine ⟨.text true inside :: parts, true, line, rfl, ?_, by simp⟩
          rw [literal?, literal]
          rfl
      | @quotes inside script value behind _ held others =>
          simp only [List.length_cons, Nat.add_lt_add_iff_right] at enough
          have opened : (cursor.joined.behind 1).rest = script := rest_behind ['"'] start
          rcases later (Or.inr rfl) opened held enough with
            ⟨partsHeld, _, line, readHeld, literalHeld, _⟩
          have fewer : behind.tail.length < steps := by
            have := held.length_rest_le (Or.inr rfl)
            rw [List.length_tail]
            omega
          rw [readParts_doubleQuote start, readHeld, ok_bind]
          set closing : Cursor := { cursor.joined.behind 1 with rest := behind, line := line }
          have closed : (closing.behind 1).rest = behind.tail := List.drop_one
          rcases later kind closed others fewer with ⟨parts, _, line, read, literal, _⟩
          rw [read]
          refine ⟨quotedParts partsHeld ++ parts, true, line, rfl, ?_, by simp⟩
          rw [literal?_append, literal?_quotedParts, literalHeld, literal]
          rfl
      | @dollar _ script value _ plain others =>
          rcases steps with _ | steps
          · simp at enough
          have opened : (cursor.joined.behind 1).rest = script := rest_behind ['$'] start
          have other : region ≠ .closing := by
            rcases kind with rfl | rfl <;> simp
          rw [readParts_dollar start (endsAt_dollar _ _) other,
            readDollar_of_not_introduces (by rwa [opened]), ok_bind, readParts_joined]
          refine Gives.push (later kind opened others ?_) (by simp) (by rintro rfl; rfl) _
          simpa using enough
      | mark special others =>
          rw [readParts_mark start special]
          refine Gives.push ?_ (by simp) (fun _ => rfl) _
          refine later kind (rest_behind [_] start) others ?_
          simp only [List.length_cons] at enough
          omega
      | @plain _ c script value _ other inside others =>
          rw [readParts_other start inside other]
          rw [← List.takeWhile_append_dropWhile (p := isPlain) (l := script)] at others
          rcases others.split_plain kind fun c mem => List.mem_takeWhile_imp mem with
            ⟨behind, rfl, spelledBehind⟩
          have cut : c :: script = (c :: script.takeWhile isPlain) ++ script.dropWhile isPlain := by
            rw [List.cons_append, List.takeWhile_append_dropWhile]
          refine Gives.push (later kind (rest_behind _ (start.trans cut)) spelledBehind ?_)
            (by simp) (by rintro rfl; rfl) _
          have := (List.dropWhile_suffix isPlain (l := script)).length_le
          simp only [List.length_cons] at enough
          omega

end ProjectTags.Shell
