import ProjectTags.Proofs.Command.Arguments
import ProjectTags.Proofs.Text.Decimal
import ProjectTags.Proofs.Text.Pieces
import ProjectTags.Query.Basic

/-!
# What the arguments of a query tell

The arguments of a query to a project are read back from the front up to the mode: the configuration
file is told apart from the label, and the first word of the mode tells which one it is. A mode with
a pattern has three arguments, and behind them stand optional parts that begin with words of their
own. A list of files has no length of its own and may hold any words, also those of switches. It is
read back from the other end: the words there are fixed, and the word in front of them is either the
one that closes the list or the name of a style, which is never the same.
-/

namespace ProjectTags.Query

open Arguments

/-- Whether two queries ask a project for the same. What confines the matches of a pattern does not
matter where there is none, and neither does what is highlighted afterwards. -/
structure AsksAlike (query other : Query) : Prop where
  configuration : query.configuration = other.configuration
  label : query.label = other.label
  mode : query.mode = other.mode
  pathStyle : query.options.pathStyle = other.options.pathStyle
  scope : query.mode.pattern?.isSome → query.options.scope = other.options.scope
  literal : query.mode.pattern?.isSome → query.options.literal = other.options.literal
  ignoreCase : query.mode.pattern?.isSome → query.options.ignoreCase = other.options.ignoreCase

/-- The query with absolute paths where only those in libraries were to be absolute. -/
def withAbsolutePaths (query : Query) : Query :=
  { query with
    options := { query.options with
      pathStyle := query.options.pathStyle.map fun style =>
        if style = .absoluteInLibraries then .absolute else style } }

/-- The last arguments of a query to a project. -/
def closing : List Text := ["--color=never".toList, "--result=ctags-mod".toList]

variable {query other : Query} {mode mode' : Mode} {rest others : List Text}

/-! ## Modes -/

theorem place_injective {line line' : Nat} {file file' : Text}
    (same : Text.digits line ++ ':' :: file = Text.digits line' ++ ':' :: file') :
    line = line' ∧ file = file' := by
  have cut : ∀ n behind, Text.splitAt? ':' (Text.digits n ++ ':' :: behind) =
      some (Text.digits n, behind) := fun n behind =>
    Text.splitAt?_eq_some_iff.mpr ⟨Text.not_mem_digits (by decide), rfl⟩
  have parts := cut line file
  rw [same, cut line' file'] at parts
  rcases Prod.mk.inj (Option.some.inj parts) with ⟨digits, rfl⟩
  refine ⟨?_, rfl⟩
  calc
    line = Text.valueOf (Text.digits line) := (Text.valueOf_digits line).symm
    _ = Text.valueOf (Text.digits line') := by rw [digits]
    _ = line' := Text.valueOf_digits line'

theorem length_arguments (hasPattern : mode.pattern?.isSome) : mode.arguments.length = 3 := by
  cases mode with
  | fileTags => simp [Mode.pattern?] at hasPattern
  | _ => rfl

/-- The first argument tells the mode, so a mode with a pattern is not taken for one without. -/
theorem pattern?_isSome_eq (same : mode.arguments ++ rest = mode'.arguments ++ others) :
    mode.pattern?.isSome = mode'.pattern?.isSome := by
  cases mode <;> cases mode' <;> simp_all [Mode.arguments, Mode.pattern?]

theorem arguments_injective (same : mode.arguments = mode'.arguments) : mode = mode' := by
  cases mode <;> cases mode'
  case fromHere.fromHere =>
    simp only [Mode.arguments, List.cons.injEq, and_true, true_and] at same
    rcases place_injective same.1 with ⟨rfl, rfl⟩
    rw [same.2]
  all_goals simp_all [Mode.arguments]

theorem eq_of_pattern (hasPattern : mode.pattern?.isSome)
    (same : mode.arguments ++ rest = mode'.arguments ++ others) :
    mode = mode' ∧ rest = others := by
  have hasPattern' : mode'.pattern?.isSome := pattern?_isSome_eq same ▸ hasPattern
  have length : mode.arguments.length = mode'.arguments.length := by
    rw [length_arguments hasPattern, length_arguments hasPattern']
  rcases List.append_inj same length with ⟨arguments, rest⟩
  exact ⟨arguments_injective arguments, rest⟩

/-! ## The parts behind the mode -/

/-- What is told of a query with a pattern behind its mode. -/
abbrev Confinement := ((Option PathStyle × Option Text) × Bool) × Bool

def confinement (options : Options) : Confinement :=
  (((options.pathStyle, options.scope), options.literal), options.ignoreCase)

def confinementArguments (confinement : Confinement) : List Text :=
  valued "--path-style".toList (confinement.1.1.1.map PathStyle.name) ++
    valued "--scope".toList confinement.1.1.2 ++ switch "--literal".toList confinement.1.2 ++
    switch ['-', 'i'] confinement.2

/-- Whether a word begins one of the parts behind the mode. -/
def IsConfinement (word : Text) : Prop :=
  ((word = "--path-style".toList ∨ word = "--scope".toList) ∨ word = "--literal".toList) ∨
    word = ['-', 'i']

instance : DecidablePred IsConfinement := fun _ =>
  inferInstanceAs (Decidable (((_ = _ ∨ _ = _) ∨ _ = _) ∨ _ = _))

theorem ofName_name (style : PathStyle) : PathStyle.ofName style.name = .ok style := by
  cases style <;> rfl

theorem name_injective : Function.Injective PathStyle.name := by
  intro style other same
  have read := ofName_name style
  rw [same, ofName_name] at read
  exact (Except.ok.inj read).symm

theorem isReadable_confinementArguments : IsReadable confinementArguments IsConfinement := by
  have style : IsReadable
      (fun style : Option PathStyle => valued "--path-style".toList (style.map PathStyle.name))
      (· = "--path-style".toList) :=
    (isReadable_valued _).comp (Option.map_injective name_injective)
  refine ((style.append (isReadable_valued _) ?_).append (isReadable_switch _) ?_).append
    (isReadable_switch _) ?_
  · exact avoids_valued (by decide)
  · exact avoids_switch (by decide)
  · exact avoids_switch (by decide)

theorem styleArguments_eq (options : Options) :
    styleArguments options false =
      valued "--path-style".toList (options.pathStyle.map PathStyle.name) := by
  rcases options with ⟨_ | style, _⟩ <;> rfl

theorem patternArguments_eq (hasPattern : query.mode.pattern?.isSome) :
    query.patternArguments =
      valued "--scope".toList query.options.scope ++
        switch "--literal".toList query.options.literal ++
        switch ['-', 'i'] query.options.ignoreCase := by
  rw [patternArguments, if_pos hasPattern]
  cases query.options.scope <;> rfl

theorem behindMode_eq (hasPattern : query.mode.pattern?.isSome) :
    styleArguments query.options false ++ query.patternArguments =
      confinementArguments (confinement query.options) := by
  rw [styleArguments_eq, patternArguments_eq hasPattern, ← List.append_assoc, ← List.append_assoc]
  rfl

theorem behindMode_eq_of_files (noPattern : query.mode.pattern?.isSome = false) :
    styleArguments query.options false ++ query.patternArguments =
      valued "--path-style".toList (query.options.pathStyle.map PathStyle.name) := by
  rw [styleArguments_eq, patternArguments, if_neg (by simp [noPattern]), List.append_nil]

/-! ## Whole queries -/

theorem arguments_eq (query : Query) :
    query.arguments false =
      valued "--gtagsconf".toList query.configuration ++ ("--gtagslabel=".toList ++ query.label) ::
        (query.mode.arguments ++ ((styleArguments query.options false ++ query.patternArguments) ++
          closing)) := by
  rw [arguments, configurationArguments_eq]
  simp only [Bool.false_eq_true, if_false, List.append_nil, List.append_assoc]
  rfl

theorem ne_configurationSwitch (label : Text) :
    "--gtagslabel=".toList ++ label ≠ "--gtagsconf".toList := by
  intro same
  exact absurd (congrArg (·.take 11) same) (by simp)

/-- The configuration file and the label stand in front of the mode and can be told apart. -/
theorem front_eq_of_arguments (same : query.arguments false = other.arguments false) :
    query.configuration = other.configuration ∧ query.label = other.label ∧
      query.mode.arguments ++
          ((styleArguments query.options false ++ query.patternArguments) ++ closing) =
        other.mode.arguments ++
          ((styleArguments other.options false ++ other.patternArguments) ++ closing) := by
  rw [arguments_eq, arguments_eq] at same
  have labelAvoids : ∀ label behind, Avoids (· = "--gtagsconf".toList)
      (("--gtagslabel=".toList ++ label) :: behind) :=
    fun label _ => avoids_cons.mpr (ne_configurationSwitch label)
  rcases isReadable_valued _ (labelAvoids _ _) (labelAvoids _ _) same with ⟨configuration, behind⟩
  rcases List.cons.inj behind with ⟨label, behind⟩
  exact ⟨configuration, List.append_cancel_left label, behind⟩

/-- No style is named like the word that closes a list of files. -/
theorem closed_ne_styled (style : PathStyle) (files front : List Text) :
    files ++ [['-', 'q']] ≠ front ++ ["--path-style".toList, style.name] := by
  intro same
  have last := congrArg List.getLast? same
  simp only [List.getLast?_append, List.getLast?_singleton, List.getLast?_cons_cons,
    Option.some_or, Option.some.injEq] at last
  cases style <;> exact absurd last (by decide)

theorem files_eq_of_ending {files files' : List Text} {style style' : Option PathStyle}
    (same : files ++ [['-', 'q']] ++ valued "--path-style".toList (style.map PathStyle.name) =
      files' ++ [['-', 'q']] ++ valued "--path-style".toList (style'.map PathStyle.name)) :
    files = files' ∧ style = style' := by
  cases style with
  | none =>
      cases style' with
      | none => exact ⟨by simpa [valued] using same, rfl⟩
      | some style' =>
          exact absurd ((List.append_nil _).symm.trans same) (closed_ne_styled style' files _)
  | some style =>
      cases style' with
      | none =>
          exact absurd (same.trans (List.append_nil _)).symm (closed_ne_styled style files' _)
      | some style' =>
          rcases List.append_inj' same rfl with ⟨closed, styled⟩
          have names : style.name = style'.name := by simpa [valued] using styled
          exact ⟨List.append_cancel_right closed, congrArg some (name_injective names)⟩

theorem asksAlike_of_arguments (same : query.arguments false = other.arguments false) :
    AsksAlike query other := by
  rcases front_eq_of_arguments same with ⟨configuration, label, behind⟩
  have kind := pattern?_isSome_eq behind
  cases hasPattern : query.mode.pattern?.isSome with
  | true =>
      rw [hasPattern] at kind
      rcases eq_of_pattern hasPattern behind with ⟨mode, confined⟩
      rw [behindMode_eq hasPattern, behindMode_eq kind.symm] at confined
      have closingAvoids : Avoids IsConfinement closing := avoids_cons.mpr (by decide)
      have parts := (isReadable_confinementArguments closingAvoids closingAvoids confined).1
      simp only [confinement, Prod.mk.injEq] at parts
      rcases parts with ⟨⟨⟨pathStyle, scope⟩, literal⟩, ignoreCase⟩
      exact ⟨configuration, label, mode, pathStyle, fun _ => scope, fun _ => literal,
        fun _ => ignoreCase⟩
  | false =>
      rw [hasPattern] at kind
      rw [behindMode_eq_of_files hasPattern, behindMode_eq_of_files kind.symm,
        ← List.append_assoc, ← List.append_assoc] at behind
      have ending := List.append_cancel_right behind
      cases mode : query.mode with
      | fileTags files =>
          cases mode' : other.mode with
          | fileTags files' =>
              rw [mode, mode'] at ending
              rcases files_eq_of_ending (List.cons.inj ending).2 with ⟨rfl, pathStyle⟩
              have none : ¬query.mode.pattern?.isSome := by simp [hasPattern]
              exact ⟨configuration, label, mode.trans mode'.symm, pathStyle,
                fun some => absurd some none, fun some => absurd some none,
                fun some => absurd some none⟩
          | _ => simp [mode', Mode.pattern?] at kind
      | _ => simp [mode, Mode.pattern?] at hasPattern

theorem arguments_eq_of_asksAlike (alike : AsksAlike query other) :
    query.arguments false = other.arguments false := by
  have behind : styleArguments query.options false ++ query.patternArguments =
      styleArguments other.options false ++ other.patternArguments := by
    cases hasPattern : query.mode.pattern?.isSome with
    | true =>
        rw [behindMode_eq hasPattern, behindMode_eq (alike.mode ▸ hasPattern), confinement,
          confinement, alike.pathStyle, alike.scope hasPattern, alike.literal hasPattern,
          alike.ignoreCase hasPattern]
    | false =>
        rw [behindMode_eq_of_files hasPattern, behindMode_eq_of_files (alike.mode ▸ hasPattern),
          alike.pathStyle]
  rw [arguments_eq, arguments_eq, behind, alike.configuration, alike.label, alike.mode]

theorem arguments_library (query : Query) :
    query.arguments true = query.withAbsolutePaths.arguments false ++ [['-', 'q']] := by
  have styles : styleArguments query.options true =
      styleArguments query.withAbsolutePaths.options false := by
    rcases query with ⟨program, configuration, label, mode, ⟨_ | style, _⟩⟩
    · rfl
    · cases style <;> rfl
  simp only [arguments, styles, Bool.false_eq_true, if_false, if_true, List.append_nil]
  rfl

/-- Queries have the same arguments for a project only if they ask for the same, whatever words
stand among their texts. For a library a query is quiet, and its paths are absolute where only those
in libraries were to be. -/
theorem arguments_tell_query (query other : Query) :
    (query.arguments false = other.arguments false ↔ AsksAlike query other) ∧
      query.arguments true = query.withAbsolutePaths.arguments false ++ [['-', 'q']] :=
  ⟨⟨asksAlike_of_arguments, arguments_eq_of_asksAlike⟩, arguments_library query⟩

end ProjectTags.Query
