import Mathlib.Data.List.Forall2
import ProjectTags.Shell.Expansion
import ProjectTags.Proofs.Shell.SimpleCommand

/-!
# Words that stand for one text

A word without anything to expand is one argument of its command in every state of the shell, which
stays the same. Quoted text is left alone; text that is not quoted is if it has no special
characters.
-/

namespace ProjectTags.Shell

/-- A step gives a value and leaves the state of the shell as it is. -/
def Gets {α : Type} (step : Step α) (state : State) (value : α) : Prop :=
  step.run.run state = (.ok value, state)

variable {α β : Type} {engine : Engine} {state : State} {text : Text} {word : Word} {steps : Nat}

theorem Gets.bind {step : Step α} {next : α → Step β} {value : α} {last : β}
    (first : Gets step state value) (second : Gets (next value) state last) :
    Gets (step >>= next) state last := by
  unfold Gets at *
  rw [ExceptT.run_bind, StateT.run_bind, first]
  exact second

theorem gets_pure (value : α) : Gets (pure value) state value := rfl

theorem gets_getProcess : Gets getProcess state state.process := rfl

theorem gets_get : Gets get state state := rfl

theorem gets_expandParts_text (quoted : Bool) {others : List Part} {segments : List Segment}
    (rest : Gets (expandParts engine steps false others) state segments) :
    Gets (expandParts engine (steps + 1) false (.text quoted text :: others)) state
      ((if quoted then .quoted text else .plain text) :: segments) := by
  rw [expandParts.eq_def]
  refine gets_getProcess.bind ?_
  cases quoted with
  | true => exact (gets_pure [Segment.quoted text]).bind (rest.bind (gets_pure _))
  | false => exact (gets_pure [Segment.plain text]).bind (rest.bind (gets_pure _))

theorem gets_expandParts_nil : Gets (expandParts engine (steps + 1) false []) state [] := rfl

/-- Segments that are one argument without special characters. -/
theorem gets_expandWord {segments : List Segment} (field : Field)
    (expanded : Gets (expandParts engine expansionSteps false (withHome state.process word)) state
      segments)
    (alone : fields state.process.separators segments = [field]) (plain : field.special = false) :
    Gets (expandWord engine word) state [field.text] := by
  refine gets_getProcess.bind (expanded.bind (gets_get.bind ?_))
  rw [alone]
  split
  · exact gets_pure _
  · simp only [List.flatMap_cons, List.flatMap_nil, List.append_nil, expandPaths, plain]
    exact gets_pure _

theorem gets_expandWord_quoted (text : Text) :
    Gets (expandWord engine (quotedParts (heldParts text))) state [text] := by
  unfold heldParts
  by_cases empty : text = []
  · rw [if_pos empty, empty]
    exact gets_expandWord ⟨[], [], false⟩
      (gets_expandParts_text true gets_expandParts_nil) rfl rfl
  · rw [if_neg empty]
    exact gets_expandWord ⟨text, _, false⟩
      (gets_expandParts_text true (gets_expandParts_text true gets_expandParts_nil)) rfl rfl

theorem gets_expandWord_plain (filled : text ≠ []) (noHome : text.head? ≠ some '~')
    (plain : (text.any fun c => c = '*' || c = '?' || c = '[') = false) :
    Gets (expandWord engine [.text false text]) state [text] := by
  rcases text with _ | ⟨c, text⟩
  · exact absurd rfl filled
  have noHome : c ≠ '~' := by simpa using noHome
  have home : withHome state.process [.text false (c :: text)] = [.text false (c :: text)] := by
    simp [withHome, expandTilde, noHome]
  have expanded : Gets (expandParts engine expansionSteps false [.text false (c :: text)]) state
      [.plain (c :: text)] := gets_expandParts_text false gets_expandParts_nil
  rw [← home] at expanded
  exact gets_expandWord _ expanded rfl plain

theorem gets_expandWords {words : List Word} {texts : List Text}
    (each : List.Forall₂ (fun word text => Gets (expandWord engine word) state [text]) words
      texts) :
    Gets (expandWords engine words) state texts := by
  induction each with
  | nil => exact gets_pure []
  | cons first _ ih => exact first.bind (ih.bind (gets_pure _))

/-! ## Pieces of a script -/

/-- A piece of a script is a word, which stands for one text in some state of the shell. -/
def Passes (engine : Engine) (state : State) (piece text : Text) : Prop :=
  ∃ word, IsWord piece word ∧ Gets (expandWord engine word) state [text]

variable {pieces texts : List Text}

theorem passes_of_isLiteral (literal : isLiteral text = true) :
    Passes engine state ('"' :: (text ++ ['"'])) text :=
  ⟨_, isWord_quoted literal, gets_expandWord_quoted text⟩

/-- A text that needs no quotes. -/
def isBare (text : Text) : Bool :=
  !text.isEmpty && text.all Region.isPlain && text.head? != some '#' && text.head? != some '~' &&
    !text.any fun c => c = '*' || c = '?' || c = '['

theorem passes_of_isBare (bare : isBare text = true) : Passes engine state text text := by
  simp only [isBare, Bool.and_eq_true, Bool.not_eq_true', bne_iff_ne] at bare
  rcases bare with ⟨⟨⟨⟨filled, plain⟩, noComment⟩, noHome⟩, noPattern⟩
  have filled : text ≠ [] := by simpa using filled
  exact ⟨_, isWord_plain noComment filled plain, gets_expandWord_plain filled noHome noPattern⟩

theorem exists_words (passes : List.Forall₂ (Passes engine state) pieces texts) :
    ∃ words, List.Forall₂ IsWord pieces words ∧
      List.Forall₂ (fun word text => Gets (expandWord engine word) state [text]) words texts := by
  induction passes with
  | nil => exact ⟨[], .nil, .nil⟩
  | cons first _ ih =>
      rcases first with ⟨word, isWord, expanded⟩
      rcases ih with ⟨words, areWords, allExpanded⟩
      exact ⟨word :: words, .cons isWord areWords, .cons expanded allExpanded⟩

end ProjectTags.Shell
