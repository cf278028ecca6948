import ProjectTags.Listing
import ProjectTags.Proofs.Shell.Literal
import ProjectTags.Proofs.Text.Substitution

/-!
# The root in listing commands

The root is written into a listing command as a word of it, between double quotes and as it is. The
shell reads that word as the root exactly if the root is literal: all else in the command is the
same for every root, and the word ends where the pasted text ends.
-/

namespace ProjectTags

open Shell (ReadsAs isLiteral InnerReading Cursor)
open Shell.Region (endsAt)

/-! ## Texts with gaps -/

namespace Text

theorem joinWith_cons_cons (new : Text) (c : Char) (gap : Text) (others : List Text) :
    joinWith new ((c :: gap) :: others) = c :: joinWith new (gap :: others) := by
  cases others <;> rfl

theorem joinWith_append {before after : List Text} (filledBefore : before ≠ [])
    (filledAfter : after ≠ []) (new : Text) :
    joinWith new (before ++ after) = joinWith new before ++ new ++ joinWith new after := by
  induction before with
  | nil => exact absurd rfl filledBefore
  | cons gap others ih =>
      rcases others with _ | ⟨next, others⟩
      · rcases after with _ | ⟨first, after⟩
        · exact absurd rfl filledAfter
        · rfl
      · have later := ih (by simp)
        simp only [List.cons_append, joinWith, List.append_assoc] at later ⊢
        rw [later]

/-- The places of a text are the same whatever is written there. -/
theorem exists_gaps (first : Char) (others template : Text) :
    ∃ gap gaps, template = joinWith (first :: others) (gap :: gaps) ∧
      ∀ new, replaceAll first others new template = joinWith new (gap :: gaps) := by
  induction size : template.length using Nat.strong_induction_on generalizing template with
  | _ bound ih =>
      rcases template with _ | ⟨c, template⟩
      · exact ⟨[], [], rfl, fun _ => rfl⟩
      rw [List.length_cons] at size
      by_cases here : c = first ∧ others <+: template
      · rcases here with ⟨rfl, behind, rfl⟩
        rcases ih behind.length (by simp at size; omega) behind rfl with ⟨gap, gaps, whole, written⟩
        refine ⟨[], gap :: gaps, ?_, fun new => ?_⟩
        · conv_lhs => rw [whole]
          simp [joinWith]
        · rw [replaceAll, Substitution.everywhere_literal, ← replaceAll, written]
          simp [joinWith]
      · rcases ih template.length (by omega) template rfl with ⟨gap, gaps, whole, written⟩
        refine ⟨c :: gap, gaps, ?_, fun new => ?_⟩
        · rw [joinWith_cons_cons, ← whole]
        · have misses : (Substitution.literal first others new).front (c :: template) = none := by
            simpa [Substitution.literal, not_and] using here
          rw [replaceAll, Substitution.everywhere_cons_of_none misses, ← replaceAll, written,
            joinWith_cons_cons]

end Text

namespace Lister

/-- What kind of command lists the files below a root. -/
inductive Source where
  | external
  | git
  | hg
  | rg
  | ag
  | find
  deriving DecidableEq

/-- The command of a kind. -/
def Source.command (settings : ListingSettings) : Source → Text → Text
  | external, root =>
      Text.replaceAll '%' ['s'] (shellWord root) (settings.externalCommand.getD [])
  | git, root => gitCommand settings root
  | hg, root => hgCommand settings root
  | rg, root => rgCommand settings root
  | ag, root => agCommand settings root
  | find, root => findCommand settings root

/-- Only the fastest tool is not told to list the current directory. -/
def Source.Writes (source : Source) (root : Text) : Prop :=
  source = rg → root ≠ ['.']

/-- Whether a word ends at every place for the root in a command of the user's. -/
def EndsWords (template : Text) : Prop :=
  ∀ before behind, template = before ++ '%' :: 's' :: behind → endsAt .bare behind = true

variable {settings : ListingSettings} {lister : Lister} {isDirectory : Text → Bool}
  {root command : Text} {source : Source}

/-- The word for the root ends at all places between some texts. -/
def Apart (gaps : List Text) : Prop :=
  ∀ before after, gaps = before ++ after → before ≠ [] → after ≠ [] →
    ∀ word, endsAt .bare (Text.joinWith word after) = true

theorem apart_singleton (gap : Text) : Apart [gap] := by
  intro before after cut filledBefore filledAfter
  have := congrArg List.length cut
  have := List.length_pos_iff.mpr filledBefore
  have := List.length_pos_iff.mpr filledAfter
  simp at *
  omega

theorem Apart.cons {gaps : List Text} (others : Apart gaps) (gap : Text)
    (ends : ∀ word, endsAt .bare (Text.joinWith word gaps) = true) : Apart (gap :: gaps) := by
  intro before after cut filledBefore filledAfter
  rcases before with _ | ⟨first, before⟩
  · exact absurd rfl filledBefore
  rw [List.cons_append, List.cons.injEq] at cut
  rcases before with _ | ⟨second, before⟩
  · rw [List.nil_append] at cut
    rwa [← cut.2]
  · exact others _ _ cut.2 (by simp) filledAfter

theorem apart_last (gap : Text) : Apart [gap, []] :=
  (apart_singleton []).cons gap fun _ => rfl

theorem Apart.cons_blank {next : Text} {gaps : List Text} (others : Apart (next :: gaps))
    (gap : Text) (blank : next.head? = some ' ') : Apart (gap :: next :: gaps) := by
  rcases next with _ | ⟨c, next⟩
  · cases blank
  · cases blank
    apply others.cons
    intro word
    rw [Text.joinWith_cons_cons]
    rfl

theorem EndsWords.apart {template : Text} {gaps : List Text} (ends : EndsWords template)
    (whole : template = Text.joinWith ['%', 's'] gaps) : Apart gaps := by
  intro before after cut filledBefore filledAfter word
  rw [cut, Text.joinWith_append filledBefore filledAfter, List.append_assoc] at whole
  have behind := ends _ _ whole
  rcases after with _ | ⟨gap, others⟩
  · exact absurd rfl filledAfter
  rcases gap with _ | ⟨c, gap⟩
  · rcases others with _ | ⟨next, others⟩
    · rfl
    · simp [Text.joinWith, endsAt, Shell.endsWord] at behind
  · rw [Text.joinWith_cons_cons] at behind ⊢
    exact behind

theorem command?_eq_some (explorer : lister.settings.fromTools = true)
    (chosen : lister.command? isDirectory root = some command) :
    ∃ source : Source, command = source.command lister.settings root := by
  simp only [command?, explorer, Bool.not_true, Bool.false_eq_true, if_false] at chosen
  split at chosen
  · cases chosen
  split at chosen
  · next template given =>
      cases chosen
      exact ⟨.external, by simp [Source.command, given]⟩
  split at chosen
  · cases chosen
    exact ⟨.git, rfl⟩
  split at chosen
  · cases chosen
    exact ⟨.hg, rfl⟩
  unfold toolCommand? at chosen
  split at chosen
  · cases chosen
    exact ⟨.rg, rfl⟩
  split at chosen
  · cases chosen
    exact ⟨.ag, rfl⟩
  split at chosen
  · cases chosen
    exact ⟨.find, rfl⟩
  · cases chosen

section

-- The texts of the commands are put together here once, whatever they are.
variable (word front first second third fourth fifth : Text)

theorem joinWith_before : front ++ ' ' :: word = Text.joinWith word [front ++ [' '], []] := by
  simp [Text.joinWith]

theorem joinWith_twice : front ++ ' ' :: word ++ first ++ second ++ ' ' :: word =
    Text.joinWith word [front ++ [' '], first ++ second ++ [' '], []] := by
  simp [Text.joinWith]

theorem joinWith_between : front ++ ' ' :: word ++ first ++ second ++ third ++ fourth ++ fifth =
    Text.joinWith word [front ++ [' '], first ++ (second ++ third ++ fourth ++ fifth)] := by
  simp [Text.joinWith]

end

/-- The texts around the places of the root are the same for every root. -/
theorem Source.exists_gaps (source : Source)
    (apart : ∀ template, settings.externalCommand = some template → EndsWords template) :
    ∃ gaps, Apart gaps ∧
      ∀ root, source.Writes root →
        source.command settings root = Text.joinWith (shellWord root) gaps := by
  cases source with
  | external =>
      rcases Text.exists_gaps '%' ['s'] (settings.externalCommand.getD []) with
        ⟨gap, gaps, whole, written⟩
      have ends : EndsWords (settings.externalCommand.getD []) := by
        cases given : settings.externalCommand with
        | none =>
            intro before behind whole
            simp at whole
        | some template => exact apart template given
      exact ⟨gap :: gaps, ends.apart whole, fun root _ => written _⟩
  | git =>
      refine ⟨_, ?_, fun root _ => joinWith_twice ..⟩
      apply (apart_last _).cons_blank
      rw [List.append_assoc, List.head?_append]
      rfl
  | hg => exact ⟨_, apart_last _, fun root _ => joinWith_before ..⟩
  | rg =>
      exact ⟨_, apart_last _, fun root writes =>
        (congrArg (_ ++ ·) (if_neg (writes rfl))).trans (joinWith_before ..)⟩
  | ag => exact ⟨_, apart_last _, fun root _ => (List.append_nil _).symm⟩
  | find =>
      refine ⟨_, ?_, fun root _ => joinWith_between ..⟩
      apply (apart_singleton _).cons_blank
      rw [List.head?_append]
      rfl

/-- A listing command is made of texts that are the same for every root, with the root as a word
between them. The shell reads each of these words as the root exactly if the root is literal. -/
theorem reads_root_iff (fromTools : lister.settings.fromTools = true)
    (apart : ∀ template, lister.settings.externalCommand = some template → EndsWords template)
    (chosen : lister.command? isDirectory root = some command) :
    ∃ (source : Source) (gaps : List Text), command = source.command lister.settings root ∧
      (∀ other, source.Writes other →
        source.command lister.settings other = Text.joinWith (shellWord other) gaps) ∧
      ∀ before after, gaps = before ++ after → before ≠ [] → after ≠ [] →
        ∀ inner cursor, cursor.rest = shellWord root ++ Text.joinWith (shellWord root) after →
          (ReadsAs inner cursor root (Text.joinWith (shellWord root) after) ↔
            isLiteral root = true) := by
  rcases command?_eq_some fromTools chosen with ⟨source, same⟩
  rcases source.exists_gaps apart with ⟨gaps, ends, written⟩
  refine ⟨source, gaps, same, written, ?_⟩
  intro before after cut filledBefore filledAfter inner cursor start
  apply Shell.readsAs_iff_isLiteral
  · rw [start, shellWord]
    simp
  · exact ends before after cut filledBefore filledAfter _

theorem reads_root_with_blank :
    ∃ (source : Source) (gaps : List Text),
      findCommand .default "/w/a b".toList = source.command .default "/w/a b".toList ∧
      (∀ other, source.Writes other →
        source.command .default other = Text.joinWith (shellWord other) gaps) ∧
      ∀ before after, gaps = before ++ after → before ≠ [] → after ≠ [] →
        ∀ inner cursor, cursor.rest =
            shellWord "/w/a b".toList ++ Text.joinWith (shellWord "/w/a b".toList) after →
          ReadsAs inner cursor "/w/a b".toList
            (Text.joinWith (shellWord "/w/a b".toList) after) := by
  have fromTools : (⟨.default, ["find".toList]⟩ : Lister).settings.fromTools = true := rfl
  have chosen : Lister.command? ⟨.default, ["find".toList]⟩ (fun _ => false) "/w/a b".toList =
      some (findCommand .default "/w/a b".toList) := rfl
  rcases reads_root_iff fromTools (fun _ given => by cases given) chosen with
    ⟨source, gaps, same, written, read⟩
  refine ⟨source, gaps, same, written, fun before after cut filledBefore filledAfter => ?_⟩
  intro inner cursor start
  exact (read before after cut filledBefore filledAfter inner cursor start).mpr (by decide)

/-- A name behind a dollar sign gives way to its value. -/
theorem expands_root :
    Lister.command? ⟨{ ListingSettings.default with externalCommand := some "ls %s".toList }, []⟩
        (fun _ => false) "/w/$x".toList = some ("ls ".toList ++ shellWord "/w/$x".toList) ∧
      ∀ inner, ¬ReadsAs inner (Cursor.start (shellWord "/w/$x".toList) 0 []) "/w/$x".toList [] := by
  refine ⟨rfl, fun inner read => ?_⟩
  have literal := (Shell.readsAs_iff_isLiteral rfl rfl).mp read
  revert literal
  decide

end Lister

end ProjectTags
