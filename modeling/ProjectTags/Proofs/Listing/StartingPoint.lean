import ProjectTags.Listing
import ProjectTags.Proofs.Shell.Expanding
import ProjectTags.Proofs.Shell.SimpleCommand
import ProjectTags.Proofs.Tool.Alternatives

/-!
# The starting point of a listing

The command that lists files with `find` begins with an alternative for the name `.`, behind which
no other is tried. The last name of an absolute path is another one. So a root is not entered if its
own name is that of a directory to ignore, or begins with a dot while hidden files are not shown.
-/

namespace ProjectTags

open Shell (isLiteral Passes spaced Engine State)
open Tool.Find (Test Group Place alternativeWords either anyPrunes)

namespace Glob

variable {text : Text}

theorem fits_anyText (text : Text) : fits [.anyText] text = true := by
  induction text with
  | nil => simp [fits]
  | cons c text ih => simp [fits, ih]

theorem holds_dot_iff : holds ['.'] text = true ↔ text = ['.'] := by
  rcases text with _ | ⟨c, _ | ⟨d, text⟩⟩ <;> simp [holds, parse, parseWithin, fits, Item.accepts]

theorem holds_hidden_iff : holds ['.', '*'] text = true ↔ text.head? = some '.' := by
  rcases text with _ | ⟨c, text⟩ <;>
    simp [holds, parse, parseWithin, fits, Item.accepts, fits_anyText]

end Glob

namespace Lister

variable {settings : ListingSettings} {root : Text} {directories files : List Text}
  {engine : Engine} {state : State}

/-- The pieces behind the name in the command of the tool `find`. -/
def findPieces (settings : ListingSettings) (root : Text) : List Text :=
  (if settings.followLinks then ["-L".toList] else []) ++ shellWord root ::
    (["-name".toList, shellWord ['.'], "-o".toList] ++
      settings.ignoredDirectories.flatMap (fun pattern =>
        ["-type".toList, ['d'], "-name".toList, shellWord pattern, "-prune".toList, "-o".toList]) ++
      settings.ignoredFiles.flatMap (fun pattern =>
        ["-type".toList, ['f'], "-name".toList, shellWord pattern, "-o".toList]) ++
      (if settings.showHidden then []
        else ["-name".toList, shellWord ['.', '*'], "-prune".toList, "-o".toList]) ++
      ["-type".toList, ['f'], "-print".toList])

theorem spaced_directory (pattern : Text) :
    spaced ["-type".toList, ['d'], "-name".toList, shellWord pattern, "-prune".toList,
        "-o".toList] =
      " -type d -name ".toList ++ shellWord pattern ++ " -prune -o".toList := rfl

theorem spaced_file (pattern : Text) :
    spaced ["-type".toList, ['f'], "-name".toList, shellWord pattern, "-o".toList] =
      " -type f -name ".toList ++ shellWord pattern ++ " -o".toList := rfl

theorem findCommand_eq (settings : ListingSettings) (root : Text) :
    findCommand settings root =
      "find".toList ++ (spaced (findPieces settings root) ++ " 2>/dev/null".toList) := by
  have follow : spaced (if settings.followLinks then ["-L".toList] else []) =
      if settings.followLinks then " -L".toList else [] := by
    split <;> rfl
  have hidden : spaced (if settings.showHidden then []
      else ["-name".toList, shellWord ['.', '*'], "-prune".toList, "-o".toList]) =
      if settings.showHidden then [] else " -name \".*\" -prune -o".toList := by
    split <;> rfl
  -- Which texts are put together does not matter, only in which order.
  have assemble (a b w n d f h t e : Text) : a ++ b ++ ' ' :: w ++ n ++ d ++ f ++ h ++ (t ++ e) =
      a ++ (b ++ ' ' :: (w ++ (n ++ d ++ f ++ h ++ t)) ++ e) := by
    simp
  rw [findPieces, Shell.spaced_append, Shell.spaced_cons, Shell.spaced_append, Shell.spaced_append,
    Shell.spaced_append, Shell.spaced_append, Shell.spaced_flatMap, Shell.spaced_flatMap, follow,
    hidden]
  simp only [spaced_directory, spaced_file]
  exact assemble "find".toList _ _ " -name \".\" -o".toList _ _ _
    (spaced ["-type".toList, ['f'], "-print".toList]) " 2>/dev/null".toList

/-- The alternatives behind the one for the starting point. -/
def findGroups (showHidden : Bool) (directories files : List Text) : List Group :=
  directories.map (fun pattern => ⟨.directory, [.name pattern, .prune]⟩) ++
    files.map (fun pattern => ⟨.file, [.name pattern]⟩) ++
    (if showHidden then [] else [⟨.name ['.', '*'], [.prune]⟩]) ++ [⟨.file, [.print]⟩]

/-- What is behind the name once the shell has read the patterns as these. -/
def findArguments (settings : ListingSettings) (root : Text) (directories files : List Text) :
    List Text :=
  (if settings.followLinks then ["-L".toList] else []) ++ root ::
    alternativeWords ⟨.name ['.'], []⟩ (findGroups settings.showHidden directories files)

theorem alternativeWords_concat (group last : Group) (groups : List Group) :
    alternativeWords group (groups ++ [last]) =
      (group :: groups).flatMap (fun group => group.words ++ ["-o".toList]) ++ last.words := by
  induction groups generalizing group with
  | nil => simp [alternativeWords]
  | cons next groups ih =>
      rw [List.cons_append, alternativeWords, ih next, List.flatMap_cons]
      simp

theorem findGroups_words (showHidden : Bool) (directories files : List Text) :
    alternativeWords ⟨.name ['.'], []⟩ (findGroups showHidden directories files) =
      ["-name".toList, ['.'], "-o".toList] ++
        directories.flatMap (fun pattern =>
          ["-type".toList, ['d'], "-name".toList, pattern, "-prune".toList, "-o".toList]) ++
        files.flatMap (fun pattern =>
          ["-type".toList, ['f'], "-name".toList, pattern, "-o".toList]) ++
        (if showHidden then []
          else ["-name".toList, ['.', '*'], "-prune".toList, "-o".toList]) ++
        ["-type".toList, ['f'], "-print".toList] := by
  have hidden : (if showHidden then [] else [⟨.name ['.', '*'], [.prune]⟩] : List Group).flatMap
      (fun group => group.words ++ ["-o".toList]) =
      if showHidden then [] else ["-name".toList, ['.', '*'], "-prune".toList, "-o".toList] := by
    split <;> rfl
  rw [findGroups, alternativeWords_concat, List.flatMap_cons, List.flatMap_append,
    List.flatMap_append, List.flatMap_map, List.flatMap_map, hidden]
  simp only [List.append_assoc]
  rfl

theorem passes_findPieces (literal : isLiteral root = true)
    (readDirectories : List.Forall₂ (fun pattern => Passes engine state (shellWord pattern))
      settings.ignoredDirectories directories)
    (readFiles : List.Forall₂ (fun pattern => Passes engine state (shellWord pattern))
      settings.ignoredFiles files) :
    List.Forall₂ (Passes engine state) (findPieces settings root)
      (findArguments settings root directories files) := by
  have bare {text : Text} (bare : Shell.isBare text = true) : Passes engine state text text :=
    Shell.passes_of_isBare bare
  have quoted {text : Text} (literal : isLiteral text = true) :
      Passes engine state (shellWord text) text :=
    Shell.passes_of_isLiteral literal
  rw [findArguments, findGroups_words]
  apply List.rel_append
  · split
    · exact .cons (bare rfl) .nil
    · exact .nil
  refine .cons (quoted literal) ?_
  refine List.rel_append (List.rel_append (List.rel_append (List.rel_append ?_ ?_) ?_) ?_) ?_
  · exact .cons (bare rfl) (.cons (quoted rfl) (.cons (bare rfl) .nil))
  · refine List.rel_flatMap readDirectories fun pattern text passes => ?_
    exact .cons (bare rfl) (.cons (bare rfl) (.cons (bare rfl) (.cons passes
      (.cons (bare rfl) (.cons (bare rfl) .nil)))))
  · refine List.rel_flatMap readFiles fun pattern text passes => ?_
    exact .cons (bare rfl) (.cons (bare rfl) (.cons (bare rfl) (.cons passes
      (.cons (bare rfl) .nil))))
  · split
    · exact .nil
    · exact .cons (bare rfl) (.cons (quoted rfl) (.cons (bare rfl) (.cons (bare rfl) .nil)))
  · exact .cons (bare rfl) (.cons (bare rfl) (.cons (bare rfl) .nil))

/-- The shell reads the command as one command with these words. -/
theorem readCommand_findCommand (literal : isLiteral root = true)
    (readDirectories : List.Forall₂ (fun pattern => Passes engine state (shellWord pattern))
      settings.ignoredDirectories directories)
    (readFiles : List.Forall₂ (fun pattern => Passes engine state (shellWord pattern))
      settings.ignoredFiles files) (next : Nat) :
    ∃ line words target after,
      Shell.readCommand.run (Shell.Cursor.start (findCommand settings root) next []) =
        .ok ((some (.simple line [] words [.mk 2 .write target]), true), after) ∧
      Shell.Gets (Shell.expandWords engine words) state
        ("find".toList :: findArguments settings root directories files) := by
  rcases Shell.exists_words (passes_findPieces literal readDirectories readFiles) with
    ⟨words, areWords, expanded⟩
  have isName : Shell.IsWord "find".toList [.text false "find".toList] :=
    Shell.isWord_plain (by decide) (by decide) rfl
  have isTarget : Shell.IsWord ('/' :: "dev/null".toList)
      [.text false ('/' :: "dev/null".toList)] :=
    Shell.isWord_plain (by decide) (by decide) rfl
  rcases Shell.readCommand_line isName (by decide) areWords isTarget (by decide)
    (by decide) next with ⟨line, after, read⟩
  refine ⟨line, [.text false "find".toList] :: words, [.text false ('/' :: "dev/null".toList)],
    after, ?_, Shell.gets_expandWords (.cons ?_ expanded)⟩
  · rw [findCommand_eq]
    exact read
  · exact Shell.gets_expandWord_plain (by decide) (by decide) rfl

/-! ## The expression at the starting point -/

section

variable {place : Place} (isDirectory : Tool.Find.kindOf place = 'd')

include isDirectory

theorem anyPrunes_directories (later : List Group) :
    anyPrunes place
        (directories.map (fun pattern => ⟨.directory, [.name pattern, .prune]⟩) ++ later) =
      (directories.any (fun pattern => Glob.holds pattern place.baseName) ||
        anyPrunes place later) := by
  induction directories with
  | nil => rfl
  | cons pattern directories ih =>
      rw [List.map_cons, List.cons_append, anyPrunes, ih, List.any_cons]
      cases holds : Glob.holds pattern place.baseName <;>
        simp [Group.prunes, Group.reachesPrune, Group.holds, Group.tests, Test.holds, isDirectory,
          holds]

/-- A directory passes by what is said about files. -/
theorem passesBy_file (others : List Test) :
    (⟨.file, others⟩ : Group).holds place = false ∧
      (⟨.file, others⟩ : Group).prunes place = false := by
  have noFile : Test.holds place .file = false := by simp [Test.holds, isDirectory]
  constructor
  · simp [Group.holds, Group.tests, noFile]
  · cases others <;> simp [Group.prunes, Group.reachesPrune, noFile]

theorem anyPrunes_files (later : List Group) :
    anyPrunes place (files.map (fun pattern => ⟨.file, [.name pattern]⟩) ++ later) =
      anyPrunes place later := by
  induction files with
  | nil => rfl
  | cons pattern files ih =>
      rcases passesBy_file isDirectory [.name pattern] with ⟨misses, goesOn⟩
      rw [List.map_cons, List.cons_append, anyPrunes, ih, misses, goesOn]
      simp

/-- The alternative for the name `.` keeps the others from being tried. Of these the ones with an
action to prune are for the names of directories to ignore and for hidden ones. -/
theorem anyPrunes_findGroups (showHidden : Bool) :
    anyPrunes place (⟨.name ['.'], []⟩ :: findGroups showHidden directories files) = true ↔
      place.baseName ≠ ['.'] ∧
        ((∃ pattern ∈ directories, Glob.holds pattern place.baseName = true) ∨
          (showHidden = false ∧ place.baseName.head? = some '.')) := by
  have guard : anyPrunes place (⟨.name ['.'], []⟩ :: findGroups showHidden directories files) =
      (!Glob.holds ['.'] place.baseName &&
        anyPrunes place (findGroups showHidden directories files)) := by
    simp [anyPrunes, Group.prunes, Group.reachesPrune, Group.holds, Group.tests, Test.holds]
  have hidden : anyPrunes place
      ((if showHidden then [] else [⟨.name ['.', '*'], [.prune]⟩]) ++ [⟨.file, [.print]⟩]) =
      (!showHidden && Glob.holds ['.', '*'] place.baseName) := by
    cases showHidden <;>
      simp [anyPrunes, Group.prunes, Group.reachesPrune, Test.holds]
  rw [guard, findGroups, List.append_assoc, List.append_assoc, anyPrunes_directories isDirectory,
    anyPrunes_files isDirectory, hidden]
  simp only [Bool.and_eq_true, Bool.not_eq_true', ← Bool.not_eq_true, Glob.holds_dot_iff,
    Bool.or_eq_true, List.any_eq_true, Glob.holds_hidden_iff, ne_eq]

end

/-- The root is the one starting point, and the alternatives are the expression. -/
theorem startingPoints_findArguments (absolute : root.head? = some '/') :
    Tool.Find.startingPoints ((findArguments settings root directories files).dropWhile
        fun argument => ["-H", "-L", "-P"].any (·.toList = argument)) =
      ([root], alternativeWords ⟨.name ['.'], []⟩
        (findGroups settings.showHidden directories files)) := by
  rcases root with _ | ⟨c, root⟩
  · cases absolute
  cases absolute
  have begins : ∃ others, alternativeWords ⟨.name ['.'], []⟩
      (findGroups settings.showHidden directories files) = "-name".toList :: others := by
    rw [findGroups_words]
    exact ⟨_, rfl⟩
  rcases begins with ⟨others, begins⟩
  have noSwitch : ((('/' :: root) :: "-name".toList :: others).dropWhile
      fun argument => ["-H", "-L", "-P"].any (·.toList = argument)) =
      ('/' :: root) :: "-name".toList :: others := by
    simp
  have dropped : (((if settings.followLinks then ["-L".toList] else []) ++ ('/' :: root) ::
      "-name".toList :: others).dropWhile
      fun argument => ["-H", "-L", "-P"].any (·.toList = argument)) =
      ('/' :: root) :: "-name".toList :: others := by
    split
    · exact noSwitch
    · exact noSwitch
  rw [findArguments, begins, dropped]
  simp [Tool.Find.startingPoints]

/-- The place that a walk from the root begins at, if the root is a directory. -/
def startPlace (root : Text) (location : Location) : Place :=
  ⟨root, Tool.Files.lastName root, [], 0, location, .directory⟩

theorem decided_startPlace {walk : Tool.Find.Progression} (runner : Tool.Runner)
    (location : Location) (showHidden : Bool) (goesOn : walk.quit = false)
    (unpruned : walk.pruned = false) :
    ∃ holds after,
      (Tool.Find.decideAt runner (startPlace root location)
        (either ⟨.name ['.'], []⟩ (findGroups showHidden directories files)).completed).run walk =
          (holds, after) ∧
      (after.pruned = true ↔
        Tool.Files.lastName root ≠ ['.'] ∧
          ((∃ pattern ∈ directories, Glob.holds pattern (Tool.Files.lastName root) = true) ∨
            (showHidden = false ∧ (Tool.Files.lastName root).head? = some '.'))) := by
  have isThere : (⟨.file, [.print]⟩ : Group) ∈
      ⟨.name ['.'], []⟩ :: findGroups showHidden directories files := by
    simp [findGroups]
  have completed := Tool.Find.completed_either isThere (by simp [Group.tests])
  rcases Tool.Find.decides_either runner (startPlace root location) ⟨.name ['.'], []⟩
    (findGroups showHidden directories files) walk goesOn with ⟨after, run, -, pruned⟩
  rw [← completed] at run
  refine ⟨_, after, run, ?_⟩
  rw [pruned, unpruned, Bool.false_or]
  exact anyPrunes_findGroups rfl showHidden

/-- The shell hands the tool `find` the root and the expression of the listing. At the root itself
the expression prunes exactly if its last name is not `.` and is that of a directory to ignore or,
unless hidden files are shown, begins with a dot. Then the walk from the root ends there. -/
theorem find_prunes_start_iff (settings : ListingSettings) (absolute : root.head? = some '/')
    (directories files : List Text) :
    (∀ (engine : Engine) (state : State), isLiteral root = true →
      List.Forall₂ (fun pattern => Passes engine state (shellWord pattern))
        settings.ignoredDirectories directories →
      List.Forall₂ (fun pattern => Passes engine state (shellWord pattern))
        settings.ignoredFiles files →
      ∀ next, ∃ line words target after,
        Shell.readCommand.run (Shell.Cursor.start (findCommand settings root) next []) =
          .ok ((some (.simple line [] words [.mk 2 .write target]), true), after) ∧
        Shell.Gets (Shell.expandWords engine words) state
          ("find".toList :: findArguments settings root directories files)) ∧
    ∃ tests expression,
      Tool.Find.startingPoints ((findArguments settings root directories files).dropWhile
        fun argument => ["-H", "-L", "-P"].any (·.toList = argument)) = ([root], tests) ∧
      Tool.Find.readExpression tests = .ok (expression, ⟨0, none, false⟩) ∧
      ∀ runner location (walk : Tool.Find.Progression), walk.quit = false → walk.pruned = false →
        ∃ holds after,
          (Tool.Find.decideAt runner (startPlace root location) expression.completed).run walk =
            (holds, after) ∧
          (after.pruned = true ↔
            Tool.Files.lastName root ≠ ['.'] ∧
              ((∃ pattern ∈ directories,
                  Glob.holds pattern (Tool.Files.lastName root) = true) ∨
                (settings.showHidden = false ∧
                  (Tool.Files.lastName root).head? = some '.'))) ∧
          (after.pruned = true →
            walk.call.machine.files.find walk.call.machine.current root =
              .ok (location, .directory) →
            (Tool.Find.walkPoint runner expression.completed ⟨0, none, false⟩ root).run walk =
              ((), after)) := by
  refine ⟨fun engine state => readCommand_findCommand, _, _, startingPoints_findArguments absolute,
    Tool.Find.readExpression_alternatives _ _, ?_⟩
  intro runner location walk goesOn unpruned
  rcases decided_startPlace runner location settings.showHidden goesOn unpruned with
    ⟨holds, after, decided, prunes⟩
  refine ⟨holds, after, decided, prunes, ?_⟩
  intro pruned found
  exact Tool.Find.run_walkPoint_of_pruned goesOn unpruned found decided pruned

theorem find_enters_start :
    (∀ (engine : Engine) (state : State) (next : Nat), ∃ line words target after,
      Shell.readCommand.run (Shell.Cursor.start
          (findCommand { ListingSettings.default with ignoredFiles := ["*.o".toList] }
            "/w/p".toList) next []) =
        .ok ((some (.simple line [] words [.mk 2 .write target]), true), after) ∧
      Shell.Gets (Shell.expandWords engine words) state
        ("find".toList ::
          findArguments { ListingSettings.default with ignoredFiles := ["*.o".toList] }
            "/w/p".toList [".svn".toList, ".git".toList, ".hg".toList] ["*.o".toList])) ∧
    ∃ tests expression,
      Tool.Find.readExpression tests = .ok (expression, ⟨0, none, false⟩) ∧
      ∀ runner location walk, walk.quit = false → walk.pruned = false →
        ((Tool.Find.decideAt runner (startPlace "/w/p".toList location) expression.completed).run
          walk).2.pruned = false := by
  have absolute : "/w/p".toList.head? = some '/' := rfl
  rcases find_prunes_start_iff { ListingSettings.default with ignoredFiles := ["*.o".toList] }
    absolute [".svn".toList, ".git".toList, ".hg".toList] ["*.o".toList] with
    ⟨reading, tests, expression, -, read, decided⟩
  have quoted {text : Text} (literal : isLiteral text = true) (engine : Engine) (state : State) :
      Passes engine state (shellWord text) text :=
    Shell.passes_of_isLiteral literal
  refine ⟨fun engine state => ?_, tests, expression, read, ?_⟩
  · exact reading engine state (by decide)
      (.cons (quoted (by decide) _ _) (.cons (quoted (by decide) _ _)
        (.cons (quoted (by decide) _ _) .nil)))
      (.cons (quoted (by decide) _ _) .nil)
  · intro runner location walk goesOn unpruned
    have name : Tool.Files.lastName "/w/p".toList = ['p'] := by decide
    rcases decided runner location walk goesOn unpruned with ⟨holds, after, run, prunes, -⟩
    rw [run, ← Bool.not_eq_true, prunes, name]
    simp [Glob.holds, Glob.parse, Glob.parseWithin, Glob.fits, Glob.Item.accepts,
      ListingSettings.default]

/-- A project whose own name is hidden is not entered. -/
theorem find_prunes_hidden_start :
    ∃ tests expression,
      Tool.Find.startingPoints ((findArguments .default "/w/.p".toList
          ListingSettings.default.ignoredDirectories ListingSettings.default.ignoredFiles).dropWhile
        fun argument => ["-H", "-L", "-P"].any (·.toList = argument)) = (["/w/.p".toList], tests) ∧
      Tool.Find.readExpression tests = .ok (expression, ⟨0, none, false⟩) ∧
      ∀ runner location walk, walk.quit = false → walk.pruned = false →
        ((Tool.Find.decideAt runner (startPlace "/w/.p".toList location) expression.completed).run
          walk).2.pruned = true := by
  refine ⟨_, _, startingPoints_findArguments rfl, Tool.Find.readExpression_alternatives _ _, ?_⟩
  intro runner location walk goesOn unpruned
  rcases decided_startPlace runner location _ goesOn unpruned with ⟨holds, after, run, prunes⟩
  rw [run]
  exact prunes.mpr ⟨by decide, Or.inr ⟨rfl, by decide⟩⟩

end Lister

end ProjectTags
