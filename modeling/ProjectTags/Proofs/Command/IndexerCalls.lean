import ProjectTags.Proofs.Command.Arguments
import ProjectTags.Proofs.Job.Acts

/-!
# What the command line of the indexer tells

From the command line of the indexer it can be read back what it was called for. The optional parts
in front begin with words of their own and end at the switch for the label, which is always there.
What stands behind the label is told apart by its length: the database alone, the database behind
the switch for standard input, or the file of an update between its switch and the database. So it
does not matter if a text of the user looks like a switch.
-/

namespace ProjectTags

open Arguments

namespace IndexerOptions

/-- Whether a word is the switch for symbolic links, perhaps with a kind of links. -/
def IsSymlinkSwitch (word : Text) : Prop :=
  "--skip-symlink".toList <+: word

/-- The word for skipping symbolic links. -/
def symlinkWord? : Option Text → Option Text
  | none => none
  | some [] => some "--skip-symlink".toList
  | some kind => some ("--skip-symlink=".toList ++ kind)

/-- What is told in front of the label. -/
abbrev Optional := ((Bool × Bool) × Option Text) × Option Text

def optional (options : IndexerOptions) : Optional :=
  (((options.acceptDotfiles, options.skipUnreadable), options.skipSymlink), options.configuration)

/-- The arguments in front of the label. -/
def optionalArguments (optional : Optional) : List Text :=
  switch "--accept-dotfiles".toList optional.1.1.1 ++
    switch "--skip-unreadable".toList optional.1.1.2 ++
    symlinkArguments optional.1.2 ++ configurationArguments optional.2

/-- Whether a word begins one of the parts in front of the label. -/
def IsOptionalSwitch (word : Text) : Prop :=
  ((word = "--accept-dotfiles".toList ∨ word = "--skip-unreadable".toList) ∨
    IsSymlinkSwitch word) ∨ word = "--gtagsconf".toList

instance : DecidablePred IsSymlinkSwitch := fun word =>
  inferInstanceAs (Decidable (_ <+: word))

instance : DecidablePred IsOptionalSwitch := fun word =>
  inferInstanceAs (Decidable (((_ = _ ∨ _ = _) ∨ IsSymlinkSwitch word) ∨ _ = _))

variable {options other : IndexerOptions} {word : Text}

theorem arguments_eq (options : IndexerOptions) :
    options.arguments =
      optionalArguments options.optional ++ ["--gtagslabel".toList, options.label] := rfl

/-- The variable for headers is the one option that no argument tells. -/
theorem eq_of_optional (parts : options.optional = other.optional)
    (label : options.label = other.label) (forceCpp : options.forceCpp = other.forceCpp) :
    options = other := by
  cases options
  cases other
  simp_all [optional]

theorem environment_injective (same : options.environment = other.environment) :
    options.forceCpp = other.forceCpp := by
  cases first : options.forceCpp <;> cases second : other.forceCpp <;>
    simp_all [environment]

theorem symlinkArguments_eq : symlinkArguments = fun links => (symlinkWord? links).toList := by
  funext links
  rcases links with _ | _ | ⟨c, kind⟩ <;> rfl

theorem symlinkWord?_injective : Function.Injective symlinkWord? := by
  rintro (_ | _ | ⟨c, kind⟩) (_ | _ | ⟨d, kind'⟩) same
  all_goals simp_all [symlinkWord?]

theorem isSymlinkSwitch_of_mem (links : Option Text) :
    ∀ word ∈ symlinkWord? links, IsSymlinkSwitch word := by
  rcases links with _ | _ | ⟨c, kind⟩
  · simp [symlinkWord?]
  · rintro word ⟨⟩
    exact List.prefix_refl _
  · rintro word ⟨⟩
    exact ⟨'=' :: c :: kind, rfl⟩

theorem ne_of_isSymlinkSwitch (symlinks : IsSymlinkSwitch word) :
    ¬(word = "--accept-dotfiles".toList ∨ word = "--skip-unreadable".toList) := by
  rintro (rfl | rfl)
  · exact absurd symlinks (by decide)
  · exact absurd symlinks (by decide)

theorem isReadable_optionalArguments : IsReadable optionalArguments IsOptionalSwitch := by
  have links : IsReadable symlinkArguments IsSymlinkSwitch := by
    rw [symlinkArguments_eq]
    exact isReadable_toList symlinkWord?_injective isSymlinkSwitch_of_mem
  have linksAvoid : ∀ value, Avoids (fun word => word = "--accept-dotfiles".toList ∨
      word = "--skip-unreadable".toList) (symlinkArguments value) := by
    rw [symlinkArguments_eq]
    intro value word mem
    have given : word ∈ symlinkWord? value := by
      cases known : symlinkWord? value <;> simp_all
    exact ne_of_isSymlinkSwitch (isSymlinkSwitch_of_mem value word given)
  have configuration : IsReadable configurationArguments (· = "--gtagsconf".toList) := by
    rw [configurationArguments_eq]
    exact isReadable_valued _
  refine (((isReadable_switch _).append (isReadable_switch _) ?_).append links linksAvoid).append
    configuration ?_
  · exact avoids_switch (by decide)
  · rw [configurationArguments_eq]
    exact avoids_valued (by decide)

end IndexerOptions

/-- What the indexer is called for. -/
inductive IndexerCall where
  | build (program : Text) (target : Target) (options : IndexerOptions) (filesFromInput : Bool)
  | singleUpdate (program : Text) (target : Target) (file : Text) (options : IndexerOptions)

namespace IndexerCall

def line : IndexerCall → CommandLine
  | build program target options filesFromInput =>
      CommandLine.build program target options filesFromInput
  | singleUpdate program target file options =>
      CommandLine.singleUpdate program target file options

def program : IndexerCall → Text
  | build program .. | singleUpdate program .. => program

def target : IndexerCall → Target
  | build _ target .. | singleUpdate _ target .. => target

def options : IndexerCall → IndexerOptions
  | build _ _ options _ | singleUpdate _ _ _ options => options

/-- The arguments behind those for the options. -/
def ending : IndexerCall → List Text
  | build _ target _ filesFromInput => switch "-f-".toList filesFromInput ++ [target.database]
  | singleUpdate _ target file _ => ["--single-update".toList, file, target.database]

variable {call other : IndexerCall}

theorem arguments_line (call : IndexerCall) :
    call.line.arguments = call.options.arguments ++ call.ending := by
  cases call with
  | build => exact List.append_assoc ..
  | singleUpdate => rfl

theorem environment_line (call : IndexerCall) :
    call.line.environment = call.options.environment := by
  cases call <;> rfl

theorem getLast?_arguments (call : IndexerCall) :
    call.line.arguments.getLast? = some call.target.database := by
  cases call with
  | build => exact Executor.getLast?_build ..
  | singleUpdate => exact Executor.getLast?_singleUpdate ..

theorem directory_line (call : IndexerCall) : call.line.directory = some call.target.root := by
  cases call <;> rfl

theorem program_line (call : IndexerCall) : call.line.program = call.program := by
  cases call <;> rfl

theorem parts_eq_of_arguments (same : call.line.arguments = other.line.arguments) :
    call.options.optional = other.options.optional ∧ call.options.label = other.options.label ∧
      call.ending = other.ending := by
  simp only [arguments_line, IndexerOptions.arguments_eq, List.append_assoc] at same
  have labelAvoids : ∀ behind, Avoids IndexerOptions.IsOptionalSwitch
      ("--gtagslabel".toList :: behind) := fun _ => avoids_cons.mpr (by decide)
  rcases IndexerOptions.isReadable_optionalArguments (labelAvoids _) (labelAvoids _) same with
    ⟨optional, behind⟩
  rcases List.cons.inj (List.cons.inj behind).2 with ⟨label, ending⟩
  exact ⟨optional, label, ending⟩

theorem target_eq_of_line (same : call.line = other.line) : call.target = other.target := by
  have root : call.target.root = other.target.root := by
    have directory := congrArg CommandLine.directory same
    rw [directory_line, directory_line] at directory
    exact Option.some.inj directory
  have database : call.target.database = other.target.database := by
    have last := congrArg (·.arguments.getLast?) same
    simp only [getLast?_arguments] at last
    exact Option.some.inj last
  cases target : call.target
  cases target' : other.target
  simp_all

theorem eq_of_ending (program : call.program = other.program) (target : call.target = other.target)
    (options : call.options = other.options) (same : call.ending = other.ending) :
    call = other := by
  -- A build has one or two arguments here and an update has three.
  have length := congrArg List.length same
  cases call with
  | build p t o fromInput =>
      cases other with
      | build p' t' o' fromInput' =>
          obtain rfl : p = p' := program
          obtain rfl : t = t' := target
          obtain rfl : o = o' := options
          cases fromInput <;> cases fromInput' <;> simp_all [ending, switch]
      | singleUpdate =>
          cases fromInput <;> simp [ending, switch] at length
  | singleUpdate p t file o =>
      cases other with
      | build _ _ _ fromInput =>
          cases fromInput <;> simp [ending, switch] at length
      | singleUpdate p' t' file' o' =>
          obtain rfl : p = p' := program
          obtain rfl : t = t' := target
          obtain rfl : o = o' := options
          simp_all [ending]

/-- No two calls have the same command line, whether they are builds or updates and whatever their
texts are, and the last argument is the database. -/
theorem line_tells_call (call other : IndexerCall) :
    (call.line = other.line ↔ call = other) ∧
      call.line.arguments.getLast? = some call.target.database := by
  refine ⟨⟨fun same => ?_, congrArg line⟩, getLast?_arguments call⟩
  rcases parts_eq_of_arguments (congrArg CommandLine.arguments same) with
    ⟨optional, label, ending⟩
  have forceCpp : call.options.forceCpp = other.options.forceCpp := by
    have environment := congrArg CommandLine.environment same
    rw [environment_line, environment_line] at environment
    exact IndexerOptions.environment_injective environment
  have program : call.program = other.program := by
    rw [← program_line, ← program_line, same]
  exact eq_of_ending program (target_eq_of_line same)
    (IndexerOptions.eq_of_optional optional label forceCpp) ending

end IndexerCall

end ProjectTags
