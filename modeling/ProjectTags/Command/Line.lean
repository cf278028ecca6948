import ProjectTags.Text.Blank

/-!
# Command lines

A program with its arguments, the directory it runs in and the variables added to its
environment, before anything is run.
-/

namespace ProjectTags

/-- What is needed to run a program. -/
structure CommandLine where
  program : Text
  arguments : List Text
  /-- The directory the program starts in, if it is not the current one. -/
  directory : Option Text
  /-- The variables added to the environment, in the order in which they were added. -/
  environment : List (Text × Text)
  deriving DecidableEq, Repr

namespace CommandLine

/-- A program without arguments. -/
def ofProgram (program : Text) : CommandLine := ⟨program, [], none, []⟩

/-- The shell running a command. -/
def shell (command : Text) : CommandLine := ⟨['s', 'h'], [['-', 'c'], command], none, []⟩

/-- An argument as it is shown: between double quotes if it is empty or has white space. -/
def shownArgument (argument : Text) : Text :=
  if argument.isEmpty || argument.any Text.isBlank then '"' :: argument ++ ['"'] else argument

/-- The program and its arguments as they are shown in messages. -/
def render (line : CommandLine) : Text :=
  line.program ++ line.arguments.flatMap fun argument => ' ' :: shownArgument argument

end CommandLine

end ProjectTags
