import ProjectTags.Text.Decimal

/-!
# Shell commands

The commands of the shell: simple commands with their words and redirections, and the forms that
combine commands. A word is a list of parts, of which only the plain text stands for itself; the
others are expanded before the command is run. Every part knows whether it stood between quotes.
-/

namespace ProjectTags.Shell

/-- Which end of a value is cut off, and how much of it. -/
structure Cut where
  fromEnd : Bool
  longest : Bool
  deriving DecidableEq, Repr

/-- What is done if a parameter has no value. -/
inductive Fallback where
  /-- Another text is used. -/
  | substitute
  /-- Another text is assigned and used. -/
  | assign
  /-- Another text is used if there is a value. -/
  | alternative
  /-- The shell ends with a message. -/
  | refuse
  deriving DecidableEq, Repr

/-- What a redirection does. -/
inductive Direction where
  | read
  | write
  /-- The same, also if the shell is not to write over files. -/
  | overwrite
  | append
  | readWrite
  /-- The descriptor becomes the same as another one, or is closed. -/
  | duplicate
  /-- What is read is a text of the script, which has a number. -/
  | hereText (number : Nat)
  deriving DecidableEq, Repr

mutual

/-- A part of a word. -/
inductive Part where
  | text (quoted : Bool) (value : Text)
  | parameter (quoted : Bool) (name : Text) (use : Use)
  | output (quoted : Bool) (command : Command)
  | arithmetic (quoted : Bool) (expression : List Part)

/-- How the value of a parameter is used. -/
inductive Use where
  | value
  | length
  /-- What stands in for a missing value; an empty value may count as missing. -/
  | fallback (kind : Fallback) (emptyToo : Bool) (word : List Part)
  | cut (cut : Cut) (pattern : List Part)
  /-- A use that the shell does not know. -/
  | unknown

/-- A change of the place that a descriptor reads from or writes to. -/
inductive Redirection where
  | mk (descriptor : Nat) (direction : Direction) (target : List Part)

/-- A command. Some know the line on which they begin. -/
inductive Command where
  | nothing
  | simple (line : Nat) (assignments : List (Text × List Part)) (words : List (List Part))
      (redirections : List Redirection)
  | sequence (first second : Command)
  | both (first second : Command)
  | either (first second : Command)
  | negated (command : Command)
  /-- Commands each of which reads what the one before it writes. -/
  | pipe (commands : List Command)
  | choice (condition yes no : Command)
  | loop (untilTrue : Bool) (condition body : Command)
  | each (line : Nat) (name : Text) (items : Option (List (List Part))) (body : Command)
  | branches (line : Nat) (word : List Part) (branches : List (List (List Part) × Command))
  /-- A command for which the shell makes a copy of itself. -/
  | subshell (line : Nat) (command : Command) (redirections : List Redirection)
  /-- A command that the shell does not wait for. -/
  | background (line : Nat) (command : Command) (redirections : List Redirection)
  /-- A name that stands for a command from then on. -/
  | function (name : Text) (body : Command)
  | redirected (line : Nat) (command : Command) (redirections : List Redirection)

end

/-- A word is a list of parts. -/
abbrev Word := List Part

/-- Whether a character may begin a name. -/
def beginsName (c : Char) : Bool :=
  c.isAlpha || c = '_'

/-- Whether a character may stand in a name. -/
def inName (c : Char) : Bool :=
  beginsName c || Text.isDigit c

/-- Whether a text is the name of a variable. -/
def isName : Text → Bool
  | [] => false
  | c :: rest => beginsName c && rest.all inName

/-- Whether a character is the name of a special parameter. -/
def isSpecial (c : Char) : Bool :=
  "*@#?-$!".toList.elem c || Text.isDigit c

/-- Whether a character ends a word that is not quoted. -/
def endsWord (c : Char) : Bool :=
  " \t\n;&|<>()".toList.elem c

/-- The commands that are part of the shell's own language, which no function replaces. -/
def specialCommands : List Text :=
  [".", ":", "break", "continue", "eval", "exec", "exit", "export", "local", "readonly", "return",
    "set", "shift", "times", "trap", "unset"].map String.toList

/-- The commands that the shell carries out itself, but that functions may replace. -/
def regularCommands : List Text :=
  ["[", "alias", "cd", "chdir", "command", "echo", "false", "getopts", "kill", "printf", "pwd",
    "test", "true", "type", "unalias", "wait"].map String.toList

end ProjectTags.Shell
