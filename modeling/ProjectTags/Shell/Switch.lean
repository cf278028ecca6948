import ProjectTags.Shell.State

/-!
# Switches of the shell's own commands

The arguments of a command begin with its switches: words of letters behind a hyphen. A letter may
have a value, which is the rest of its word or the next word. Two hyphens end the switches.
-/

namespace ProjectTags.Shell

/-- The letters that a command knows, each with whether it has a value. -/
abbrev Letters := List (Char × Bool)

/-- Reads the letters of one word. The words behind it that are left come out too. -/
def readLetters (known : Letters) (others : List Text) :
    Text → Step (List (Char × Text) × List Text)
  | [] => return ([], others)
  | c :: rest => do
      match known.lookup c, rest, others with
      | none, _, _ => mistake ("Illegal option -".toList ++ [c])
      | some false, rest, others =>
          let (more, others) ← readLetters known others rest
          return ((c, []) :: more, others)
      | some true, [], value :: others => return ([(c, value)], others)
      | some true, [], [] => mistake ("No arg for -".toList ++ c :: " option".toList)
      | some true, value, others => return ([(c, value)], others)

/-- Reads the switches at the front of some words, at most so many words. -/
def readSwitchesWithin (known : Letters) :
    Nat → List Text → Step (List (Char × Text) × List Text)
  | _, ['-', '-'] :: others => return ([], others)
  | words + 1, ('-' :: c :: letters) :: others => do
      let (found, others) ← readLetters known others (c :: letters)
      let (more, operands) ← readSwitchesWithin known words others
      return (found ++ more, operands)
  | _, operands => return ([], operands)

/-- Reads the switches at the front of some words, and gives the words behind them too. -/
def readSwitches (known : Letters) (arguments : List Text) :
    Step (List (Char × Text) × List Text) :=
  readSwitchesWithin known arguments.length arguments

/-- The operands of a command that knows no switches. -/
def operandsOf (arguments : List Text) : Step (List Text) := do
  let (_, operands) ← readSwitches [] arguments
  return operands

/-- Writes a text to the standard output. -/
def say (text : Text) : Step Unit := do
  if !(← writeTo 1 (SingleByte.toBytes text)) then
    modifyProcess fun process => { process with outputFailed := true }

/-- A text in quotes that the shell reads as the text, within a number of runs of quotes. -/
def quotedWithin : Nat → Text → Text
  | 0, _ => []
  | runs + 1, text =>
      let front := text.takeWhile (· != '\'')
      let marks := (text.drop front.length).takeWhile (· = '\'')
      let after := text.drop (front.length + marks.length)
      '\'' :: front ++ ['\''] ++ (if marks.isEmpty then [] else '"' :: marks ++ ['"']) ++
        (if after.isEmpty then [] else quotedWithin runs after)

/-- A text in quotes that the shell reads as the text. -/
def quotedText (text : Text) : Text := quotedWithin (text.length + 1) text

/-- A command of the shell itself. What comes out is its status. -/
abbrev Builtin := Engine → Stance → List Text → Step Nat

end ProjectTags.Shell
