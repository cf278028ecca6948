import ProjectTags.Shell.Syntax

/-!
# Reading a script

A script is read from the front. The cursor knows what is left of it and on which line that
begins, and keeps what cannot be settled at once: a token that was read too early, and the texts
of the script that redirections have announced, which stand behind the end of the line. A script
that cannot be read has a mistake on some line.
-/

namespace ProjectTags.Shell

/-- What is wrong with a script that cannot be read. -/
inductive Flaw where
  | openQuote
  | openBrace
  | openArithmetic
  | openBackquote
  | loopVariable
  | functionName
  /-- Something stands where it may not be, perhaps in the place of something else. -/
  | unexpected (found : Text) (expected : Option Text)
  deriving DecidableEq, Repr

/-- The text of a flaw. -/
def Flaw.message : Flaw → Text
  | openQuote => "Unterminated quoted string".toList
  | openBrace => "Missing '\x7d'".toList
  | openArithmetic => "Missing '))'".toList
  | openBackquote => "EOF in backquote substitution".toList
  | loopVariable => "Bad for loop variable".toList
  | functionName => "Bad function name".toList
  | unexpected found none => found ++ " unexpected".toList
  | unexpected found (some expected) =>
      found ++ " unexpected (expecting ".toList ++ expected ++ [')']

/-- A flaw on a line. -/
structure Mistake where
  line : Nat
  flaw : Flaw
  deriving DecidableEq, Repr

/-- The text of a mistake. -/
def Mistake.message (mistake : Mistake) : Text :=
  "Syntax error: ".toList ++ mistake.flaw.message

/-- The front of a redirection, before its target. -/
structure RedirectionHead where
  descriptor : Nat
  direction : Direction
  /-- Tabs at the front of the lines of a text are left out. -/
  withoutTabs : Bool

/-- What a script is made of. -/
inductive Token where
  | endOfText
  | newline
  | redirection (head : RedirectionHead)
  | word (word : Word) (quoted : Bool)
  /-- An operator or a reserved word. -/
  | mark (text : Text)

namespace Token

/-- Whether a token is a certain operator or reserved word. -/
def isMark (text : String) : Token → Bool
  | mark found => found = text.toList
  | _ => false

/-- The name of a token in messages. -/
def name : Token → Text
  | endOfText => "end of file".toList
  | newline => "newline".toList
  | redirection _ => "redirection".toList
  | word _ _ => "word".toList
  | mark text => '"' :: text ++ ['"']

/-- The tokens that may stand behind a list of commands. -/
def endsList : Token → Bool
  | mark text =>
      ([")", ";;", "do", "done", "elif", "else", "esac", "fi", "then", "\x7d"].map
        String.toList).elem text
  | endOfText => true
  | _ => false

end Token

/-- The reserved words. -/
def reservedWords : List Text :=
  ["!", "case", "do", "done", "elif", "else", "esac", "fi", "for", "if", "in", "then", "until",
    "while", "\x7b", "\x7d"].map String.toList

/-- A text of the script that a redirection has announced. -/
structure Announcement where
  number : Nat
  /-- The line that closes the text. -/
  closing : Text
  /-- Whether the text is to be taken as it stands. -/
  literal : Bool
  withoutTabs : Bool

/-- A word whose text is being read in its place. -/
structure Substitute where
  word : Text
  /-- How much of the script is left behind the text. -/
  behind : Nat
  /-- Whether the text ends in a blank, so that the word behind it may stand for another text too. -/
  opensNext : Bool

/-- A place in a script. -/
structure Cursor where
  rest : Text
  line : Nat
  /-- A token that was read already. -/
  pushed : Option Token
  announced : List Announcement
  /-- The texts that were read, by number. -/
  texts : List (Nat × Word)
  /-- The number of the next text. -/
  next : Nat
  /-- Words that stand for other texts. -/
  aliases : List (Text × Text)
  /-- The words whose texts are being read. -/
  expanding : List Substitute

/-- The front of a script. -/
def Cursor.start (script : Text) (next : Nat) (aliases : List (Text × Text)) : Cursor :=
  ⟨script, 1, none, [], [], next, aliases, []⟩

/-- A step of reading. -/
abbrev Reading := StateT Cursor (Except Mistake)

/-- Gives up reading. -/
def fail {α : Type} (flaw : Flaw) : Reading α := do
  throw ⟨(← get).line, flaw⟩

/-- Gives up at a token. -/
def failAt {α : Type} (token : Token) : Reading α :=
  fail (.unexpected token.name none)

/-- Gives up at a token in the place of which an operator or reserved word is needed. -/
def failFor {α : Type} (token : Token) (needed : String) : Reading α :=
  fail (.unexpected token.name (some (Token.mark needed.toList).name))

/-- How many lines a text joins at its front, and the text behind these. -/
def skipJoins : Text → Nat × Text
  | '\\' :: '\n' :: rest => ((skipJoins rest).1 + 1, (skipJoins rest).2)
  | text => (0, text)

/-- What is left of the script, after joined lines. -/
def remaining : Reading Text :=
  modifyGet fun cursor =>
    let (lines, rest) := skipJoins cursor.rest
    (rest, { cursor with rest := rest, line := cursor.line + lines })

/-- The next character. -/
def peek : Reading (Option Char) := return (← remaining).head?

/-- Goes on behind some characters. -/
def advance (count : Nat) : Reading Unit :=
  modify fun cursor => { cursor with
    rest := cursor.rest.drop count
    line := cursor.line + (cursor.rest.take count).count '\n' }

/-- Takes the characters of a class. -/
def takeChars (p : Char → Bool) : Reading Text := do
  let chars := (← remaining).takeWhile p
  advance chars.length
  return chars

/-- Gives a token back. -/
def push (token : Token) : Reading Unit :=
  modify fun cursor => { cursor with pushed := some token }

end ProjectTags.Shell
