import ProjectTags.Machine.FileTree
import ProjectTags.Shell.Glob
import ProjectTags.Text.Mode

/-!
# Expressions on places

What `find` decides and does at every place that it comes to. An expression is made of tests and
actions; those side by side all have to hold, and of alternatives one. If an expression has no action
that writes or changes anything, paths are written wherever it holds.
-/

namespace ProjectTags.Tool.Find

/-- How a number is compared: with a sign in front it is to be greater or smaller. -/
inductive Comparison where
  | exactly (number : Nat)
  | above (number : Nat)
  | under (number : Nat)
  deriving DecidableEq, Repr

/-- Whether a number compares as asked for. -/
def Comparison.holds : Comparison → Nat → Bool
  | exactly number, n => n = number
  | above number, n => number < n
  | under number, n => n < number

/-- What is decided or done at a place. -/
inductive Expression where
  | always (holds : Bool)
  | name (folded : Bool) (pattern : Text)
  | path (folded : Bool) (pattern : Text)
  | kind (letters : Text)
  | empty
  | executable
  | size (unit : Nat) (comparison : Comparison)
  /-- A test of the rights, of which all are asked for, or any, or exactly those. -/
  | rights (sign : Option Char) (bits : Nat)
  | prune
  | quit
  | delete
  /-- Writes the path with a character behind it. -/
  | print (stop : Char)
  | format (text : Text)
  /-- Runs a program at the place, or with many places at once. -/
  | execute (words : List Text) (together : Bool)
  | not (expression : Expression)
  | and (first second : Expression)
  | or (first second : Expression)
  | list (first second : Expression)
  deriving DecidableEq, Repr

namespace Expression

/-- Whether an expression does something other than going on or not. -/
def acts : Expression → Bool
  | print _ | format _ | execute _ _ | delete => true
  | not expression => acts expression
  | and first second | or first second | list first second => acts first || acts second
  | _ => false

/-- The expression that writes paths where it holds, unless it acts by itself. -/
def completed (expression : Expression) : Expression :=
  if expression.acts then expression else .and expression (.print '\n')

end Expression

/-- Where and in which order places are visited. -/
structure Bounds where
  least : Nat
  most : Option Nat
  /-- Whether what is in a directory comes before it. -/
  insideFirst : Bool

/-- What is known while an expression is read. -/
structure Progress where
  words : List Text
  bounds : Bounds
  /-- The test or action that was read last. -/
  latest : Text

/-- A step of reading an expression. What is wrong with it is told as a text. -/
abbrev Reading := StateT Progress (Except Text)

/-- The next word, taken away. -/
def nextWord? : Reading (Option Text) := do
  let progress ← get
  match progress.words with
  | [] => return none
  | word :: others =>
      set { progress with words := others }
      return some word

/-- The word behind a test that needs one. -/
def argument (test : Text) : Reading Text := do
  match ← nextWord? with
  | some word => return word
  | none => throw ("missing argument to \x60".toList ++ test ++ ['\''])

/-- A number of a bound. -/
def boundOf (test word : Text) : Reading Nat := do
  if word.isEmpty || !word.all Text.isDigit then
    throw ("Expected a positive decimal integer argument to ".toList ++ test ++
      ", but got '".toList ++ word ++ ['\''])
  return Text.valueOf word

/-- A number with a sign in front that says how to compare with it. -/
def comparison? (word : Text) : Option Comparison :=
  let number? (digits : Text) : Option Nat :=
    if digits.isEmpty || !digits.all Text.isDigit then none else some (Text.valueOf digits)
  match word with
  | '+' :: digits => (number? digits).map .above
  | '-' :: digits => (number? digits).map .under
  | digits => (number? digits).map .exactly

/-- The size of the unit that a letter stands for. -/
def unitOf? : Char → Option Nat
  | 'b' => some 512
  | 'c' => some 1
  | 'w' => some 2
  | 'k' => some 1024
  | 'M' => some 1048576
  | 'G' => some 1073741824
  | _ => none

/-- The test of a size. -/
def sizeTest? (word : Text) : Option Expression :=
  match word.getLast?.bind unitOf? with
  | some unit => (comparison? word.dropLast).map (.size unit)
  | none => (comparison? word).map (.size 512)

/-- The test of the kind of a place, by letters between commas. -/
def kindTest (word : Text) : Except Text Expression :=
  let pieces := Text.pieces ',' word
  match pieces.find? fun piece => piece.length != 1 with
  | some _ => .error "Must separate multiple arguments to -type using: ','".toList
  | none =>
      match word.find? fun c => !"bcdpflsD,".toList.elem c with
      | some c => .error ("Unknown argument to -type: ".toList ++ [c])
      | none => .ok (.kind pieces.flatten)

/-- The words of a program to run, up to their end, and whether it runs with many places at once. -/
def commandWords? : List Text → List Text → Option (List Text × Bool × List Text)
  | _, [] => none
  | before, [';'] :: others => if before.isEmpty then none else some (before.reverse, false, others)
  | ['\x7b', '\x7d'] :: before, ['+'] :: others =>
      if before.isEmpty then none else some (before.reverse, true, others)
  | before, word :: others => commandWords? (word :: before) others

/-- Reads a test or an action. -/
def readTest (word : Text) : Reading Expression := do
  modify fun progress => { progress with latest := word }
  match String.ofList word with
  | "-name" => return .name false (← argument word)
  | "-iname" => return .name true (← argument word)
  | "-path" | "-wholename" => return .path false (← argument word)
  | "-ipath" | "-iwholename" => return .path true (← argument word)
  | "-type" | "-xtype" =>
      match kindTest (← argument word) with
      | .ok test => return test
      | .error message => throw message
  | "-empty" => return .empty
  | "-executable" => return .executable
  | "-readable" | "-writable" | "-true" => return .always true
  | "-false" => return .always false
  | "-newer" | "-anewer" | "-cnewer" | "-samefile" | "-regex" | "-iregex" =>
      let _ ← argument word
      return .always false
  | "-user" | "-group" =>
      let name ← argument word
      return .always (name = "root".toList || name = ['0'])
  | "-mtime" | "-atime" | "-ctime" | "-mmin" | "-amin" | "-cmin" =>
      let value ← argument word
      match comparison? value with
      | some comparison => return .always (comparison.holds 0)
      | none => throw ("invalid argument \x60".toList ++ value ++ "' to \x60".toList ++ word ++ ['\''])
  | "-size" =>
      let value ← argument word
      match sizeTest? value with
      | some test => return test
      | none => throw ("Invalid argument \x60".toList ++ value ++ "' to -size".toList)
  | "-perm" =>
      let value ← argument word
      let (sign, mode) := match value with
        | '-' :: mode => (some '-', mode)
        | '/' :: mode => (some '/', mode)
        | mode => (none, mode)
      match Text.applyMode 0 mode with
      | some bits => return .rights sign bits
      | none => throw ("invalid mode '".toList ++ value ++ ['\''])
  | "-maxdepth" =>
      let most ← boundOf word (← argument word)
      modify fun progress =>
        { progress with bounds := { progress.bounds with most := some most } }
      return .always true
  | "-mindepth" =>
      let least ← boundOf word (← argument word)
      modify fun progress =>
        { progress with bounds := { progress.bounds with least := least } }
      return .always true
  | "-depth" | "-d" =>
      modify fun progress =>
        { progress with bounds := { progress.bounds with insideFirst := true } }
      return .always true
  | "-delete" =>
      modify fun progress =>
        { progress with bounds := { progress.bounds with insideFirst := true } }
      return .delete
  | "-follow" | "-mount" | "-xdev" | "-noleaf" | "-daystart" | "-warn" | "-nowarn" =>
      return .always true
  | "-prune" => return .prune
  | "-quit" => return .quit
  | "-print" => return .print '\n'
  | "-print0" => return .print '\x00'
  | "-printf" => return .format (← argument word)
  | "-exec" | "-execdir" =>
      let progress ← get
      match commandWords? [] progress.words with
      | some (words, together, others) =>
          set { progress with words := others }
          return .execute words together
      | none => throw ("missing argument to \x60".toList ++ word ++ ['\''])
  | _ => throw ("unknown predicate \x60".toList ++ word ++ ['\''])

/-- Whether a word is an operator between two expressions. -/
def isBinary (word : Text) : Bool :=
  ["-o", "-or", "-a", "-and", ","].any (·.toList = word)

/-- What is wrong if an expression is missing behind an operator. -/
def nothingBehind (word : Text) : Text :=
  "expected an expression after '".toList ++ word ++ ['\'']

mutual

/-- Expressions of which the last one counts. -/
def readList : Nat → Text → Reading Expression
  | 0, before => throw (nothingBehind before)
  | steps + 1, before => do
      let first ← readEither steps before
      match (← get).words with
      | [','] :: others =>
          modify fun progress => { progress with words := others }
          return .list first (← readList steps [','])
      | _ => return first

/-- Alternatives. -/
def readEither : Nat → Text → Reading Expression
  | 0, before => throw (nothingBehind before)
  | steps + 1, before => do
      let first ← readEvery steps before
      match (← get).words with
      | word :: others =>
          if word = "-o".toList || word = "-or".toList then
            modify fun progress => { progress with words := others }
            return .or first (← readEither steps word)
          else return first
      | [] => return first

/-- Expressions that all have to hold. -/
def readEvery : Nat → Text → Reading Expression
  | 0, before => throw (nothingBehind before)
  | steps + 1, before => do
      let first ← readOne steps before
      match (← get).words with
      | [] => return first
      | word :: others =>
          if word = "-a".toList || word = "-and".toList then
            modify fun progress => { progress with words := others }
            return .and first (← readEvery steps word)
          else if isBinary word || word = [')'] then return first
          else return .and first (← readEvery steps [])

/-- One expression, behind a given operator. -/
def readOne : Nat → Text → Reading Expression
  | 0, before => throw (nothingBehind before)
  | steps + 1, before => do
      match ← nextWord? with
      | none => throw (nothingBehind before)
      | some word =>
          if word = ['!'] || word = "-not".toList then
            return .not (← readOne steps word)
          else if word = ['('] then
            if (← get).words.head? = some [')'] then
              throw "invalid expression; empty parentheses are not allowed.".toList
            let inner ← readList steps word
            if (← nextWord?) = some [')'] then return inner
            else throw ("invalid expression; I was expecting to find a ')' somewhere but did not " ++
              "see one.").toList
          else if isBinary word then
            throw ("invalid expression; you have used a binary operator '".toList ++ word ++
              "' with nothing before it.".toList)
          else if word.head? = some '-' then readTest word
          else
            throw ("paths must precede expression: \x60".toList ++ word ++ ['\''])

end

/-- Reads an expression; no words hold everywhere. -/
def readExpression (words : List Text) : Except Text (Expression × Bounds) :=
  let bounds : Bounds := ⟨0, none, false⟩
  if words.isEmpty then .ok (.always true, bounds)
  else do
    let (expression, progress) ← (readList (6 * words.length + 6) []).run ⟨words, bounds, []⟩
    match progress.words with
    | [] => return (expression, progress.bounds)
    | _ => throw "you have too many ')'".toList

end ProjectTags.Tool.Find
