import ProjectTags.Shell.Arithmetic
import ProjectTags.Shell.Fields
import ProjectTags.Shell.Script

/-!
# Expansion of words

Parameters, output of commands and arithmetic give way to their values, and a tilde at the front
of a word to a home directory. What comes out are segments, which make up the arguments of a
command, or one text where a word is not split.
-/

namespace ProjectTags.Shell

/-- The home directories of the users of the machine. -/
def homes : List (Text × Text) :=
  [("root", "/root"), ("daemon", "/usr/sbin"), ("bin", "/bin"), ("sys", "/dev"),
    ("games", "/usr/games"), ("man", "/var/cache/man"), ("mail", "/var/mail"),
    ("www-data", "/var/www"), ("nobody", "/nonexistent")].map fun entry =>
      (entry.1.toList, entry.2.toList)

/-- The home directory that is named behind a tilde. -/
def homeOf? (process : Process) (user : Text) : Option Text :=
  if user.isEmpty then process.value? "HOME".toList else homes.lookup user

/-- The parts of a text at the front of which a tilde may stand. The name behind it ends at a
slash, at the end of the word, or, in an assignment, at a colon. -/
def expandTilde (process : Process) (assigned isLast : Bool) (text : Text) : List Part :=
  match text with
  | '~' :: rest =>
      let user := rest.takeWhile fun c => !(c = '/' || (assigned && c = ':'))
      let after := rest.drop user.length
      match homeOf? process user with
      | some home =>
          if after.isEmpty && !isLast then [.text false text]
          else
            (if home.isEmpty then [] else [.text true home]) ++
              (if after.isEmpty then [] else [.text false after])
      | none => [.text false text]
  | _ => [.text false text]

/-- A word with a tilde at its front expanded. -/
def withHome (process : Process) (word : Word) : Word :=
  match word with
  | .text false text :: others => expandTilde process false others.isEmpty text ++ others
  | word => word

/-- The parts of a text of an assignment, in which a tilde may stand behind every colon. -/
def expandTildes (process : Process) (isFirst isLast : Bool) (text : Text) : List Part :=
  let pieces := Text.pieces ':' text
  let last := pieces.length - 1
  (pieces.zipIdx.map fun (piece, index) =>
    if index = 0 && !isFirst then [Part.text false piece]
    else expandTilde process true (index < last || isLast) piece).intersperse
      [.text false [':']] |>.flatten

/-- The value of an assignment with tildes expanded. -/
def withHomes (process : Process) : Bool → Word → Word
  | _, [] => []
  | isFirst, .text false text :: others =>
      expandTildes process isFirst others.isEmpty text ++ withHomes process false others
  | _, part :: others => part :: withHomes process false others

/-- A value without the end that fits a pattern. -/
def cutValue (cut : Cut) (pattern value : Text) : Text :=
  let items := Glob.parse pattern
  let lengths := List.range (value.length + 1)
  if cut.fromEnd then
    let order := if cut.longest then lengths else lengths.reverse
    match order.find? fun n => Glob.fits items (value.drop n) with
    | some n => value.take n
    | none => value
  else
    let order := if cut.longest then lengths.reverse else lengths
    match order.find? fun n => Glob.fits items (value.take n) with
    | some n => value.drop n
    | none => value

/-- The letters of all options, in the order in which those that are on are shown. -/
def optionLetters : List Char := "ubaCEVvxsnmiIfe".toList

/-- What stands between arguments where they become one text. -/
def Process.joint (process : Process) : Text := process.separators.take 1

/-- Whether a name stands for the list of all arguments. -/
def isList (name : Text) : Bool := name = ['@'] || name = ['*']

/-- The value of a parameter. The arguments of a list have a character of code zero between
them. -/
def parameterValue (process : Process) (name : Text) : Option Text :=
  match name with
  | ['#'] => some (Text.digits process.arguments.length)
  | ['?'] => some (Text.digits process.status)
  | ['$'] => some (Text.digits ownNumber)
  | ['!'] => process.lastJob.map Text.digits
  | ['-'] => some (optionLetters.filter process.has)
  | ['@'] | ['*'] => some (Text.joinWith ['\x00'] process.arguments)
  | name =>
      if name.all Text.isDigit then
        if Text.valueOf name = 0 then some process.name
        else process.arguments[Text.valueOf name - 1]?
      else process.value? name

/-- The segments of a value of a parameter. -/
def valueSegments (process : Process) (quoted : Bool) (name value : Text) : List Segment :=
  if isList name then
    let pieces := if value.isEmpty && process.arguments.isEmpty then []
      else Text.pieces '\x00' value
    if name = ['*'] && quoted then [.quoted (Text.joinWith process.joint pieces)]
    else (pieces.map (Segment.ofValue quoted)).intersperse .separator
  else [Segment.ofValue quoted value]

/-- Ends the shell if it requires a parameter that is missing. -/
def requireValue (name : Text) : Step Unit := do
  let process ← getProcess
  if process.has 'u' && (parameterValue process name).isNone then
    mistake (name ++ ": parameter not set".toList)

/-- What is said about a missing parameter unless something else is to be said. -/
def missingMessage (emptyToo : Bool) : Text :=
  "parameter not set".toList ++ (if emptyToo then " or null".toList else [])

/-- The text that a command writes, without the line breaks at its end. -/
def outputText (engine : Engine) (command : Command) : Step Text := do
  let bytes ← capture engine (engine.run ⟨false, true⟩ command)
  return Text.dropWhileEnd (· = '\n') (SingleByte.ofBytes (bytes.filter (· != 0)))

/-- The value of an arithmetic expression, whose assignments are carried out. -/
def calculate (expression : Text) : Step Text := do
  let process ← getProcess
  match Arithmetic.evaluate process.value? expression with
  | .ok (value, assigned) =>
      assigned.reverse.forM fun (name, value) => setVariable name (Text.integer value)
      return Text.integer value
  | .error trouble => mistake (trouble.message expression)

/-- The segments of some parts of a word. Text of a word that stands in for a value is split like
the value. -/
def expandParts (engine : Engine) : Nat → Bool → List Part → Step (List Segment)
  | 0, _, _ => return []
  | _ + 1, _, [] => return []
  | steps + 1, standsIn, part :: others => do
      let process ← getProcess
      let inside (word : List Part) : Step (List Segment) :=
        expandParts engine steps true (withHome process word)
      let text (segments : List Segment) : Text := segments.flatMap (Segment.text process.joint)
      let segments ←
        match part with
        | .text true value => pure [Segment.quoted value]
        | .text false value =>
            pure [if standsIn then Segment.split value else Segment.plain value]
        | .output quoted command => do
            pure [Segment.ofValue quoted (← outputText engine command)]
        | .arithmetic quoted expression => do
            let inner ← expandParts engine steps false expression
            pure [Segment.ofValue quoted (← calculate (text inner))]
        | .parameter quoted name .value => do
            requireValue name
            pure (valueSegments process quoted name ((parameterValue process name).getD []))
        | .parameter _ _ .unknown => mistake "Bad substitution".toList
        | .parameter quoted name .length => do
            requireValue name
            pure [Segment.ofValue quoted
              (Text.digits ((parameterValue process name).getD []).length)]
        | .parameter quoted name (.cut cut pattern) => do
            requireValue name
            let inner ← expandParts engine steps false (withHome process pattern)
            pure (valueSegments process quoted name (cutValue cut
              (inner.flatMap (Segment.pattern process.joint))
              ((parameterValue process name).getD [])))
        | .parameter quoted name (.fallback kind emptyToo word) => do
            let value := (parameterValue process name).filter fun text =>
              !(emptyToo && text.isEmpty)
            match kind, value with
            | .alternative, none => pure (if quoted then [Segment.quoted []] else [])
            | .alternative, some _ => inside word
            | _, some value => pure (valueSegments process quoted name value)
            | .substitute, none => do
                let inner ← inside word
                pure (if quoted then Segment.quoted [] :: inner else inner)
            | .assign, none => do
                let value := text (← inside word)
                if !isName name then mistake (name ++ ": bad variable name".toList)
                setVariable name value
                pure [Segment.ofValue quoted value]
            | .refuse, none => do
                let said := text (← inside word)
                mistake (name ++ ": ".toList ++
                  (if word.isEmpty then missingMessage emptyToo else said))
      let rest ← expandParts engine steps standsIn others
      return segments ++ rest

/-- A bound for the steps of the expansion of a word. -/
def expansionSteps : Nat := 100000

/-- The arguments that a word stands for. -/
def expandWord (engine : Engine) (word : Word) : Step (List Text) := do
  let segments ← expandParts engine expansionSteps false (withHome (← getProcess) word)
  let state ← get
  let all := fields state.process.separators segments
  if state.process.has 'f' then return all.map (·.text)
  else return all.flatMap (expandPaths state.machine)

/-- The arguments that some words stand for. -/
def expandWords (engine : Engine) : List Word → Step (List Text)
  | [] => return []
  | word :: others => do
      let arguments ← expandWord engine word
      return arguments ++ (← expandWords engine others)

/-- The one text that a word stands for where it is not split. -/
def expandText (engine : Engine) (word : Word) : Step Text := do
  let segments ← expandParts engine expansionSteps false (withHome (← getProcess) word)
  return segments.flatMap (Segment.text (← getProcess).joint)

/-- The text that a text of the script stands for. -/
def expandHereText (engine : Engine) (word : Word) : Step Text := do
  let segments ← expandParts engine expansionSteps false word
  return segments.flatMap (Segment.text (← getProcess).joint)

/-- The value that an assignment gives. -/
def expandValue (engine : Engine) (word : Word) : Step Text := do
  expandHereText engine (withHomes (← getProcess) true word)

/-- The pattern that a word stands for. -/
def expandPattern (engine : Engine) (word : Word) : Step Text := do
  let segments ← expandParts engine expansionSteps false (withHome (← getProcess) word)
  return segments.flatMap (Segment.pattern (← getProcess).joint)

end ProjectTags.Shell
