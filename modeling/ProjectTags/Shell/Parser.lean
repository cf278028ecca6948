import ProjectTags.Shell.Token

/-!
# Reading shell commands

The grammar of the shell. A script is read command by command, because what a command does may
change how the next one is read; `readCommand` reads one up to the end of its line. The readers of
the grammar call each other as deep as the script is nested, so they count down a number of steps
that starts above the length of the script.
-/

namespace ProjectTags.Shell

/-- The name in front of the sign of an assignment at the front of a word, and the rest. -/
def assignment? (word : Word) : Option (Text × Word) :=
  match word with
  | .text false text :: others =>
      match Text.splitAt? '=' text with
      | some (name, value) =>
          if isName name then
            some (name, if value.isEmpty then others else .text false value :: others)
          else none
      | none => none
  | _ => none

/-- The text of a word that is written out without anything to expand. -/
def writtenText (word : Word) : Text :=
  word.flatMap fun
    | .text _ text => text
    | _ => ['$']

/-- Puts a command into the background. -/
def inBackground (line : Nat) : Command → Command
  | .redirected line command redirections => .background line command redirections
  | command => .background line command []

/-- Reads the target of a redirection. -/
def readTarget (inner : InnerReading) (head : RedirectionHead) : Reading Redirection := do
  match head.direction with
  | .hereText _ =>
      let token ← takeToken inner .closing
      match token with
      | .word word quoted =>
          let cursor ← get
          let announcement : Announcement :=
            ⟨cursor.next, writtenText word, quoted, head.withoutTabs⟩
          set { cursor with
            next := cursor.next + 1
            announced := cursor.announced ++ [announcement] }
          return .mk head.descriptor (.hereText cursor.next) []
      | token => failAt token
  | direction =>
      let token ← takeToken inner .bare
      match token with
      | .word word _ => return .mk head.descriptor direction word
      | token => failAt token

mutual

/-- How commands within words are read. -/
def innerReading : Nat → InnerReading
  | 0 => ⟨return .nothing, return .nothing⟩
  | steps + 1 =>
      ⟨do
        let outer ← get
        set { outer with announced := [], pushed := none }
        let command ← readList steps true
        let inner := innerReading steps
        let token ← takeToken inner .bare
        if !token.isMark ")" then failFor token ")"
        readAnnounced inner
        modify fun cursor => { cursor with announced := outer.announced }
        return command,
      readList steps true⟩

/-- The next token, given what may come. -/
def expect (steps : Nat) (prospect : Prospect) : Reading Token :=
  match steps with
  | 0 => return .endOfText
  | steps + 1 => do nextToken (innerReading steps) prospect ((← get).rest.length + 2)

/-- Commands one after the other, up to a token that ends them. -/
def readList : Nat → Bool → Reading Command
  | 0, _ => return .nothing
  | steps + 1, mayBeEmpty => do
      let token ← expect steps .laterCommand
      match token with
      | .endOfText =>
          readAnnounced (innerReading steps)
          push .endOfText
          return .nothing
      | token =>
          push token
          if mayBeEmpty && token.endsList then return .nothing
          let line := (← get).line
          let first ← readChain steps
          let token ← expect steps .plain
          let first := if token.isMark "&" then inBackground line first else first
          match token with
          | .endOfText =>
              readAnnounced (innerReading steps)
              push .endOfText
              return first
          | .newline =>
              push .newline
              return .sequence first (← readList steps true)
          | token =>
              if token.isMark "&" || token.isMark ";" then
                return .sequence first (← readList steps true)
              else
                push token
                return first

/-- Pipelines between which the first one decides whether the next one is run. -/
def readChain : Nat → Reading Command
  | 0 => return .nothing
  | steps + 1 => do readChainRest steps (← readPipeline steps)

/-- The rest of a chain of pipelines. -/
def readChainRest : Nat → Command → Reading Command
  | 0, first => return first
  | steps + 1, first => do
      let token ← expect steps .plain
      if token.isMark "&&" || token.isMark "||" then
        push (← expect steps .laterCommand)
        let second ← readPipeline steps
        readChainRest steps
          (if token.isMark "&&" then .both first second else .either first second)
      else
        push token
        return first

/-- Commands of which each one reads what the one before wrote. -/
def readPipeline : Nat → Reading Command
  | 0 => return .nothing
  | steps + 1 => do
      let token ← expect steps .plain
      let negated := token.isMark "!"
      push (← if negated then expect steps .command else pure token)
      let first ← readCompound steps
      let others ← readPipes steps
      let whole := if others.isEmpty then first else .pipe (first :: others)
      return if negated then .negated whole else whole

/-- The commands behind the first one of a pipeline. -/
def readPipes : Nat → Reading (List Command)
  | 0 => return []
  | steps + 1 => do
      let token ← expect steps .plain
      if token.isMark "|" then
        push (← expect steps .laterCommand)
        let next ← readCompound steps
        return next :: (← readPipes steps)
      else
        push token
        return []

/-- One command. -/
def readCompound : Nat → Reading Command
  | 0 => return .nothing
  | steps + 1 => do
      let line := (← get).line
      let token ← expect steps .plain
      let closed (command : Command) (closer : String) : Reading Command := do
        let token ← expect steps .plain
        if !token.isMark closer then failFor token closer
        readRedirections steps line command
      if token.isMark "if" then closed (← readChoice steps) "fi"
      else if token.isMark "while" then closed (← readLoop steps false) "done"
      else if token.isMark "until" then closed (← readLoop steps true) "done"
      else if token.isMark "for" then closed (← readEach steps line) "done"
      else if token.isMark "case" then
        readRedirections steps line (← readSelection steps line)
      else if token.isMark "(" then closed (.subshell line (← readList steps false) []) ")"
      else if token.isMark "\x7b" then closed (← readList steps false) "\x7d"
      else
        match token with
        | .word _ _ | .redirection _ =>
            push token
            readSimple steps (← get).line [] [] []
        | token => failAt token

/-- The condition and the branches of a choice, behind its first word. -/
def readChoice : Nat → Reading Command
  | 0 => return .nothing
  | steps + 1 => do
      let condition ← readList steps false
      let token ← expect steps .plain
      if !token.isMark "then" then failFor token "then"
      let yes ← readList steps false
      let token ← expect steps .plain
      if token.isMark "elif" then return .choice condition yes (← readChoice steps)
      else if token.isMark "else" then return .choice condition yes (← readList steps false)
      else
        push token
        return .choice condition yes .nothing

/-- The condition and the body of a loop, behind its first word. -/
def readLoop : Nat → Bool → Reading Command
  | 0, _ => return .nothing
  | steps + 1, untilTrue => do
      let condition ← readList steps false
      let token ← expect steps .plain
      if !token.isMark "do" then failFor token "do"
      return .loop untilTrue condition (← readList steps false)

/-- The variable, the words and the body of a loop over words. -/
def readEach : Nat → Nat → Reading Command
  | 0, _ => return .nothing
  | steps + 1, line => do
      let token ← expect steps .plain
      match token with
      | .word [.text false name] false =>
          if !isName name then fail .loopVariable
          let token ← expect steps .laterCommand
          let items ←
            if token.isMark "in" then do pure (some (← readItems steps))
            else do
              if !token.isMark ";" then push token
              pure none
          let token ← expect steps .laterCommand
          if !token.isMark "do" then failFor token "do"
          return .each line name items (← readList steps false)
      | _ => fail .loopVariable

/-- The words that a loop goes through, up to the end of their line. -/
def readItems : Nat → Reading (List Word)
  | 0 => return []
  | steps + 1 => do
      match ← expect steps .plain with
      | .word word _ => return word :: (← readItems steps)
      | .newline => return []
      | token => if token.isMark ";" then return [] else failAt token

/-- The word and the branches of a selection. -/
def readSelection : Nat → Nat → Reading Command
  | 0, _ => return .nothing
  | steps + 1, line => do
      match ← expect steps .plain with
      | .word word _ =>
          let token ← expect steps .laterCommand
          if !token.isMark "in" then failFor token "in"
          return .branches line word (← readBranches steps)
      | token => fail (.unexpected token.name (some (Token.word [] false).name))

/-- The branches of a selection with the word that closes it. -/
def readBranches : Nat → Reading (List (List Word × Command))
  | 0 => return []
  | steps + 1 => do
      let token ← expect steps ⟨true, true, false⟩
      if token.isMark "esac" then return []
      else
        let token ← if token.isMark "(" then expect steps .plain else pure token
        let patterns ← readPatterns steps token
        let body ← readList steps true
        let token ← expect steps ⟨true, true, false⟩
        if token.isMark "esac" then return [(patterns, body)]
        else if token.isMark ";;" then return (patterns, body) :: (← readBranches steps)
        else failFor token ";;"

/-- The patterns of a branch with the parenthesis behind them. -/
def readPatterns : Nat → Token → Reading (List Word)
  | 0, _ => return []
  | steps + 1, token => do
      let pattern := match token with
        | .word word _ => word
        | .mark text => [.text false text]
        | _ => []
      let token ← expect steps .plain
      if token.isMark "|" then
        return pattern :: (← readPatterns steps (← expect steps .plain))
      else if token.isMark ")" then return [pattern]
      else failFor token ")"

/-- The redirections behind a command. -/
def readRedirections : Nat → Nat → Command → Reading Command
  | 0, _, command => return command
  | steps + 1, line, command => do
      let redirections ← readHeads steps
      match command, redirections with
      | command, [] => return command
      | .subshell line command _, redirections => return .subshell line command redirections
      | command, redirections => return .redirected line command redirections

/-- Redirections one after the other. -/
def readHeads : Nat → Reading (List Redirection)
  | 0 => return []
  | steps + 1 => do
      match ← expect steps .command with
      | .redirection head =>
          let redirection ← readTarget (innerReading steps) head
          return redirection :: (← readHeads steps)
      | token =>
          push token
          return []

/-- The assignments, words and redirections of a simple command, or the definition of a function.
No more assignments come once there was a word. -/
def readSimple : Nat → Nat → List (Text × Word) → List Word → List Redirection → Reading Command
  | 0, _, _, _, _ => return .nothing
  | steps + 1, line, assignments, words, redirections => do
      let token ← expect steps ⟨false, false, words.isEmpty⟩
      match token with
      | .word word _ =>
          match (if words.isEmpty then assignment? word else none) with
          | some assigned =>
              readSimple steps line (assignments ++ [assigned]) words redirections
          | none => readSimple steps line assignments (words ++ [word]) redirections
      | .redirection head =>
          let redirection ← readTarget (innerReading steps) head
          readSimple steps line assignments words (redirections ++ [redirection])
      | token =>
          match token.isMark "(", words, assignments, redirections with
          | true, [word], [], [] =>
              let token ← expect steps .plain
              if !token.isMark ")" then failFor token ")"
              let name := writtenText word
              if !isName name || specialCommands.elem name then fail .functionName
              push (← expect steps .laterCommand)
              return .function name (← readCompound steps)
          | _, _, _, _ =>
              push token
              return .simple line assignments words redirections

end

/-- Reads a command up to the end of its line. There is none at the end of the script. -/
def readCommandLine (steps : Nat) : Nat → Option Command → Reading (Option Command)
  | 0, before => return before
  | count + 1, before => do
      let inner := innerReading steps
      let joined (command : Command) : Command := match before with
        | some first => .sequence first command
        | none => command
      match ← expect steps .command with
      | .newline =>
          readAnnounced inner
          return some (before.getD .nothing)
      | .endOfText =>
          readAnnounced inner
          push .endOfText
          return before
      | token =>
          push token
          let line := (← get).line
          let command ← readChain steps
          let token ← expect steps .plain
          let command := if token.isMark "&" then inBackground line command else command
          match token with
          | .endOfText =>
              readAnnounced inner
              push .endOfText
              return some (joined command)
          | .newline =>
              readAnnounced inner
              return some (joined command)
          | token =>
              if token.isMark "&" || token.isMark ";" then
                readCommandLine steps count (some (joined command))
              else failAt token

/-- A bound for the steps in which a script is read. -/
def readingSteps (script : Text) : Nat := 20 * script.length + 200

/-- Reads a command up to the end of its line, and tells whether the script ends there. There is
no command at the end of the script. -/
def readCommand : Reading (Option Command × Bool) := do
  let cursor ← get
  set { cursor with pushed := none, announced := [] }
  let steps := readingSteps cursor.rest
  let command ← readCommandLine steps steps none
  let after ← get
  let ended := match after.pushed with
    | some .endOfText => true
    | _ => false
  return (command, ended)

end ProjectTags.Shell
