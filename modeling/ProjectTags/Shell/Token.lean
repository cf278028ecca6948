import ProjectTags.Shell.Word

/-!
# Reading tokens

The operators, redirections and words of a script. Whether a word is a reserved word, or stands
for another text, depends on where it is read, so the reader is told what may come. At the end of
a line the texts are read that its redirections have announced.
-/

namespace ProjectTags.Shell

/-- What may come next. -/
structure Prospect where
  newlines : Bool
  reserved : Bool
  aliases : Bool

namespace Prospect

/-- Nothing but operators, redirections and words. -/
def plain : Prospect := ⟨false, false, false⟩

/-- The beginning of a command. -/
def command : Prospect := ⟨false, true, true⟩

/-- The beginning of a command, perhaps on a later line. -/
def laterCommand : Prospect := ⟨true, true, true⟩

end Prospect

/-- Whether a line of a text is joined with the next one. -/
def isJoined (line : Text) : Bool :=
  (line.reverse.takeWhile (· = '\\')).length % 2 = 1

/-- The lines of a text up to its closing line, how many lines of the script these are with the
closing line, and what follows. A line may begin where another one was joined with it. -/
def splitText (announcement : Announcement) (begun : Bool) : List Text → List Text × List Text
  | [] => ([], [])
  | line :: others =>
      let line := if announcement.withoutTabs && !begun then line.dropWhile (· = '\t') else line
      if !begun && line = announcement.closing then ([], others)
      else
        let (inside, after) := splitText announcement (!announcement.literal && isJoined line) others
        (line :: inside, after)

/-- Reads an announced text. -/
def readText (inner : InnerReading) (announcement : Announcement) : Reading Unit := do
  let cursor ← get
  let lines := Text.pieces '\n' cursor.rest
  let (inside, after) := splitText announcement false lines
  let closed := after.length + inside.length < lines.length
  let text := Text.joinWith ['\n'] inside ++
    (if closed && !inside.isEmpty then ['\n'] else [])
  let rest := Text.joinWith ['\n'] after
  set { cursor with rest := rest, line := cursor.line + (lines.length - max 1 after.length) }
  let word ←
    if announcement.literal then pure [.text true text]
    else do
      let (word, _) ← readApart text cursor.line (readWord inner .hereText)
      pure word
  modify fun cursor => { cursor with texts := (announcement.number, word) :: cursor.texts }

/-- Reads the texts that were announced. -/
def readAnnounced (inner : InnerReading) : Reading Unit := do
  let announced := (← get).announced
  modify fun cursor => { cursor with announced := [] }
  announced.forM (readText inner)

/-- The front of a redirection that begins with its sign. -/
def readRedirection (descriptor : Option Nat) : Reading Token := do
  let text ← remaining
  let head (missing : Nat) (direction : Direction) (signs : Nat) (withoutTabs : Bool) :
      Reading Token := do
    advance signs
    return .redirection ⟨descriptor.getD missing, direction, withoutTabs⟩
  match text with
  | '>' :: '>' :: _ => head 1 .append 2 false
  | '>' :: '|' :: _ => head 1 .overwrite 2 false
  | '>' :: '&' :: _ => head 1 .duplicate 2 false
  | '>' :: _ => head 1 .write 1 false
  | '<' :: '<' :: '-' :: _ => head 0 (.hereText 0) 3 true
  | '<' :: '<' :: _ => head 0 (.hereText 0) 2 false
  | '<' :: '&' :: _ => head 0 .duplicate 2 false
  | '<' :: '>' :: _ => head 0 .readWrite 2 false
  | _ => head 0 .read 1 false

/-- An operator of one character, or of the same character twice. -/
def readOperator (c : Char) (doubled : Bool) : Reading Token := do
  advance 1
  if doubled && (← peek) = some c then
    advance 1
    return .mark [c, c]
  else return .mark [c]

/-- Reads a token, the blanks before it left out. -/
def readToken (inner : InnerReading) (region : Region) : Nat → Reading Token
  | 0 => return .endOfText
  | steps + 1 => do
      match ← peek with
      | none => return .endOfText
      | some ' ' => advance 1; readToken inner region steps
      | some '\t' => advance 1; readToken inner region steps
      | some '#' =>
          modify fun cursor => { cursor with rest := cursor.rest.dropWhile (· != '\n') }
          readToken inner region steps
      | some '\n' => advance 1; return .newline
      | some '&' => readOperator '&' true
      | some '|' => readOperator '|' true
      | some ';' => readOperator ';' true
      | some '(' => readOperator '(' false
      | some ')' => readOperator ')' false
      | some '<' => readRedirection none
      | some '>' => readRedirection none
      | some _ =>
          let (word, quoted) ← readWord inner region
          match word, ← peek with
          | [.text false [digit]], some sign =>
              if Text.isDigit digit && !quoted && (sign = '<' || sign = '>') then
                readRedirection (some (digit.toNat - 48))
              else return .word word quoted
          | _, _ => return .word word quoted

/-- The token that was given back, or the next one. -/
def takeToken (inner : InnerReading) (region : Region) : Reading Token := do
  let cursor ← get
  match cursor.pushed with
  | some token =>
      set { cursor with pushed := none }
      return token
  | none => readToken inner region (cursor.rest.length + 1)

/-- The text that a word stands for, unless that is being read already. -/
def aliasOf? (word : Text) : Reading (Option Text) := do
  let cursor ← get
  let expanding := cursor.expanding.filter fun entry => entry.behind ≤ cursor.rest.length
  if expanding.any (·.word = word) then return none
  else
    match cursor.aliases.lookup word with
    | none => return none
    | some text =>
        set { cursor with
          rest := text ++ cursor.rest
          expanding := ⟨word, cursor.rest.length,
            text.getLast? = some ' ' || text.getLast? = some '\t'⟩ :: expanding }
        return some text

/-- The next token, given what may come. -/
def nextToken (inner : InnerReading) (prospect : Prospect) : Nat → Reading Token
  | 0 => return .endOfText
  | steps + 1 => do
      let before ← get
      let token ← takeToken inner .bare
      let left := (← get).rest.length
      let opened := before.expanding.any fun entry =>
        entry.opensNext && entry.behind < before.rest.length && left < entry.behind
      match token with
      | .newline =>
          if prospect.newlines then
            readAnnounced inner
            nextToken inner prospect steps
          else return token
      | .word [.text false word] false =>
          if prospect.reserved && reservedWords.elem word then return .mark word
          else if prospect.aliases || opened then
            match ← aliasOf? word with
            | some _ => nextToken inner prospect steps
            | none => return token
          else return token
      | _ => return token

end ProjectTags.Shell
