import ProjectTags.Shell.Cursor

/-!
# Reading words

A word goes on up to a character that ends words, unless that is quoted. Within a word, quotes,
dollar signs and backquotes open regions that end in ways of their own, and what a backslash does
depends on the region. Commands within words are read by given functions.
-/

namespace ProjectTags.Shell

/-- How the commands within words are read. -/
structure InnerReading where
  /-- The commands up to a closing parenthesis. -/
  parenthesized : Reading Command
  /-- The commands of a whole text. -/
  whole : Reading Command

/-- Where the parts of a word end, and how characters count before that. -/
inductive Region where
  /-- A word of a command. -/
  | bare
  /-- The word behind the sign of a text of the script, in which dollar signs are plain. -/
  | closing
  | quotes
  /-- The braces of a parameter. -/
  | brace (quoted : Bool)
  /-- Double quotes within quoted braces, which only keep a brace from closing them. -/
  | innerQuotes
  /-- An arithmetic expression within some open parentheses. -/
  | arithmetic (depth : Nat)
  /-- A text of the script. -/
  | hereText
  deriving DecidableEq, Repr

namespace Region

/-- Whether what stands in a region is quoted. -/
def isQuoted : Region → Bool
  | bare | closing | brace false => false
  | _ => true

/-- Whether a region ends in front of a text. -/
def endsAt : Region → Text → Bool
  | _, [] => true
  | bare, c :: _ | closing, c :: _ => endsWord c
  | quotes, c :: _ | innerQuotes, c :: _ => c = '"'
  | brace _, c :: _ => c = '\x7d'
  | arithmetic 0, ')' :: rest => (skipJoins rest).2.head? = some ')'
  | arithmetic _, _ | hereText, _ => false

/-- What is wrong if the script ends within a region. -/
def flaw? : Region → Option Flaw
  | bare | closing | hereText => none
  | quotes | innerQuotes | brace true => some .openQuote
  | brace false => some .openBrace
  | arithmetic _ => some .openArithmetic

/-- Whether a backslash takes its special meaning from a character. -/
def isEscapable : Region → Char → Bool
  | bare, _ | closing, _ | brace false, _ => true
  | region, c =>
      c = '\\' || c = '\x60' || c = '$' || (c = '"' && region != hereText) ||
        (c = '\x7d' && (region = brace true || region = innerQuotes))

/-- Whether a double quote opens quotes in a region, and which region it opens. -/
def quotes? : Region → Option Region
  | bare | closing | brace false => some quotes
  | brace true => some innerQuotes
  | _ => none

/-- The region of the braces of a parameter that stands in a region. -/
def inBraces (region : Region) : Region := brace region.isQuoted

/-- Whether a character stands for itself in every region. -/
def isPlain (c : Char) : Bool :=
  !("\\'\"\x60$()\x7d".toList.elem c || endsWord c)

end Region

/-- Puts text in front of some parts. -/
def pushText (quoted : Bool) (text : Text) : List Part → List Part
  | .text q value :: parts =>
      if q = quoted then .text q (text ++ value) :: parts
      else .text quoted text :: .text q value :: parts
  | parts => .text quoted text :: parts

/-- The parts of a pair of double quotes. That there are quotes is a part of its own, unless they
hold the list of all arguments alone. -/
def quotedParts : List Part → List Part
  | [.parameter true ['@'] .value] => [.parameter true ['@'] .value]
  | inner => .text true [] :: inner

/-- How a missing value is replaced, by the character that says so. -/
def fallbackOf? : Char → Option Fallback
  | '-' => some .substitute
  | '=' => some .assign
  | '+' => some .alternative
  | '?' => some .refuse
  | _ => none

/-- A value that is cut, by the signs that say so. -/
def cutOf? (text : Text) : Option (Cut × Nat) :=
  match text with
  | '#' :: '#' :: _ => some (⟨false, true⟩, 2)
  | '#' :: _ => some (⟨false, false⟩, 1)
  | '%' :: '%' :: _ => some (⟨true, true⟩, 2)
  | '%' :: _ => some (⟨true, false⟩, 1)
  | _ => none

/-- The text between single quotes. -/
def readSingleQuoted : Reading Text := do
  let rest := (← get).rest
  let text := rest.takeWhile (· != '\'')
  advance (text.length + 1)
  if text.length = rest.length then fail .openQuote
  return text

/-- The text between backquotes. A backslash there stands for itself, unless it is in front of a
character that has to be told apart. -/
def readBackquoted (quoted : Bool) : Nat → Reading Text
  | 0 => fail .openBackquote
  | steps + 1 => do
      match ← remaining with
      | [] => fail .openBackquote
      | '\x60' :: _ => advance 1; return []
      | '\\' :: c :: _ =>
          advance 2
          let rest ← readBackquoted quoted steps
          if c = '\\' || c = '\x60' || c = '$' || (quoted && c = '"') then return c :: rest
          else return '\\' :: c :: rest
      | c :: _ =>
          advance 1
          return c :: (← readBackquoted quoted steps)

/-- Reads another text with a cursor of its own, which shares what belongs to the whole script. -/
def readApart {α : Type} (text : Text) (line : Nat) (read : Reading α) : Reading α := do
  let outer ← get
  set { outer with rest := text, line := line, pushed := none, announced := [], expanding := [] }
  let value ← read
  modify fun inner => { outer with texts := inner.texts, next := inner.next }
  return value

/-- The name of a parameter between braces, whether its length is asked for, and whether that is
the name of a parameter. -/
def readBracedName : Reading (Text × Bool × Bool) := do
  let special (lengthAsked : Bool) : Reading (Text × Bool × Bool) := do
    match ← peek with
    | some c =>
        if beginsName c then return (← takeChars inName, lengthAsked, true)
        else if Text.isDigit c then return (← takeChars Text.isDigit, lengthAsked, true)
        else if isSpecial c then advance 1; return ([c], lengthAsked, true)
        else return ([], false, false)
    | none => return ([], false, false)
  match ← remaining with
  | '#' :: c :: d :: _ =>
      if inName c || (isSpecial c && d = '\x7d') then advance 1; special true
      else special false
  | _ => special false

mutual

/-- The parts of a word in a region, and whether anything in it is quoted. -/
def readParts (inner : InnerReading) : Nat → Region → Reading (List Part × Bool)
  | 0, _ => return ([], false)
  | steps + 1, region => do
      let text ← remaining
      let quoted := region.isQuoted
      if region.endsAt text then
        if text.isEmpty then
          if let some flaw := region.flaw? then fail flaw
        return ([], false)
      else
        match text with
        | [] => return ([], false)
        | ['\\'] =>
            advance 1
            return ([.text true ['\\']], true)
        | '\\' :: c :: _ =>
            advance 2
            let (others, _) ← readParts inner steps region
            let own := if region.isEscapable c then [c] else ['\\', c]
            return (pushText true own others, true)
        | '\'' :: _ =>
            advance 1
            if quoted then
              let (others, more) ← readParts inner steps region
              return (pushText quoted ['\''] others, more)
            else
              let own ← readSingleQuoted
              let (others, _) ← readParts inner steps region
              return (.text true own :: others, true)
        | '"' :: _ =>
            advance 1
            match region.quotes? with
            | none =>
                let (others, more) ← readParts inner steps region
                return (pushText quoted ['"'] others, more)
            | some inside =>
                let (held, _) ← readParts inner steps inside
                advance 1
                let (others, _) ← readParts inner steps region
                return (quotedParts held ++ others, true)
        | '\x60' :: _ =>
            if region = .closing then
              advance 1
              let (others, _) ← readParts inner steps region
              return (pushText true ['\x60'] others, true)
            else
              let part ← readBackquotes inner steps quoted
              let (others, more) ← readParts inner steps region
              return (part :: others, more)
        | '$' :: _ =>
            advance 1
            let dollar ←
              if region = .closing then pure none else readDollar inner steps region
            let (others, more) ← readParts inner steps region
            match dollar with
            | some part => return (part :: others, more)
            | none => return (pushText quoted ['$'] others, more)
        | '(' :: _ =>
            advance 1
            let inside := match region with
              | .arithmetic depth => .arithmetic (depth + 1)
              | region => region
            let (others, more) ← readParts inner steps inside
            return (pushText quoted ['('] others, more)
        | ')' :: _ =>
            advance 1
            let outside := match region with
              | .arithmetic depth => .arithmetic (depth - 1)
              | region => region
            let (others, more) ← readParts inner steps outside
            return (pushText quoted [')'] others, more)
        | c :: rest =>
            let own := c :: rest.takeWhile Region.isPlain
            advance own.length
            let (others, more) ← readParts inner steps region
            return (pushText quoted own others, more)

/-- The output of the commands between backquotes. -/
def readBackquotes (inner : InnerReading) : Nat → Bool → Reading Part
  | 0, _ => fail .openBackquote
  | _ + 1, quoted => do
      advance 1
      let script ← readBackquoted quoted ((← get).rest.length + 1)
      return .output quoted (← readApart script 1 inner.whole)

/-- What a dollar sign introduces, if it introduces anything. -/
def readDollar (inner : InnerReading) : Nat → Region → Reading (Option Part)
  | 0, _ => return none
  | steps + 1, region => do
      let quoted := region.isQuoted
      match ← peek with
      | some '(' =>
          advance 1
          if (← peek) = some '(' then
            advance 1
            let (expression, _) ← readParts inner steps (.arithmetic 0)
            let _ ← remaining
            advance 1
            let _ ← remaining
            advance 1
            return some (.arithmetic quoted expression)
          else
            return some (.output quoted (← inner.parenthesized))
      | some '\x7b' =>
          advance 1
          let (name, lengthAsked, known) ← readBracedName
          let use ← readUse inner steps region lengthAsked known
          advance 1
          return some (.parameter quoted name use)
      | some c =>
          if beginsName c then return some (.parameter quoted (← takeChars inName) .value)
          else if isSpecial c then
            advance 1
            return some (.parameter quoted [c] .value)
          else return none
      | none => return none

/-- How a parameter between braces is used, up to the closing brace. -/
def readUse (inner : InnerReading) : Nat → Region → Bool → Bool → Reading Use
  | 0, _, _, _ => return .unknown
  | steps + 1, region, lengthAsked, known => do
      let text ← remaining
      match known, lengthAsked, text with
      | true, true, '\x7d' :: _ => return .length
      | true, false, '\x7d' :: _ => return .value
      | true, false, ':' :: rest =>
          let (lines, rest) := skipJoins rest
          advance (1 + 2 * lines)
          match rest with
          | '\x7d' :: _ => return .value
          | c :: _ =>
              match fallbackOf? c with
              | some kind =>
                  advance 1
                  let (word, _) ← readParts inner steps region.inBraces
                  return .fallback kind true word
              | none =>
                  let _ ← readParts inner steps region.inBraces
                  return .unknown
          | [] =>
              let _ ← readParts inner steps region.inBraces
              return .unknown
      | true, false, c :: _ =>
          match fallbackOf? c, cutOf? text with
          | some kind, _ =>
              advance 1
              let (word, _) ← readParts inner steps region.inBraces
              return .fallback kind false word
          | none, some (cut, signs) =>
              advance signs
              let (pattern, _) ← readParts inner steps (.brace false)
              return .cut cut pattern
          | none, none =>
              let _ ← readParts inner steps region.inBraces
              return .unknown
      | _, _, _ =>
          let _ ← readParts inner steps region.inBraces
          return .unknown

end

/-- A bound for the steps in which the rest of a script is read. -/
def stepsFor (text : Text) : Nat := 4 * text.length + 40

/-- A word of a command, and whether anything in it is quoted. -/
def readWord (inner : InnerReading) (region : Region) : Reading (Word × Bool) := do
  readParts inner (stepsFor (← get).rest) region

end ProjectTags.Shell
