import ProjectTags.Text.Integer

/-!
# Quoted text of TOML

Text stands between double quotes, where a backslash begins the code of a character, or between
single quotes, where it does not. Three quotes in the place of one let the text go over several
lines. The readers take what they read from the front of a text and give the rest.
-/

namespace ProjectTags.Toml

/-- Whether a character may stand in a comment or between quotes. -/
def isPrintable (c : Char) : Bool :=
  c = '\t' || (' ' ≤ c && c != '\x7f')

/-- Whether a character separates what stands on one line. -/
def isSpace (c : Char) : Bool :=
  c = ' ' || c = '\t'

/-- The text after the spaces at its front. -/
def skipSpaces (text : Text) : Text :=
  text.dropWhile isSpace

/-- The text after a line break. -/
def lineBreak? : Text → Option Text
  | '\n' :: rest => some rest
  | '\r' :: '\n' :: rest => some rest
  | _ => none

/-- The text after spaces and line breaks. -/
def skipEmptyLines : Text → Text
  | ' ' :: rest => skipEmptyLines rest
  | '\t' :: rest => skipEmptyLines rest
  | '\n' :: rest => skipEmptyLines rest
  | '\r' :: '\n' :: rest => skipEmptyLines rest
  | text => text

/-- The character with a code of some hexadecimal digits. -/
def codedCharacter? (count : Nat) (text : Text) : Option (Char × Text) :=
  let digits := text.take count
  let code := Text.valueIn 16 digits
  if digits.length = count && digits.all (Text.isDigitOf 16) && code.isValidChar then
    some (Char.ofNat code, text.drop count)
  else none

/-- The character that stands behind a backslash in a coded form. -/
def escaped? : Text → Option (Char × Text)
  | 'b' :: rest => some ('\x08', rest)
  | 't' :: rest => some ('\t', rest)
  | 'n' :: rest => some ('\n', rest)
  | 'f' :: rest => some ('\x0c', rest)
  | 'r' :: rest => some ('\r', rest)
  | '"' :: rest => some ('"', rest)
  | '\\' :: rest => some ('\\', rest)
  | 'u' :: rest => codedCharacter? 4 rest
  | 'U' :: rest => codedCharacter? 8 rest
  | _ => none

/-- The text after a backslash at the end of a line, which joins the line with the next one that
is not empty. -/
def joinedLine? (text : Text) : Option Text :=
  (lineBreak? (skipSpaces text)).map skipEmptyLines

/-- A kind of quotes. -/
inductive Quotation where
  | single
  | double
  deriving DecidableEq, Repr

namespace Quotation

/-- The quote. -/
def mark : Quotation → Char
  | single => '\''
  | double => '"'

/-- Whether a backslash is special between the quotes. -/
def hasEscapes : Quotation → Bool
  | single => false
  | double => true

/-- Reads a text on one line up to its closing quote, within a number of steps. -/
def lineWithin (quotation : Quotation) : Nat → Text → Option (Text × Text)
  | 0, _ => none
  | _ + 1, [] => none
  | steps + 1, c :: rest =>
      if c = quotation.mark then some ([], rest)
      else if c = '\\' && quotation.hasEscapes then do
        let (coded, rest) ← escaped? rest
        let (others, rest) ← lineWithin quotation steps rest
        return (coded :: others, rest)
      else if isPrintable c then do
        let (others, rest) ← lineWithin quotation steps rest
        return (c :: others, rest)
      else none

/-- The text behind three quotes at its front, if it has them. -/
def triple? (quotation : Quotation) (text : Text) : Option Text :=
  Text.dropPrefix? (List.replicate 3 quotation.mark) text

/-- What closes a text of several lines: behind the three quotes there may be two more, which then
belong to the text. -/
def closing (quotation : Quotation) (afterTriple : Text) : Text × Text :=
  let more := (afterTriple.take 2).takeWhile (· = quotation.mark)
  (more, afterTriple.drop more.length)

/-- Reads a text of several lines up to its closing quotes, within a number of steps. -/
def blockWithin (quotation : Quotation) : Nat → Text → Option (Text × Text)
  | 0, _ => none
  | _ + 1, [] => none
  | steps + 1, c :: rest =>
      match quotation.triple? (c :: rest), lineBreak? (c :: rest) with
      | some after, _ => some (quotation.closing after)
      | none, some after => do
          let (others, rest) ← blockWithin quotation steps after
          return ('\n' :: others, rest)
      | none, none =>
          if c = '\\' && quotation.hasEscapes then
            match joinedLine? rest with
            | some after => blockWithin quotation steps after
            | none => do
                let (coded, rest) ← escaped? rest
                let (others, rest) ← blockWithin quotation steps rest
                return (coded :: others, rest)
          else if isPrintable c then do
            let (others, rest) ← blockWithin quotation steps rest
            return (c :: others, rest)
          else none

/-- Reads a text on one line with its quotes. -/
def line? (quotation : Quotation) (text : Text) : Option (Text × Text) := do
  let rest ← Text.dropPrefix? [quotation.mark] text
  quotation.lineWithin (rest.length + 1) rest

/-- Reads a text with its quotes. A line break right behind three quotes is left out. -/
def text? (quotation : Quotation) (text : Text) : Option (Text × Text) :=
  match quotation.triple? text with
  | some rest =>
      let rest := (lineBreak? rest).getD rest
      quotation.blockWithin (rest.length + 1) rest
  | none => quotation.line? text

end Quotation

end ProjectTags.Toml
