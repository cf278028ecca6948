import ProjectTags.Text.Substitution

/-!
# Escapes

What a backslash means differs between a search pattern and Vim. This file holds the rules on
single characters: those that are operators only in Vim get a backslash, anchors and word
boundaries change their letter, and characters given by their code get Vim's percent forms.
-/

namespace ProjectTags.Pattern

/-- The characters that are operators in Vim and plain text in a search pattern. -/
def isVimOperator (c : Char) : Bool :=
  c = '%' || c = '@' || c = '&'

/-- Puts a backslash in front of a character that only Vim reads as an operator. -/
def vimOperator : Substitution where
  front
    | c :: _ => if isVimOperator c then some (['\\', c], 0) else none
    | [] => none

/-- The ends of the text become the ends of a line; the place that is no word boundary has no
counterpart and is left out. -/
def anchors (pattern : Text) : Text :=
  Text.replaceAll '\\' ['B'] []
    (Text.replaceAll '\\' ['z'] ['$'] (Text.replaceAll '\\' ['A'] ['^'] pattern))

/-- A word boundary becomes the start or the end of a word. -/
def wordBoundary (pattern : Text) : Text :=
  Text.replaceAll '\\' ['b'] ['(', '<', '|', '>', ')'] pattern

/-- The switches for ignoring and for matching case, inside a pattern. -/
def caseSwitches (pattern : Text) : Text :=
  Text.replaceAll '(' ['?', '-', 'i', ')'] ['\\', 'C']
    (Text.replaceAll '(' ['?', 'i', ')'] ['\\', 'c'] pattern)

/-- Whether a character is a hexadecimal digit, in either case. -/
def isHexDigit (c : Char) : Bool :=
  ('0' ≤ c && c ≤ '9') || ('a' ≤ c && c ≤ 'f') || ('A' ≤ c && c ≤ 'F')

/-- A character by its code in braces, of one to eight digits. -/
def bracedCode : Substitution where
  front
    | '\\' :: letter :: '{' :: rest =>
        let code := rest.takeWhile isHexDigit
        match rest.drop code.length with
        | '}' :: _ =>
            if (letter = 'x' || letter = 'u' || letter = 'U') && !code.isEmpty
                && code.length ≤ 8 then
              some (['%', 'U'] ++ code, code.length + 3)
            else none
        | _ => none
    | _ => none

/-- A character by the two digits of its code. -/
def byteCode : Substitution where
  front
    | '\\' :: 'x' :: high :: low :: _ =>
        if isHexDigit high && isHexDigit low then some (['%', 'x', high, low], 3) else none
    | _ => none

/-- The letter in front of a code of four or eight digits. -/
def unicodeLetter : Substitution where
  front
    | '\\' :: letter :: _ =>
        if letter = 'u' || letter = 'U' then some (['%', letter], 1) else none
    | _ => none

/-- Control characters by letter and characters by code. -/
def characterCodes (pattern : Text) : Text :=
  unicodeLetter.everywhere <| byteCode.everywhere <| bracedCode.everywhere <|
    Text.replaceAll '\\' ['v'] ['%', 'x', '0', 'B'] <|
    Text.replaceAll '\\' ['f'] ['%', 'x', '0', 'C'] <|
    Text.replaceAll '\\' ['a'] ['%', 'x', '0', '7'] pattern

end ProjectTags.Pattern
