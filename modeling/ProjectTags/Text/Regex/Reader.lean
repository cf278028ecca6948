import ProjectTags.Text.Field
import ProjectTags.Text.Regex.Basic

/-!
# Reading regular expressions

There are two ways to write regular expressions. In the basic one the signs of groups, intervals and
alternatives stand behind a backslash, in the extended one they stand alone.
-/

namespace ProjectTags.Text.Regex

/-- What is wrong with a regular expression. -/
inductive Flaw where
  | openBracket
  | openGroup
  | closedGroup
  | noGroup
  | openInterval
  | badInterval
  | nothingBefore
  | badRange
  | badClass
  | badCollation
  | tooBig
  | endBackslash
  deriving DecidableEq, Repr

/-- The text of what is wrong with a regular expression. -/
def Flaw.message : Flaw → Text
  | openBracket => "Unmatched [, [^, [:, [., or [=".toList
  | openGroup => "Unmatched ( or \\(".toList
  | closedGroup => "Unmatched ) or \\)".toList
  | noGroup => "Invalid back reference".toList
  | openInterval => "Unmatched \\\x7b".toList
  | badInterval => "Invalid content of \\\x7b\\\x7d".toList
  | nothingBefore => "Invalid preceding regular expression".toList
  | badRange => "Invalid range end".toList
  | badClass => "Invalid character class name".toList
  | badCollation => "Invalid collation character".toList
  | tooBig => "Regular expression too big".toList
  | endBackslash => "Trailing backslash".toList

/-- How regular expressions are written. -/
structure Dialect where
  extended : Bool
  /-- Whether capital letters and small ones are the same. -/
  folded : Bool
  /-- Whether a backslash takes the meaning from a character between brackets. -/
  escapesInBrackets : Bool
  /-- Whether there has to be something in front of a sign of repetition that may be repeated, and
  what looks like an interval has to be one. -/
  strict : Bool

/-- What is left of a regular expression, and how many groups were opened. -/
structure Progress where
  rest : Text
  groups : Nat
  /-- The groups that are closed. -/
  closed : List Nat

/-- A step of reading a regular expression. -/
abbrev Reading := StateT Progress (Except Flaw)

/-- Goes on behind some characters. -/
def advance (count : Nat) : Reading Unit :=
  modify fun progress => { progress with rest := progress.rest.drop count }

/-- The runs of both cases of the letters in some runs. -/
def foldedRanges (ranges : CharRanges) : CharRanges :=
  ranges ++ ("abcdefghijklmnopqrstuvwxyz".toList.filter fun c =>
    inRanges ranges c || inRanges ranges c.toUpper).flatMap fun c =>
      [(c, c), (c.toUpper, c.toUpper)]

/-- The expression for a character in one of some runs. -/
def oneOf (dialect : Dialect) (negated : Bool) (ranges : CharRanges) : Regex :=
  .one negated (if dialect.folded then foldedRanges ranges else ranges)

/-- The expression for any character. -/
def anyCharacter : Regex := .one true []

/-- The runs of the characters of words. -/
def wordRanges : CharRanges := ('_', '_') :: ('0', '9') :: letterRanges

/-- The runs of white space. -/
def spaceRanges : CharRanges := [('\t', '\r'), (' ', ' ')]

/-- The end of a run between brackets: a character, perhaps written with its name between points. -/
def bracketCharacter? (dialect : Dialect) (text : Text) : Option (Char × Text) :=
  match text with
  | '[' :: '.' :: c :: '.' :: ']' :: rest => some (c, rest)
  | '[' :: '=' :: c :: '=' :: ']' :: rest => some (c, rest)
  | '\\' :: c :: rest =>
      if dialect.escapesInBrackets then
        some (match c with
          | 'n' => '\n'
          | 't' => '\t'
          | 'r' => '\r'
          | c => c, rest)
      else some ('\\', c :: rest)
  | c :: rest => some (c, rest)
  | [] => none

/-- Whether a text begins with the name of more than one character between points. -/
def namesCollation : Text → Bool
  | '[' :: '.' :: c :: rest => !(['.', ']'].isPrefixOf rest) && Text.contains ['.', ']'] (c :: rest)
  | _ => false

/-- The runs between brackets, and what follows the closing one, within a number of members. -/
def bracketRanges (dialect : Dialect) : Nat → Bool → Text → Except Flaw (CharRanges × Text)
  | 0, _, _ => .error .openBracket
  | _ + 1, _, [] => .error .openBracket
  | steps + 1, isFirst, text =>
      match isFirst, text with
      | false, ']' :: rest => .ok ([], rest)
      | _, '[' :: ':' :: rest => do
          match namedRanges? (':' :: rest) with
          | some (ranges, rest) => do
              let (others, rest) ← bracketRanges dialect steps false rest
              return (ranges ++ others, rest)
          | none => throw (if rest.elem ':' then .badClass else .openBracket)
      | _, text =>
          if namesCollation text then .error .badCollation
          else match bracketCharacter? dialect text with
          | none => .error .openBracket
          | some (first, rest) => do
              let (last, rest) ← match rest with
                | '-' :: ']' :: _ => pure (first, rest)
                | '-' :: rest =>
                    match bracketCharacter? dialect rest with
                    | some found => pure found
                    | none => throw Flaw.openBracket
                | rest => pure (first, rest)
              if last < first then throw .badRange
              let (others, rest) ← bracketRanges dialect steps false rest
              return ((first, last) :: others, rest)

/-- Reads what stands between brackets, behind the opening one. -/
def readBracket (dialect : Dialect) : Reading Regex := do
  let progress ← get
  let (negated, body) := match progress.rest with
    | '^' :: body => (true, body)
    | body => (false, body)
  match bracketRanges dialect (body.length + 1) true body with
  | .ok (ranges, rest) =>
      set { progress with rest := rest }
      return oneOf dialect negated ranges
  | .error flaw => throw flaw

/-- The bounds of an interval, behind the opening brace and with the closing one, and how many
characters they are. -/
def interval? (dialect : Dialect) (text : Text) : Option (Nat × Option Nat × Nat) :=
  let front := text.takeWhile isDigit
  let rest := text.drop front.length
  let (most, used) := match rest with
    | ',' :: rest =>
        let last := rest.takeWhile isDigit
        (if last.isEmpty then none else some (valueOf last), front.length + 1 + last.length)
    | _ => (some (valueOf front), front.length)
  let closing := if dialect.extended then ['\x7d'] else ['\\', '\x7d']
  if (front.isEmpty && rest.head? != some ',') || !closing.isPrefixOf (text.drop used) then none
  else some (valueOf front, most, used + closing.length)

/-- The greatest number of times that an interval may ask for. -/
def greatestCount : Nat := 32767

/-- The sign of a repetition that comes next: its bounds and its length. -/
def repetition? (dialect : Dialect) (text : Text) :
    Except Flaw (Option (Nat × Option Nat × Nat)) :=
  let bounds (text : Text) (signs : Nat) : Except Flaw (Option (Nat × Option Nat × Nat)) :=
    match interval? dialect text with
    | some (least, most, length) =>
        if most.any (· < least) then .error .badInterval
        else if greatestCount < most.getD least then .error .tooBig
        else .ok (some (least, most, signs + length))
    | none =>
        let closing := if dialect.extended then ['\x7d'] else ['\\', '\x7d']
        if dialect.extended && !dialect.strict then .ok none
        else if Text.contains closing text then .error .badInterval else .error .openInterval
  match dialect.extended, text with
  | _, '*' :: _ => .ok (some (0, none, 1))
  | true, '+' :: _ => .ok (some (1, none, 1))
  | true, '?' :: _ => .ok (some (0, some 1, 1))
  | true, '\x7b' :: rest => bounds rest 1
  | false, '\\' :: '+' :: _ => .ok (some (1, none, 2))
  | false, '\\' :: '?' :: _ => .ok (some (0, some 1, 2))
  | false, '\\' :: '\x7b' :: rest => bounds rest 2
  | _, _ => .ok none

/-- Whether a text begins with the sign between alternatives, and how long that is. -/
def startsAlternative (dialect : Dialect) : Text → Bool
  | '|' :: _ => dialect.extended
  | '\\' :: '|' :: _ => !dialect.extended
  | _ => false

/-- Whether a text begins with the end of a group. -/
def startsClosing (dialect : Dialect) : Text → Bool
  | ')' :: _ => dialect.extended
  | '\\' :: ')' :: _ => !dialect.extended
  | _ => false

/-- The expression of an escape that means the same in both dialects. -/
def escape? (dialect : Dialect) : Char → Option Regex
  | 'w' => some (.one false wordRanges)
  | 'W' => some (.one true wordRanges)
  | 's' => some (.one false spaceRanges)
  | 'S' => some (.one true spaceRanges)
  | 'b' => some (.boundary false)
  | 'B' => some (.boundary true)
  | '<' => some .wordStart
  | '>' => some .wordEnd
  | '\x60' => some .textStart
  | '\'' => some .textEnd
  | 'n' => some (.character '\n')
  | 't' => some (.character '\t')
  | c => some (oneOf dialect false [(c, c)])

/-- Whether an expression stands for a place. -/
def isPlace : Regex → Bool
  | .lineStart | .lineEnd | .textStart | .textEnd | .boundary _ | .wordStart | .wordEnd => true
  | _ => false

/-- Whether a text begins with a sign of repetition that may not stand behind another one. -/
def startsSecond (dialect : Dialect) : Text → Bool
  | '*' :: _ => !dialect.extended
  | '\\' :: '\x7b' :: _ => !dialect.extended
  | _ => false

mutual

/-- Alternatives up to the end of a group. -/
def readAlternatives (dialect : Dialect) (depth : Nat) : Nat → Reading Regex
  | 0 => throw .openGroup
  | steps + 1 => do
      let first ← readSequence dialect depth steps true
      if startsAlternative dialect (← get).rest then
        advance (if dialect.extended then 1 else 2)
        return .either first (← readAlternatives dialect depth steps)
      else return first

/-- Expressions one after the other, up to the end of an alternative. -/
def readSequence (dialect : Dialect) (depth : Nat) : Nat → Bool → Reading Regex
  | 0, _ => throw .openGroup
  | steps + 1, isFirst => do
      let text := (← get).rest
      if text.isEmpty || startsAlternative dialect text ||
          (startsClosing dialect text && (dialect.strict || 0 < depth)) then
        return .empty
      else
        let own ← readOne dialect depth steps isFirst
        let own ← readRepetitions dialect steps own false
        let stays := isFirst && own = .lineStart && !dialect.extended
        let others ← readSequence dialect depth steps stays
        return if others = .empty then own else .sequence own others

/-- Signs of repetition behind an expression. -/
def readRepetitions (dialect : Dialect) : Nat → Regex → Bool → Reading Regex
  | 0, _, _ => throw .openInterval
  | steps + 1, own, repeated => do
      let rest := (← get).rest
      if repeated && dialect.strict && startsSecond dialect rest then throw .nothingBefore
      match repetition? dialect rest with
      | .error flaw => throw flaw
      | .ok none => return own
      | .ok (some (least, most, length)) =>
          if isPlace own && !dialect.extended then return own
          else if isPlace own && dialect.strict then throw .nothingBefore
          else
            advance length
            readRepetitions dialect steps (.times least most own) true

/-- One expression without its repetitions. -/
def readOne (dialect : Dialect) (depth : Nat) : Nat → Bool → Reading Regex
  | 0, _ => throw .openGroup
  | steps + 1, isFirst => do
      let progress ← get
      let group (signs : Nat) : Reading Regex := do
        let number := progress.groups + 1
        set { progress with rest := progress.rest.drop signs, groups := number }
        let body ← readAlternatives dialect (depth + 1) steps
        if !startsClosing dialect (← get).rest then throw .openGroup
        advance signs
        modify fun progress => { progress with closed := number :: progress.closed }
        return .group number body
      let leading (c : Char) : Reading Regex := do
        if dialect.extended && isFirst then
          if dialect.strict then throw .nothingBefore else return .empty
        else return .character c
      match progress.rest with
      | [] => return .empty
      | '\\' :: [] => throw .endBackslash
      | '\\' :: c :: _ =>
          if c = '(' && !dialect.extended then group 2
          else if c = '\x7b' && !dialect.extended && dialect.strict && isFirst then
            throw .nothingBefore
          else if c = ')' && !dialect.extended then throw .closedGroup
          else if '1' ≤ c && c ≤ '9' then
            advance 2
            let number := c.toNat - 48
            if progress.closed.elem number then return .again number else throw .noGroup
          else
            advance 2
            return (escape? dialect c).getD .empty
      | '(' :: _ =>
          if dialect.extended then group 1
          else
            advance 1
            return .character '('
      | '[' :: _ =>
          advance 1
          readBracket dialect
      | '.' :: _ =>
          advance 1
          return anyCharacter
      | '^' :: _ =>
          advance 1
          return if dialect.extended || isFirst then .lineStart else .character '^'
      | '$' :: rest =>
          advance 1
          let atEnd := rest.isEmpty || startsAlternative dialect rest || startsClosing dialect rest
          return if dialect.extended || atEnd then .lineEnd else .character '$'
      | '*' :: _ =>
          advance 1
          leading '*'
      | '+' :: _ =>
          advance 1
          leading '+'
      | '?' :: _ =>
          advance 1
          leading '?'
      | '\x7b' :: _ =>
          advance 1
          if dialect.extended && isFirst && dialect.strict then throw .nothingBefore
          return .character '\x7b'
      | c :: _ =>
          advance 1
          return oneOf dialect false [(c, c)]

end

/-- Reads a regular expression. -/
def read (dialect : Dialect) (text : Text) : Except Flaw Regex := do
  let (regex, progress) ←
    (readAlternatives dialect 0 (6 * text.length + 12)).run ⟨text, 0, []⟩
  if progress.rest.isEmpty then return regex
  else if startsClosing dialect progress.rest then throw .closedGroup
  else return regex

/-- The expression for a text as it stands. -/
def literal (folded : Bool) (text : Text) : Regex :=
  sequenceOf (text.map fun c => oneOf ⟨false, folded, false, false⟩ false [(c, c)])

end ProjectTags.Text.Regex
