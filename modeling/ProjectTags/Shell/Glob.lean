import ProjectTags.Text.CharClass

/-!
# Glob patterns

The patterns by which the shell and its tools choose names. A star stands for any text, a question
mark for any character, brackets for one character out of some ranges or classes, and a backslash
takes the special meaning from the character behind it.
-/

namespace ProjectTags.Glob

/-- One item of a pattern. -/
inductive Item where
  | exactly (c : Char)
  | anyCharacter
  | anyText
  /-- A character in one of some ranges, or in none of them. -/
  | oneOf (negated : Bool) (ranges : Text.CharRanges)
  deriving DecidableEq, Repr

/-- Whether an item other than `anyText` stands for a character. -/
def Item.accepts : Item → Char → Bool
  | exactly d, c => c = d
  | anyCharacter, _ => true
  | anyText, _ => true
  | oneOf negated ranges, c => Text.inRanges ranges c != negated

/-- Whether a whole text fits a pattern. -/
def fits : List Item → Text → Bool
  | [], [] => true
  | [], _ :: _ => false
  | .anyText :: items, [] => fits items []
  | .anyText :: items, c :: text => fits items (c :: text) || fits (.anyText :: items) text
  | _ :: _, [] => false
  | item :: items, c :: text => item.accepts c && fits items text
termination_by items text => items.length + text.length

/-- One character between brackets, from which a backslash may have taken its meaning. -/
def member? : Text → Option (Char × Text)
  | '\\' :: c :: rest => some (c, rest)
  | c :: rest => some (c, rest)
  | [] => none

/-- The ranges between brackets and the pattern after them; the first character may be a closing
bracket. -/
def ranges? : Nat → Bool → Text → Option (Text.CharRanges × Text)
  | 0, _, _ => none
  | steps + 1, isFirst, text =>
      match text, Text.namedRanges? (text.drop 1) with
      | [], _ => none
      | '[' :: _, some (ranges, rest) => do
          let (others, rest) ← ranges? steps false rest
          return (ranges ++ others, rest)
      | c :: _, _ =>
          if c = ']' && !isFirst then some ([], text.drop 1)
          else do
            let (first, rest) ← member? text
            let (last, rest) ← match rest with
              | '-' :: ']' :: _ => some (first, rest)
              | '-' :: rest => member? rest
              | _ => some (first, rest)
            let (others, rest) ← ranges? steps false rest
            return ((first, last) :: others, rest)

/-- Reads a pattern, within a number of items. -/
def parseWithin : Nat → Text → List Item
  | 0, _ => []
  | _ + 1, [] => []
  | steps + 1, '\\' :: c :: rest => .exactly c :: parseWithin steps rest
  | steps + 1, '*' :: rest => .anyText :: parseWithin steps rest
  | steps + 1, '?' :: rest => .anyCharacter :: parseWithin steps rest
  | steps + 1, '[' :: rest =>
      let (negated, body) :=
        match rest with
        | '!' :: body => (true, body)
        | '^' :: body => (true, body)
        | body => (false, body)
      match ranges? (body.length + 1) true body with
      | some (ranges, after) => .oneOf negated ranges :: parseWithin steps after
      | none => .exactly '[' :: parseWithin steps rest
  | steps + 1, c :: rest => .exactly c :: parseWithin steps rest

/-- Reads a pattern. -/
def parse (pattern : Text) : List Item :=
  parseWithin pattern.length pattern

/-- Whether a text fits a pattern that is written out. -/
def holds (pattern text : Text) : Bool :=
  fits (parse pattern) text

/-- The text in which the special characters of another one stand for themselves. -/
def escape (text : Text) : Text :=
  text.flatMap fun c =>
    if c = '*' || c = '?' || c = '[' || c = ']' || c = '\\' then ['\\', c] else [c]

/-- The text that a pattern without special characters stands for. -/
def plainText : Text → Text
  | '\\' :: c :: rest => c :: plainText rest
  | c :: rest => c :: plainText rest
  | [] => []

end ProjectTags.Glob
