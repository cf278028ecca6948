import ProjectTags.Text.Basic

/-!
# Classes of characters

The classes of characters that patterns know by a name, where every character has a code below
128. A class is written as the runs of codes that belong to it.
-/

namespace ProjectTags.Text

/-- The first and last characters of the runs of a class. -/
abbrev CharRanges := List (Char × Char)

/-- Whether a character is in one of some runs. -/
def inRanges (ranges : CharRanges) (c : Char) : Bool :=
  ranges.any fun range => range.1 ≤ c && c ≤ range.2

/-- The runs of the small letters and of the capital ones. -/
def letterRanges : CharRanges := [('A', 'Z'), ('a', 'z')]

/-- The runs of the characters that are neither letters nor digits but leave a mark. -/
def punctuationRanges : CharRanges := [('!', '/'), (':', '@'), ('[', '\x60'), ('\x7b', '~')]

/-- The runs of the class of a name. -/
def classRanges? (name : Text) : Option CharRanges :=
  match String.ofList name with
  | "alnum" => some (('0', '9') :: letterRanges)
  | "alpha" => some letterRanges
  | "blank" => some [(' ', ' '), ('\t', '\t')]
  | "cntrl" => some [('\x00', '\x1f'), ('\x7f', '\x7f')]
  | "digit" => some [('0', '9')]
  | "graph" => some [('!', '~')]
  | "lower" => some [('a', 'z')]
  | "print" => some [(' ', '~')]
  | "punct" => some punctuationRanges
  | "space" => some [('\t', '\r'), (' ', ' ')]
  | "upper" => some [('A', 'Z')]
  | "xdigit" => some [('0', '9'), ('A', 'F'), ('a', 'f')]
  | _ => none

/-- The runs of a class that is written with its name between colons, and what follows the bracket
that closes it. The text begins behind the opening bracket. -/
def namedRanges? (text : Text) : Option (CharRanges × Text) :=
  match text with
  | ':' :: rest => do
      let (name, rest) ← splitAt? ':' rest
      let ranges ← classRanges? name
      match rest with
      | ']' :: rest => some (ranges, rest)
      | _ => none
  | _ => none

end ProjectTags.Text
