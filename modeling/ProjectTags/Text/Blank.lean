import ProjectTags.Text.Basic

/-!
# White space

The characters of the Unicode property White_Space, and the trimming operations that go by it.
-/

namespace ProjectTags.Text

/-- The first and last character codes of the runs of the property White_Space. -/
def blankRanges : List (Nat × Nat) :=
  [(0x9, 0xD), (0x20, 0x20), (0x85, 0x85), (0xA0, 0xA0), (0x1680, 0x1680), (0x2000, 0x200A),
    (0x2028, 0x2029), (0x202F, 0x202F), (0x205F, 0x205F), (0x3000, 0x3000)]

/-- Whether a character has the property White_Space. -/
def isBlank (c : Char) : Bool :=
  blankRanges.any fun range => range.1 ≤ c.toNat && c.toNat ≤ range.2

/-- The text without its leading white space. -/
def trimLeft (text : Text) : Text :=
  text.dropWhile isBlank

/-- The text without its trailing white space. -/
def trimRight (text : Text) : Text :=
  dropWhileEnd isBlank text

/-- The text without white space at either end. -/
def trim (text : Text) : Text :=
  trimRight (trimLeft text)

end ProjectTags.Text
