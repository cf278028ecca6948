import ProjectTags.Text.Utf8

/-!
# Lines

The content of a file, or what a program wrote, as lines of bytes.
-/

namespace ProjectTags.Bytes

/-- The byte that ends a line. -/
def lineBreak : UInt8 := 10

/-- The lines behind a byte that is put in front of some lines. -/
def putBefore (b : UInt8) (lines : List Bytes) : List Bytes :=
  if b = lineBreak then [] :: lines
  else
    match lines with
    | [] => [[b]]
    | line :: others => (b :: line) :: others

/-- The lines of some bytes, each without the line break that ends it. The last line need not be
ended. -/
def lines (bytes : Bytes) : List Bytes := bytes.foldr putBefore []

end ProjectTags.Bytes
