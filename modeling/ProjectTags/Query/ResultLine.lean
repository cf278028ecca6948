import ProjectTags.Text.Blank
import ProjectTags.Text.Decimal

/-!
# Result lines

The search tool reports one match a line: the file, the line number and the text found, with a tab
between them. The text may have tabs itself and may be left out.
-/

namespace ProjectTags

/-- One match of a query. -/
structure ResultLine where
  file : Text
  line : Nat
  text : Text
  deriving DecidableEq, Repr

namespace ResultLine

/-- Line numbers have at most 64 bits. -/
def lineBound : Nat := 18446744073709551616

/-- Reads a match. White space around the number is no part of it. -/
def parse? (raw : Text) : Option ResultLine := do
  let (file, rest) ← Text.splitAt? '\t' raw
  if file.isEmpty then none
  else
    let (number, text) := (Text.splitAt? '\t' rest).getD (rest, [])
    let line ← Text.natural? lineBound (Text.trim number)
    return ⟨file, line, text⟩

/-- Writes a match. -/
def render (result : ResultLine) : Text :=
  result.file ++ '\t' :: Text.digits result.line ++ '\t' :: result.text

end ResultLine

end ProjectTags
