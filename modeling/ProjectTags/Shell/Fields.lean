import ProjectTags.Machine.Program
import ProjectTags.Shell.Glob

/-!
# Arguments of expanded words

An expanded word is a sequence of segments, which know what the last two stages have to know: what
came out of an expansion unquoted is split at separators, and an argument that then has special
characters of a pattern becomes the names of files that fit it.
-/

namespace ProjectTags.Shell

/-- A piece of an expanded word. -/
inductive Segment where
  /-- Quoted text, which later stages leave alone. -/
  | quoted (text : Text)
  /-- Text of the command itself, which is not split. -/
  | plain (text : Text)
  /-- Text that came out of an expansion. -/
  | split (text : Text)
  /-- The end of an argument. -/
  | separator
  deriving DecidableEq, Repr

namespace Segment

/-- A value that came out of an expansion. -/
def ofValue (isQuoted : Bool) (value : Text) : Segment :=
  if isQuoted then quoted value else split value

/-- The text of a segment, with a joint where an argument ends. -/
def text (joint : Text) : Segment → Text
  | quoted text | plain text | split text => text
  | separator => joint

/-- The text of a segment as a pattern, in which quoted text stands for itself. -/
def pattern (joint : Text) : Segment → Text
  | quoted text => Glob.escape text
  | segment => segment.text joint

end Segment

/-- An argument that is being put together: its text as a pattern and as it stands, and whether
it has special characters. -/
structure Field where
  text : Text
  pattern : Text
  special : Bool

namespace Field

/-- An argument without text. -/
def empty : Field := ⟨[], [], false⟩

/-- Adds quoted text. -/
def addQuoted (field : Field) (text : Text) : Field :=
  ⟨field.text ++ text, field.pattern ++ Glob.escape text, field.special⟩

/-- Adds text in which special characters count. -/
def addPlain (field : Field) (text : Text) : Field :=
  ⟨field.text ++ text, field.pattern ++ text,
    field.special || text.any fun c => c = '*' || c = '?' || c = '['⟩

end Field

/-- The arguments that are finished, last one first, and the one at which work goes on. -/
structure Splitting where
  finished : List Field
  open? : Option Field
  /-- Whether white space has just finished an argument, so that another separator adds none. -/
  closed : Bool

/-- Whether a separator is white space, of which any amount counts as one. -/
def isSpace (c : Char) : Bool :=
  c = ' ' || c = '\t' || c = '\n'

namespace Splitting

/-- Finishes the argument at which work goes on. -/
def finish (splitting : Splitting) : Splitting :=
  match splitting.open? with
  | some field => ⟨field :: splitting.finished, none, false⟩
  | none => splitting

/-- Adds text that belongs to one argument. -/
def addText (splitting : Splitting) (add : Field → Field) : Splitting :=
  ⟨splitting.finished, some (add (splitting.open?.getD .empty)), false⟩

/-- Adds one character that came out of an expansion. -/
def addCharacter (separators : Text) (splitting : Splitting) (c : Char) : Splitting :=
  if !separators.elem c then splitting.addText (·.addPlain [c])
  else if isSpace c then
    match splitting.open? with
    | some _ => { splitting.finish with closed := true }
    | none => splitting
  else if splitting.closed then { splitting with closed := false }
  else (splitting.addText id).finish

/-- Adds a segment. -/
def add (separators : Text) (splitting : Splitting) : Segment → Splitting
  | .quoted text => splitting.addText (·.addQuoted text)
  | .plain [] => splitting
  | .plain text => splitting.addText (·.addPlain text)
  | .split text => text.foldl (addCharacter separators) splitting
  | .separator => splitting.finish

end Splitting

/-- The arguments that some segments make up. -/
def fields (separators : Text) (segments : List Segment) : List Field :=
  ((segments.foldl (Splitting.add separators) ⟨[], none, false⟩).finish).finished.reverse

/-- Whether a text has special characters of a pattern. -/
def isSpecialText (text : Text) : Bool :=
  text.any fun c => c = '*' || c = '?' || c = '['

/-- The paths below a directory that fit the pieces of a pattern. -/
def matchesBelow (machine : Machine) : List Text → Text → List Text
  | [], start => [start]
  | piece :: others, start =>
      if piece.isEmpty then matchesBelow machine others (start ++ ['/'])
      else
        let directory := if start.isEmpty then ['.'] else start
        let names :=
          match machine.files.find machine.current directory with
          | .ok (location, .directory) =>
              (machine.files.children location ++ [['.'], ['.', '.']]).mergeSort Utf8.precedes
          | _ => []
        let chosen :=
          if isSpecialText piece then
            names.filter fun name =>
              (name.head? != some '.' || piece.head? = some '.' ||
                (piece.head? = some '\\' && piece.tail.head? = some '.')) && Glob.holds piece name
          else [Glob.plainText piece]
        let connected (name : Text) :=
          if start.isEmpty || start.getLast? = some '/' then start ++ name
          else start ++ '/' :: name
        (chosen.map connected).flatMap fun path => matchesBelow machine others path

/-- The paths that fit a pattern, in order. -/
def pathsOf (machine : Machine) (pattern : Text) : List Text :=
  let pieces := Text.pieces '/' pattern
  let found :=
    match pieces with
    | [] :: others => matchesBelow machine others ['/']
    | _ => matchesBelow machine pieces []
  (found.filter machine.holds).mergeSort Utf8.precedes

/-- The arguments that one argument with special characters stands for. -/
def expandPaths (machine : Machine) (field : Field) : List Text :=
  if field.special then
    match pathsOf machine field.pattern with
    | [] => [field.text]
    | paths => paths
  else [field.text]

end ProjectTags.Shell
