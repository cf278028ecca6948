import ProjectTags.Text.Basic

/-!
# Paths

A path is text in which slashes separate names. `join` appends one path to another, `normalize`
brings a path to its normal form without looking at any file: repeated and trailing slashes and
the name `.` disappear, and `..` takes back the name before it. `parent?` goes up by the text
alone, and `Components` is what two spellings of one path have in common.
-/

namespace ProjectTags.Path

/-- Whether a path starts at the root of the file system. -/
def isAbsolute : Text → Bool
  | '/' :: _ => true
  | _ => false

/-- Appends a path to a base; an absolute path replaces the base. -/
def join (base path : Text) : Text :=
  if isAbsolute path then path
  else if base.isEmpty || base.getLast? = some '/' then base ++ path
  else base ++ '/' :: path

/-- Adds one name to the names above it: `..` takes the last one back, and an empty name and `.`
change nothing. -/
def descend (names : List Text) (name : Text) : List Text :=
  if name = [] || name = ['.'] then names
  else if name = ['.', '.'] then names.dropLast
  else names ++ [name]

/-- The names of a path in normal form. -/
def names (path : Text) : List Text :=
  (Text.pieces '/' path).foldl descend []

/-- The names one below the other. -/
def ofNames (names : List Text) : Text :=
  Text.joinWith ['/'] names

/-- The absolute path with given names. -/
def absolute (names : List Text) : Text :=
  '/' :: ofNames names

/-- The normal form of a path. -/
def normalize (path : Text) : Text :=
  if isAbsolute path then absolute (names path) else ofNames (names path)

/-- The normal form of a path that is taken from a base. -/
def absolutize (path base : Text) : Text :=
  normalize (join base path)

/-- The directories from the one with given names up to the root, as lists of names. -/
def upward (names : List Text) : List (List Text) :=
  (List.range (names.length + 1)).reverse.map names.take

/-- An absolute path in normal form and every directory above it, nearest first. -/
def ancestors (path : Text) : List Text :=
  (upward (names path)).map absolute

/-- Whether the text of one path begins with that of another, which is not empty. This goes by
characters: `/proj` begins `/project/x.c` too. -/
def hasTextPrefix (path start : Text) : Bool :=
  !start.isEmpty && start.isPrefixOf path

/-- Whether a piece between slashes names nothing: it is empty or `.`. -/
def isVoid (piece : Text) : Bool :=
  piece = [] || piece = ['.']

/-- The part of a path in front of its names: the root, or a leading `.`. -/
def head : Text → Text
  | '/' :: _ => ['/']
  | ['.'] => ['.']
  | '.' :: '/' :: _ => ['.']
  | _ => []

/-- The path one name shorter, with the rest of its text kept as it is. The root and the empty
path have none. -/
def parent? (path : Text) : Option Text :=
  let start := head path
  let backwards := (Text.pieces '/' (path.drop start.length)).reverse
  match backwards.dropWhile isVoid with
  | [] => if start = ['.'] then some [] else none
  | _ :: above => some (start ++ Text.joinWith ['/'] (above.dropWhile isVoid).reverse)

/-- What all spellings of a path have in common: where it starts and the names it goes through,
with `..` kept. -/
structure Components where
  absolute : Bool
  names : List Text
  deriving DecidableEq, Repr

/-- The components of a path. A leading `.` of a path that is not absolute is one of them. -/
def components (path : Text) : Components :=
  let start := head path
  let names := (Text.pieces '/' (path.drop start.length)).filter fun piece => !isVoid piece
  ⟨start = ['/'], if start = ['.'] then start :: names else names⟩

/-- Whether two texts are spellings of one path. -/
def same (first second : Text) : Bool :=
  components first = components second

end ProjectTags.Path
