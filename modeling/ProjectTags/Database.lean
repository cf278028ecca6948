import ProjectTags.Path.Basic

/-!
# Databases

Every project root has a directory of its own for its tag database, below one directory for all of
them. The name of that directory is the root's text with a percent sign for each slash. A root
that has percent signs itself, or for which two of them would come to stand side by side, is
written with escapes behind two percent signs instead, so that no two roots share a name.
-/

namespace ProjectTags.Database

/-- The character that stands for a slash in the name of a database directory. -/
def reserved : Char := '%'

/-- The file that a complete database has. -/
def indexFile : Text := "GTAGS".toList

/-- The root's text with a percent sign for each slash. -/
def plainName (root : Text) : Text :=
  root.map fun c => if c = '/' then reserved else c

/-- An upper-case hexadecimal digit. -/
def upperHexDigit (n : Nat) : Char :=
  if n < 10 then Char.ofNat (48 + n) else Char.ofNat (55 + n)

/-- One character of an escaped name. -/
def escapedChar (c : Char) : Text :=
  if c = reserved || c = ':' || c = '/' then
    [reserved, upperHexDigit (c.toNat / 16), upperHexDigit (c.toNat % 16)]
  else [c]

/-- The root's text behind two percent signs, with percent signs, colons and slashes written by
their codes. -/
def escapedName (root : Text) : Text :=
  reserved :: reserved :: root.flatMap escapedChar

/-- The name of the database directory of a root. -/
def name (root : Text) : Text :=
  if !root.elem reserved && !Text.contains [reserved, reserved] (plainName root) then
    plainName root
  else escapedName root

/-- The database directory of a root, below the directory for all databases. -/
def location (databases root : Text) : Text :=
  Path.join databases (name root)

end ProjectTags.Database
