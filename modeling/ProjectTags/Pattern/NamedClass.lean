import ProjectTags.Text.Substitution

/-!
# Named character classes

A named class standing alone in brackets, such as the digits, is written in a search pattern by
its name. Vim knows some of the names; the others are written out as ranges of characters.
-/

namespace ProjectTags.Pattern

/-- A class by the name it has between `[[:` and `:]]`, and the ranges that stand for it. -/
structure NamedClass where
  name : Text
  ranges : Text

namespace NamedClass

/-- The classes that Vim does not know by name, in the order in which they are written out. -/
def unknownToVim : List NamedClass := [
  ⟨"ascii".toList, "[\\x00-\\x7F]".toList⟩,
  ⟨"word".toList, "[0-9A-Za-z_]".toList⟩,
  ⟨"^alnum".toList, "[^0-9A-Za-z]".toList⟩,
  ⟨"^alpha".toList, "[^A-Za-z]".toList⟩,
  ⟨"^ascii".toList, "[^\\x00-\\x7F]".toList⟩,
  ⟨"^blank".toList, "[^\\t ]".toList⟩,
  ⟨"^cntrl".toList, "[^\\x00-\\x1F\\x7F]".toList⟩,
  ⟨"^digit".toList, "[^0-9]".toList⟩,
  ⟨"^graph".toList, "[^!-~]".toList⟩,
  ⟨"^lower".toList, "[^a-z]".toList⟩,
  ⟨"^print".toList, "[^ -~]".toList⟩,
  ⟨"^punct".toList, "[^!-/:-@\\[-\x60\x7b-~]".toList⟩,
  ⟨"^space".toList, "[^\\t\\n\\r ]".toList⟩,
  ⟨"^upper".toList, "[^A-Z]".toList⟩,
  ⟨"^word".toList, "[^0-9A-Za-z_]".toList⟩,
  ⟨"^xdigit".toList, "[^0-9A-Fa-f]".toList⟩]

/-- The class written by its name, without the first bracket. -/
def written (named : NamedClass) : Text :=
  ['[', ':'] ++ named.name ++ [':', ']', ']']

/-- Writes the ranges of a class in the place of its name. -/
def expand (named : NamedClass) (pattern : Text) : Text :=
  Text.replaceAll '[' named.written named.ranges pattern

/-- Writes out every class that Vim does not know, one class after the other. -/
def expandAll (pattern : Text) : Text :=
  unknownToVim.foldl (fun text named => named.expand text) pattern

end NamedClass

end ProjectTags.Pattern
