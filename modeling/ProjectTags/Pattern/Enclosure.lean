import ProjectTags.Text.Substitution

/-!
# Enclosed parts of a pattern

Several constructs of a search pattern consist of an opening text, a body and a closing text. The
body is the shortest one on its line: it ends at the first closing text and never runs over a line
break. `Enclosure.substitution` writes such a construct anew from its body.
-/

namespace ProjectTags.Pattern

/-- The shortest text on its line that a closing text follows. -/
def upTo? (close : Text) : Text → Option Text
  | [] => none
  | c :: rest =>
      if close.isPrefixOf (c :: rest) then some []
      else if c = '\n' then none
      else (upTo? close rest).map (c :: ·)

/-- The shortest text of at least one character on its line that a closing text follows. -/
def someUpTo? (close : Text) : Text → Option Text
  | [] => none
  | c :: rest => if c = '\n' then none else (upTo? close rest).map (c :: ·)

/-- A construct with an opening and a closing text. -/
structure Enclosure where
  opening : Text
  close : Text
  /-- Whether the body may be empty. -/
  mayBeEmpty : Bool

namespace Enclosure

/-- The body of the construct at the front of a text. -/
def body? (enclosure : Enclosure) (text : Text) : Option Text := do
  let rest ← Text.dropPrefix? enclosure.opening text
  if enclosure.mayBeEmpty then upTo? enclosure.close rest else someUpTo? enclosure.close rest

/-- Writes the construct anew, with its body between two given texts. -/
def substitution (enclosure : Enclosure) (before after : Text) : Substitution where
  front text := do
    let body ← enclosure.body? text
    return (before ++ body ++ after,
      enclosure.opening.length + body.length + enclosure.close.length - 1)

/-- Leaves the construct out. -/
def removal (enclosure : Enclosure) : Substitution where
  front text := do
    let body ← enclosure.body? text
    return ([], enclosure.opening.length + body.length + enclosure.close.length - 1)

end Enclosure

end ProjectTags.Pattern
