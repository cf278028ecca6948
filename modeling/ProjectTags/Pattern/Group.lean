import ProjectTags.Pattern.Quantifier
import ProjectTags.Text.WordChar

/-!
# Groups

Every special group of a search pattern opens with a parenthesis and a question mark. Comments are
left out, the assertions and the atomic group become a plain group with an operator of Vim behind
it, named groups lose their name, and groups that capture nothing get Vim's percent sign in front.
-/

namespace ProjectTags.Pattern

/-- A comment: everything to the next closing parenthesis on the line. -/
def comment : Enclosure := ⟨['(', '?', '#'], [')'], true⟩

/-- A group that opens with a given text and has at least one character in it. -/
def group (opening : Text) : Enclosure := ⟨opening, [')'], false⟩

/-- A group that becomes a plain group followed by an operator. -/
def assertion (opening operator : Text) : Substitution :=
  (group opening).substitution ['('] (')' :: operator)

/-- The assertions and the atomic group, in the order in which they are applied. -/
def assertions : List Substitution := [
  assertion ['(', '?', '='] ['@', '='],
  assertion ['(', '?', '!'] ['@', '!'],
  assertion ['(', '?', '<', '='] ['@', '<', '='],
  assertion ['(', '?', '<', '!'] ['@', '<', '!'],
  assertion ['(', '?', '>'] ['@', '>']]

/-- The constructs that only the extended dialect has: possessive quantifiers, comments,
assertions and atomic groups. -/
def extendedConstructs (pattern : Text) : Text :=
  assertions.foldl (fun text rule => rule.everywhere text)
    (comment.removal.everywhere (possessiveQuantifier.unescaped pattern))

/-- How many characters `<name>` takes at the front of a text. -/
def groupName? : Text → Option Nat
  | '<' :: rest =>
      let name := rest.takeWhile Text.isWordChar
      match rest.drop name.length with
      | '>' :: _ => if name.isEmpty then none else some (name.length + 2)
      | _ => none
  | _ => none

/-- The opening of a named group, with or without the letter `P`, becomes that of a plain group. -/
def namedGroup : Substitution where
  front
    | '(' :: '?' :: 'P' :: rest => (groupName? rest).map fun taken => (['('], taken + 2)
    | '(' :: '?' :: rest => (groupName? rest).map fun taken => (['('], taken + 1)
    | _ => none

/-- A group that captures nothing. -/
def bareGroup : Substitution :=
  (group ['(', '?', ':']).substitution ['%', '('] [')']

end ProjectTags.Pattern
