import ProjectTags.Pattern.Group
import ProjectTags.Pattern.Escape
import ProjectTags.Pattern.NamedClass

/-!
# Patterns for Vim

The search tool reads one notation of regular expressions and Vim, which highlights what was
found, another. `toVim` carries a pattern over by applying a fixed sequence of rules, each to the
result of the one before; the rules of the extended dialect are left out for the plain one. The
result begins with the mark that tells Vim how to read the rest. Plain text has no operators and
only its backslashes are doubled.
-/

namespace ProjectTags.Pattern

/-- The notation a pattern is written in. -/
inductive Dialect where
  /-- Plain text, found as it stands. -/
  | literal
  /-- The regular expressions of the search tool. -/
  | regular
  /-- Regular expressions with possessive quantifiers, comments, assertions and atomic groups. -/
  | extended
  deriving DecidableEq, Repr

/-- The steps from a search pattern to a pattern of Vim. -/
inductive Rule where
  | vimOperators
  | reluctantQuantifiers
  | extendedConstructs
  | anchors
  | wordBoundary
  | caseSwitches
  | namedGroups
  | bareGroups
  | characterCodes
  | namedClasses
  deriving DecidableEq, Repr

namespace Rule

/-- All rules, in the order in which they are applied. -/
def all : List Rule :=
  [vimOperators, reluctantQuantifiers, extendedConstructs, anchors, wordBoundary, caseSwitches,
    namedGroups, bareGroups, characterCodes, namedClasses]

/-- The name by which a rule is asked for. -/
def name : Rule → Text
  | vimOperators => "escape-vim-specials".toList
  | reluctantQuantifiers => "non-greedy-quantifiers".toList
  | extendedConstructs => "perl-extensions".toList
  | anchors => "anchors".toList
  | wordBoundary => "word-boundary".toList
  | caseSwitches => "case-toggles".toList
  | namedGroups => "named-groups".toList
  | bareGroups => "non-capturing-groups".toList
  | characterCodes => "character-escapes".toList
  | namedClasses => "posix-classes".toList

/-- The rule of a given name. -/
def ofName? (name : Text) : Option Rule :=
  all.find? fun rule => rule.name = name

/-- Whether a rule is left out for the plain dialect. -/
def isExtendedOnly : Rule → Bool
  | extendedConstructs => true
  | _ => false

/-- The pattern after a rule. -/
def apply : Rule → Text → Text
  | vimOperators => vimOperator.everywhere
  | reluctantQuantifiers => Pattern.reluctantQuantifiers
  | extendedConstructs => Pattern.extendedConstructs
  | anchors => Pattern.anchors
  | wordBoundary => Pattern.wordBoundary
  | caseSwitches => Pattern.caseSwitches
  | namedGroups => namedGroup.everywhere
  | bareGroups => bareGroup.everywhere
  | characterCodes => Pattern.characterCodes
  | namedClasses => NamedClass.expandAll

/-- The rules that apply to a dialect, in order. -/
def active (extended : Bool) : List Rule :=
  all.filter fun rule => extended || !rule.isExtendedOnly

/-- The pattern after each of a sequence of rules. -/
def stages : List Rule → Text → List (Rule × Text)
  | [], _ => []
  | rule :: others, pattern => (rule, rule.apply pattern) :: stages others (rule.apply pattern)

/-- The pattern after a whole sequence of rules. -/
def applyAll (rules : List Rule) (pattern : Text) : Text :=
  rules.foldl (fun text rule => rule.apply text) pattern

end Rule

/-- The mark after which every punctuation character is an operator. -/
def veryMagic : Text := ['\\', 'v']

/-- The mark after which only the backslash is special. -/
def veryNomagic : Text := ['\\', 'V']

/-- Doubles every backslash. -/
def escapeLiteral (text : Text) : Text :=
  Text.replaceChar '\\' ['\\', '\\'] text

/-- The pattern of Vim for a pattern in a given dialect. -/
def toVim (dialect : Dialect) (pattern : Text) : Text :=
  match dialect with
  | .literal => veryNomagic ++ escapeLiteral pattern
  | .regular => veryMagic ++ Rule.applyAll (Rule.active false) pattern
  | .extended => veryMagic ++ Rule.applyAll (Rule.active true) pattern

end ProjectTags.Pattern
