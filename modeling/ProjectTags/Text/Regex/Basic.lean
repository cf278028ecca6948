import ProjectTags.Text.CharClass

/-!
# Regular expressions

What the tools look for in a line. `ends` gives all places where a match that begins at one of some
places can end, so the longest match is among them. `assign` finds the groups of a match whose end
is known; of several ways it takes the one in which earlier parts are longer.
-/

namespace ProjectTags.Text

/-- A regular expression. -/
inductive Regex where
  | empty
  | one (negated : Bool) (ranges : CharRanges)
  | lineStart
  | lineEnd
  | textStart
  | textEnd
  /-- A place between a character of a word and another one, or none such place. -/
  | boundary (negated : Bool)
  | wordStart
  | wordEnd
  /-- A place behind which no word goes on, or before which none does. -/
  | noWordAfter
  | noWordBefore
  | group (number : Nat) (body : Regex)
  /-- The same text as in a group before. -/
  | again (number : Nat)
  | sequence (first second : Regex)
  | either (first second : Regex)
  /-- The body so many times, up to a greatest number of times if there is one. -/
  | times (least : Nat) (most : Option Nat) (body : Regex)
  deriving DecidableEq, Repr

/-- A text to look in. -/
structure Haystack where
  text : Array Char
  /-- Whether a line break in the text ends a line. -/
  ofLines : Bool

namespace Haystack

/-- A text of one line. -/
def ofText (text : Text) : Haystack := ⟨text.toArray, false⟩

/-- Whether a character belongs to a word. -/
def isWordCharacter (c : Char) : Bool := c.isAlphanum || c = '_'

/-- Whether there is a character of a word at a place. -/
def wordAt (haystack : Haystack) (place : Nat) : Bool :=
  (haystack.text[place]?.map isWordCharacter).getD false

/-- Whether there is a character of a word before a place. -/
def wordBefore (haystack : Haystack) (place : Nat) : Bool :=
  place != 0 && haystack.wordAt (place - 1)

/-- Whether a line begins at a place. -/
def startsLine (haystack : Haystack) (place : Nat) : Bool :=
  place = 0 || (haystack.ofLines && haystack.text[place - 1]? = some '\n')

/-- Whether a line ends at a place. -/
def endsLine (haystack : Haystack) (place : Nat) : Bool :=
  haystack.text.size ≤ place || (haystack.ofLines && haystack.text[place]? = some '\n')

/-- The text between two places. -/
def between (haystack : Haystack) (start stop : Nat) : Text :=
  (haystack.text.extract start stop).toList

end Haystack

namespace Regex

/-- The expression that stands for one character. -/
def character (c : Char) : Regex := .one false [(c, c)]

/-- The expression for one expression after the other. -/
def sequenceOf : List Regex → Regex
  | [] => .empty
  | [part] => part
  | part :: others => .sequence part (sequenceOf others)

/-- Whether an expression asks for the text of a group. -/
def refersBack : Regex → Bool
  | .again _ => true
  | .group _ body | .times _ _ body => refersBack body
  | .sequence first second | .either first second => refersBack first || refersBack second
  | _ => false

/-- Places that are in one of two lists. -/
def union (first second : List Nat) : List Nat :=
  first ++ second.filter fun place => !first.elem place

/-- All places that are reached from some by taking a step any number of times, up to a number. -/
def closure (step : List Nat → List Nat) : Nat → List Nat → List Nat → List Nat
  | 0, _, reached => reached
  | rounds + 1, latest, reached =>
      let new := (step latest).filter fun place => !reached.elem place
      if new.isEmpty then reached else closure step rounds new (reached ++ new)

/-- The places that are reached from some by taking a step so many times. -/
def repeated (step : List Nat → List Nat) : Nat → List Nat → List Nat
  | 0, places => places
  | count + 1, places => repeated step count (step places)

/-- The places that are reached from some by taking a step up to a number of times. -/
def upTo (step : List Nat → List Nat) : Nat → List Nat → List Nat
  | 0, places => places
  | count + 1, places =>
      if places.isEmpty then [] else union places (upTo step count (step places))

/-- Places without repetitions. -/
def distinct (places : List Nat) : List Nat :=
  places.foldl (fun found place => if found.elem place then found else place :: found) []

/-- The places where a match that begins at one of some places can end. -/
def ends (haystack : Haystack) : Regex → List Nat → List Nat
  | .empty, places => places
  | .one negated ranges, places =>
      places.filterMap fun place =>
        match haystack.text[place]? with
        | some c => if inRanges ranges c != negated then some (place + 1) else none
        | none => none
  | .lineStart, places => places.filter haystack.startsLine
  | .lineEnd, places => places.filter haystack.endsLine
  | .textStart, places => places.filter (· = 0)
  | .textEnd, places => places.filter (haystack.text.size ≤ ·)
  | .boundary negated, places => places.filter fun place =>
      (haystack.wordBefore place != haystack.wordAt place) != negated
  | .wordStart, places => places.filter fun place =>
      !haystack.wordBefore place && haystack.wordAt place
  | .wordEnd, places => places.filter fun place =>
      haystack.wordBefore place && !haystack.wordAt place
  | .noWordAfter, places => places.filter fun place => !haystack.wordAt place
  | .noWordBefore, places => places.filter fun place => !haystack.wordBefore place
  | .group _ body, places => ends haystack body places
  | .again _, places => places
  | .sequence first second, places => ends haystack second (ends haystack first places)
  | .either first second, places =>
      union (distinct (ends haystack first places)) (ends haystack second places)
  | .times least none body, places =>
      let start := repeated (ends haystack body) least places
      closure (ends haystack body) (haystack.text.size + 1) start (distinct start)
  | .times least (some most) body, places =>
      distinct (upTo (ends haystack body) (most - least) (repeated (ends haystack body) least places))

/-- The groups of a match, each with its start and its end. -/
abbrev Groups := List (Nat × Nat × Nat)

/-- Goes through a step again and again, more often rather than less often. -/
def greedily {α : Type} (step : Nat → Groups → (Nat → Groups → Option α) → Option α) :
    Nat → Nat → Option Nat → Nat → Groups → (Nat → Groups → Option α) → Option α
  | 0, _, _, place, groups, next => next place groups
  | rounds + 1, least, most, place, groups, next =>
      let further : Option α :=
        if most = some 0 then none
        else step place groups fun after groups =>
          if after = place && least = 0 then none
          else greedily step rounds (least - 1) (most.map (· - 1)) after groups next
      match further with
      | some found => some found
      | none => if least = 0 then next place groups else none

/-- Goes through an expression from a place on, and on with what follows it. -/
def walk {α : Type} (haystack : Haystack) :
    Regex → Nat → Groups → (Nat → Groups → Option α) → Option α
  | .group number body, place, groups, next =>
      walk haystack body place groups fun after groups =>
        next after ((number, place, after) :: groups)
  | .again number, place, groups, next =>
      match groups.lookup number with
      | none => none
      | some (start, stop) =>
          let wanted := haystack.between start stop
          let after := place + wanted.length
          if haystack.between place after = wanted && after ≤ haystack.text.size then
            next after groups
          else none
  | .sequence first second, place, groups, next =>
      walk haystack first place groups fun after groups =>
        walk haystack second after groups next
  | .either first second, place, groups, next =>
      match walk haystack first place groups next with
      | some found => some found
      | none => walk haystack second place groups next
  | .times least most body, place, groups, next =>
      greedily (walk haystack body) (haystack.text.size + least + 1) least most place groups next
  | simple, place, groups, next =>
      match ends haystack simple [place] with
      | after :: _ => next after groups
      | [] => none

/-- The groups of a match between two places, if there is one. -/
def assign (haystack : Haystack) (regex : Regex) (start stop : Nat) : Option Groups :=
  walk haystack regex start [] fun after groups => if after = stop then some groups else none

/-- The end of the longest match that begins at a place. -/
def longest? (haystack : Haystack) (regex : Regex) (start : Nat) : Option Nat :=
  if regex.refersBack then
    ((List.range (haystack.text.size + 1 - start)).reverse.map (start + ·)).find? fun stop =>
      (assign haystack regex start stop).isSome
  else (ends haystack regex [start]).max?

/-- The start and the end of the first match from a place on, within a number of places. -/
def findWithin (haystack : Haystack) (regex : Regex) : Nat → Nat → Option (Nat × Nat)
  | 0, _ => none
  | places + 1, start =>
      match longest? haystack regex start with
      | some stop => some (start, stop)
      | none => findWithin haystack regex places (start + 1)

/-- The start and the end of the first match from a place on. -/
def find? (regex : Regex) (haystack : Haystack) (start : Nat) : Option (Nat × Nat) :=
  if haystack.text.size < start then none
  else findWithin haystack regex (haystack.text.size + 1 - start) start

/-- The groups of a match, of which the whole match is number zero. -/
def groupsOf (regex : Regex) (haystack : Haystack) (start stop : Nat) : Groups :=
  (0, start, stop) :: (assign haystack regex start stop).getD []

/-- All matches from a place on, none of which overlaps another, within a number of matches. A match
without text right behind the one before does not count. -/
def allWithin (regex : Regex) (haystack : Haystack) :
    Nat → Nat → Option Nat → List (Nat × Nat)
  | 0, _, _ => []
  | steps + 1, start, before =>
      match regex.find? haystack start with
      | none => []
      | some (first, stop) =>
          if first = stop then
            if before = some first then allWithin regex haystack steps (first + 1) none
            else (first, stop) :: allWithin regex haystack steps (first + 1) none
          else (first, stop) :: allWithin regex haystack steps stop (some stop)

/-- All matches in a text. -/
def all (regex : Regex) (haystack : Haystack) : List (Nat × Nat) :=
  allWithin regex haystack (2 * haystack.text.size + 2) 0 none

end Regex

end ProjectTags.Text
