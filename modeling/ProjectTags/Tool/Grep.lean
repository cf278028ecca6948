import ProjectTags.Text.Regex.Reader
import ProjectTags.Tool.Input

/-!
# Searching and editing lines

The tool `grep` writes the lines in which a pattern matches, or only the matches, or how many such
lines there are. The tool `sed` replaces matches in lines, which is the one command of its scripts
that is known here.
-/

namespace ProjectTags.Tool.Grep

open Text (Regex Haystack)

/-- The matches in a line that have any text. -/
def matchesIn (regex : Regex) (line : Text) : List Text :=
  let haystack := Haystack.ofText line
  ((regex.all haystack).filter fun place => place.1 < place.2).map fun place =>
    haystack.between place.1 place.2

/-- What is written for one input, and whether a line is chosen. -/
def searchOne (given : Given) (regex : Regex) (named : Bool) (name : Text) (bytes : Bytes) :
    Text × Bool :=
  let chosen := (linesOf bytes).zipIdx.filter fun entry =>
    (regex.find? (Haystack.ofText entry.1) 0).isSome != given.has 'v'
  let front := if named then name ++ [':'] else []
  let shown (line : Text) (index : Nat) : Text :=
    front ++ (if given.has 'n' then Text.digits (index + 1) ++ [':'] else []) ++ ended line
  let text :=
    if given.has 'q' then []
    else if given.has 'c' then front ++ ended (Text.digits chosen.length)
    else if given.has 'o' then
      if given.has 'v' then []
      else chosen.flatMap fun (line, index) =>
        (matchesIn regex line).flatMap fun found => shown found index
    else chosen.flatMap fun (line, index) => shown line index
  (text, !chosen.isEmpty)

/-- Writes the lines in which a pattern matches. -/
def tool : Tool := fun call =>
  call.given 2 "EFivcnoq" "" [("extended-regexp", 'E'), ("fixed-strings", 'F'),
      ("ignore-case", 'i'), ("invert-match", 'v'), ("count", 'c'), ("line-number", 'n'),
      ("only-matching", 'o'), ("quiet", 'q')] fun given =>
    match given.operands with
    | [] => call.misused 2 "missing pattern".toList
    | pattern :: operands =>
        let read : Except Regex.Flaw Regex :=
          if given.has 'F' then .ok (Regex.literal (given.has 'i') pattern)
          else Regex.read ⟨given.has 'E', given.has 'i', false, false⟩ pattern
        match read with
        | .error flaw => call.fails 2 flaw.message
        | .ok regex =>
            let gathered := gather call operands
            let results := gathered.inputs.map fun (name, bytes) =>
              searchOne given regex (1 < operands.length)
                (if name = ['-'] then "(standard input)".toList else name) bytes
            let status :=
              if !gathered.complaints.isEmpty then 2 else if results.any (·.2) then 0 else 1
            gathered.finish status (results.flatMap (·.1))

end ProjectTags.Tool.Grep

namespace ProjectTags.Tool.Edit

open Text (Regex Haystack)

/-- A part of what is put in the place of a match. -/
inductive Part where
  | letter (c : Char)
  /-- What a group of the expression has matched; number zero is the whole match. -/
  | group (number : Nat)
  deriving DecidableEq, Repr

/-- What is replaced in a line. -/
structure Substitution where
  regex : Regex
  parts : List Part
  /-- Whether all matches are replaced and not only the first one. -/
  everywhere : Bool
  deriving DecidableEq, Repr

/-- A text up to a sign, which belongs to the text behind a backslash, and what is behind it. -/
def upToSign (sign : Char) : Text → Option (Text × Text)
  | [] => none
  | '\\' :: c :: rest =>
      (upToSign sign rest).map fun found =>
        ((if c = sign then [c] else ['\\', c]) ++ found.1, found.2)
  | c :: rest =>
      if c = sign then some ([], rest)
      else (upToSign sign rest).map fun found => (c :: found.1, found.2)

/-- The parts of a text that is put in the place of a match. -/
def partsOf : Text → List Part
  | '\\' :: c :: rest =>
      (if Text.isDigit c then .group (Text.valueOf [c])
        else .letter (if c = 'n' then '\n' else c)) :: partsOf rest
  | '&' :: rest => .group 0 :: partsOf rest
  | c :: rest => .letter c :: partsOf rest
  | [] => []

/-- Reads a script. -/
def readScript (extended : Bool) (script : Text) : Except Text Substitution :=
  let wrong (message : Text) : Except Text Substitution :=
    .error ("-e expression #1, char ".toList ++ Text.digits script.length ++ ": ".toList ++ message)
  match script with
  | 's' :: sign :: rest =>
      match upToSign sign rest with
      | none => wrong "unterminated \x60s' command".toList
      | some (pattern, rest) =>
          match upToSign sign rest with
          | none => wrong "unterminated \x60s' command".toList
          | some (replacement, flags) =>
              if !flags.all fun c => c = 'g' || c = 'I' then wrong "unknown option to \x60s'".toList
              else
                match Regex.read ⟨extended, flags.elem 'I', false, true⟩ pattern with
                | .ok regex => .ok ⟨regex, partsOf replacement, flags.elem 'g'⟩
                | .error flaw => wrong flaw.message
  | _ => wrong "unknown command".toList

/-- A text with some matches replaced, from a place on. -/
def substituted (substitution : Substitution) (haystack : Haystack) :
    List (Nat × Nat) → Nat → Text
  | [], place => haystack.between place haystack.text.size
  | (start, stop) :: others, place =>
      let groups := substitution.regex.groupsOf haystack start stop
      let shown := substitution.parts.flatMap fun
        | .letter c => [c]
        | .group number =>
            ((groups.lookup number).map fun found => haystack.between found.1 found.2).getD []
      haystack.between place start ++ shown ++ substituted substitution haystack others stop

/-- A line with matches replaced. -/
def edited (substitution : Substitution) (line : Text) : Text :=
  let haystack := Haystack.ofText line
  let found := if substitution.everywhere then substitution.regex.all haystack
    else (substitution.regex.find? haystack 0).toList
  substituted substitution haystack found 0

/-- Writes lines with matches replaced. -/
def sed : Tool := fun call =>
  call.given 1 "Er" "" [("regexp-extended", 'E')] fun given =>
    match given.operands with
    | [] => call.misused 1 "missing script".toList
    | script :: operands =>
        match readScript (given.has 'E' || given.has 'r') script with
        | .error message => call.fails 1 message
        | .ok substitution =>
            let gathered := gatherWith (trouble "can't read ".toList) call operands
            gathered.finish (gathered.status 2)
              ((linesWithEnds gathered.bytes).flatMap fun line =>
                if line.getLast? = some '\n' then ended (edited substitution line.dropLast)
                else edited substitution line)

end ProjectTags.Tool.Edit
