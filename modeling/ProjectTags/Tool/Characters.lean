import ProjectTags.Text.CharClass
import ProjectTags.Text.Mode
import ProjectTags.Tool.Input

/-!
# Changing characters

The tool `tr` puts characters into the place of others, takes characters away, and makes one out of
several that are the same. Sets of characters are written with ranges, classes and escapes.
-/

namespace ProjectTags.Tool.Characters

/-- A member of a set as it is written. -/
inductive Member where
  | one (c : Char)
  | range (first last : Char)
  | named (name : Text)
  /-- A character so many times, or as often as the other set is long. -/
  | repeated (c : Char) (times : Option Nat)

/-- A character at the front of a text, which may be an escape. -/
def character? (text : Text) : Option (Char × Text) :=
  match text with
  | '\\' :: rest =>
      let octal := (rest.take 3).takeWhile Text.isOctal
      if !octal.isEmpty then
        some (Char.ofNat (Text.octalValue octal % 256), rest.drop octal.length)
      else
        match rest with
        | [] => some ('\\', [])
        | c :: rest =>
            let d := match c with
              | 'n' => '\n'
              | 't' => '\t'
              | 'r' => '\r'
              | 'a' => '\x07'
              | 'b' => '\x08'
              | 'f' => '\x0c'
              | 'v' => '\x0b'
              | c => c
            some (d, rest)
  | c :: rest => some (c, rest)
  | [] => none

/-- Reads the members of a set, within a number of them. -/
def readMembers : Nat → Text → List Member
  | 0, _ => []
  | _ + 1, [] => []
  | steps + 1, text =>
      let plain : List Member :=
        match character? text with
        | none => []
        | some (first, rest) =>
            match rest with
            | '-' :: more =>
                match character? more with
                | some (last, after) => .range first last :: readMembers steps after
                | none => .one first :: .one '-' :: readMembers steps more
            | rest => .one first :: readMembers steps rest
      match text with
      | '[' :: ':' :: rest =>
          match Text.splitAt? ':' rest with
          | some (name, ']' :: after) => .named name :: readMembers steps after
          | _ => plain
      | '[' :: '=' :: c :: '=' :: ']' :: after => .one c :: readMembers steps after
      | '[' :: rest =>
          match character? rest with
          | some (c, '*' :: more) =>
              let digits := more.takeWhile Text.isDigit
              match more.drop digits.length with
              | ']' :: after =>
                  .repeated c (if digits.isEmpty then none else some (Text.valueOf digits)) ::
                    readMembers steps after
              | _ => plain
          | _ => plain
      | _ => plain

/-- The characters of a run. -/
def charactersFrom (first last : Char) : Text :=
  (List.range (last.toNat + 1 - first.toNat)).map fun k => Char.ofNat (first.toNat + k)

/-- The characters of a set, with those that are repeated without a number as often as is left up to
a length. -/
def expand (length : Nat) (members : List Member) : Text :=
  let known := members.foldl (fun sum member =>
    match member with
    | .one _ => sum + 1
    | .range first last => sum + (last.toNat + 1 - first.toNat)
    | .named name => sum + (((Text.classRanges? name).getD []).flatMap fun range =>
        charactersFrom range.1 range.2).length
    | .repeated _ (some times) => sum + times
    | .repeated _ none => sum) 0
  members.flatMap fun
    | .one c => [c]
    | .range first last => charactersFrom first last
    | .named name =>
        let ranges := (Text.classRanges? name).getD []
        ranges.flatMap fun range => charactersFrom range.1 range.2
    | .repeated c (some times) => List.replicate times c
    | .repeated c none => List.replicate (length - known) c

/-- What is wrong with a set. -/
def flaw? (members : List Member) : Option Text :=
  members.findSome? fun
    | .range first last =>
        if last < first then some ("range-endpoints of '".toList ++ [first, '-', last] ++
          "' are in reverse collating sequence order".toList) else none
    | .named name =>
        if (Text.classRanges? name).isNone then
          some ("invalid character class '".toList ++ name ++ ['\'']) else none
    | _ => none

/-- The bytes that are not in a set, in order. -/
def complement (characters : Text) : Text :=
  ((List.range 256).map Char.ofNat).filter fun c => !characters.elem c

/-- A text in which of neighbours that are the same and in a set only the first is left. -/
def squeeze (isIn : Char → Bool) (text : Text) : Text :=
  (text.foldl (fun (found, last?) c =>
    if last? = some c && isIn c then (found, last?) else (c :: found, some c))
    (([] : Text), (none : Option Char))).1.reverse

/-- The characters that stand in the place of others, the last one again and again. -/
def pairs (first second : Text) : List (Char × Char) :=
  match second.getLast? with
  | none => []
  | some last =>
      List.zip first (second ++ List.replicate (first.length - second.length) last)

/-- Changes the characters of the input. -/
def tool : Tool := fun call =>
  let known : Known :=
    ⟨"cCdst".toList, [], [("complement", 'c'), ("delete", 'd'), ("squeeze-repeats", 's'),
      ("truncate-set1", 't')].map fun entry => (entry.1.toList, entry.2), true⟩
  match readGiven known call.arguments with
  | .error message => call.misused 1 message
  | .ok given =>
      let deletes := given.has 'd'
      let squeezes := given.has 's'
      let sets := given.operands.map fun text => readMembers (text.length + 1) text
      let work (first : Text) (second? : Option Text) : Result :=
        let first := if given.has 'c' || given.has 'C' then complement first else first
        let text := SingleByte.ofBytes call.input
        let text :=
          if deletes then text.filter fun c => !first.elem c
          else
            match second? with
            | some second =>
                let table := (pairs first second).reverse
                text.map fun c => (table.lookup c).getD c
            | none => text
        let text :=
          if squeezes then squeeze (fun c => (second?.getD first).elem c) text else text
        call.drained.prints text
      match sets.findSome? flaw? with
      | some message => call.fails 1 message
      | none =>
          match sets, deletes, squeezes with
          | [], _, _ => call.misused 1 "missing operand".toList
          | [first], true, false => work (expand 0 first) none
          | [first], false, true => work (expand 0 first) none
          | [_], _, _ =>
              call.misused 1 ("missing operand after '".toList ++ given.operands.headD [] ++
                (if deletes then
                  "'\nTwo strings must be given when both deleting and squeezing repeats."
                else "'\nTwo strings must be given when translating.").toList)
          | [first, second], deletes, _ =>
              if deletes && !squeezes then
                call.misused 1 ("extra operand '".toList ++ (given.operands[1]?).getD [] ++
                  "'\nOnly one string may be given when deleting without squeezing repeats.".toList)
              else
                let first := expand 0 first
                let second := expand first.length second
                if second.isEmpty && !deletes then
                  call.fails 1 "when not truncating set1, string2 must be non-empty".toList
                else work first (some second)
          | _ :: _ :: _ :: _, _, _ =>
              call.misused 1 ("extra operand '".toList ++ (given.operands[2]?).getD [] ++ ['\''])

end ProjectTags.Tool.Characters
