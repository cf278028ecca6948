import ProjectTags.Text.Integer
import ProjectTags.Tool.Basic

/-!
# Conditions

A condition on files, texts and numbers is written as a list of words, as for the command `test`.
Words of which some are operators are read from left to right. A condition of three words whose
second one compares is always a comparison.
-/

namespace ProjectTags.Condition

/-- What is wrong with a condition that cannot be decided. -/
inductive Trouble where
  | unexpected (word : Text)
  | noArgument (operator : Text)
  | notClosed
  | noNumber (text : Text)
  /-- The bracket that closes a condition is missing. -/
  | noBracket
  deriving DecidableEq, Repr

/-- The text of what is wrong with a condition. -/
def Trouble.message : Trouble → Text
  | unexpected [] => "unexpected operator".toList
  | unexpected word => word ++ ": unexpected operator".toList
  | noArgument operator => operator ++ ": argument expected".toList
  | notClosed => "closing paren expected".toList
  | noNumber text => "Illegal number: ".toList ++ text
  | noBracket => "missing ]".toList

/-- What a word is in a condition. -/
inductive Role where
  | missing
  | operand
  | unary
  | binary
  | negation
  | conjunction
  | disjunction
  | opening
  | closing
  deriving DecidableEq, Repr

/-- The operators on one operand. -/
def unaryOperators : List Text :=
  ["-r", "-w", "-x", "-e", "-f", "-d", "-c", "-b", "-p", "-u", "-g", "-k", "-s", "-t", "-z", "-n",
    "-h", "-O", "-G", "-L", "-S"].map String.toList

/-- The operators between two operands. -/
def binaryOperators : List Text :=
  ["=", "!=", "<", ">", "-eq", "-ne", "-ge", "-gt", "-le", "-lt", "-nt", "-ot", "-ef"].map
    String.toList

/-- What a word is by itself. -/
def ownRole (word : Text) : Role :=
  if unaryOperators.elem word then .unary
  else if binaryOperators.elem word then .binary
  else
    match String.ofList word with
    | "!" => .negation
    | "-a" => .conjunction
    | "-o" => .disjunction
    | "(" => .opening
    | ")" => .closing
    | _ => .operand

/-- What the first of some words is, in front of the others. -/
def roleOf : List Text → Role
  | [] => .missing
  | [word] =>
      match ownRole word with
      | .unary | .opening => .operand
      | role => role
  | [word, _] => ownRole word
  | word :: next :: _ =>
      match ownRole word, ownRole next with
      | .unary, .binary => .operand
      | role, _ => role

/-- The number that an operand stands for. -/
def numberOf (text : Text) : Except Trouble Int :=
  match Text.decimalInteger? text with
  | some number => if Text.fits number then .ok number else .error (.noNumber text)
  | none => .error (.noNumber text)

/-- Whether a location is a device. -/
def isDevice (location : Location) : Bool :=
  location.head? = some "dev".toList && 2 ≤ location.length

/-- Decides an operator on one operand. -/
def decideUnary (machine : Machine) (operator operand : Text) : Except Trouble Bool :=
  let found := machine.files.find machine.current operand
  let holds (p : Location → Node → Bool) : Except Trouble Bool :=
    match found with
    | .ok (location, node) => .ok (p location node)
    | .error _ => .ok false
  match String.ofList operator with
  | "-n" => .ok !operand.isEmpty
  | "-z" => .ok operand.isEmpty
  | "-t" => do
      let _ ← numberOf operand
      return false
  | "-f" => holds fun location node =>
      match node with
      | .file _ _ => !isDevice location
      | .directory => false
  | "-d" => holds fun _ node => node = .directory
  | "-c" => holds fun location node =>
      match node with
      | .file _ _ => isDevice location
      | .directory => false
  | "-x" => holds fun _ node =>
      match node with
      | .file _ executable => executable
      | .directory => true
  | "-s" => holds fun _ node =>
      match node with
      | .file content _ => !content.isEmpty
      | .directory => true
  | "-e" | "-r" | "-w" | "-O" | "-G" => holds fun _ _ => true
  | _ => .ok false

/-- Decides an operator between two operands. -/
def decideBinary (machine : Machine) (first operator second : Text) : Except Trouble Bool :=
  let compared (p : Int → Int → Bool) : Except Trouble Bool := do
    let m ← numberOf first
    let n ← numberOf second
    return p m n
  match String.ofList operator with
  | "=" => .ok (first = second)
  | "!=" => .ok (first != second)
  | "<" => .ok (first != second && Utf8.precedes first second)
  | ">" => .ok (first != second && Utf8.precedes second first)
  | "-eq" => compared fun m n => m == n
  | "-ne" => compared fun m n => m != n
  | "-lt" => compared fun m n => m < n
  | "-le" => compared fun m n => m ≤ n
  | "-gt" => compared fun m n => n < m
  | "-ge" => compared fun m n => n ≤ m
  | "-ef" =>
      match machine.files.find machine.current first, machine.files.find machine.current second with
      | .ok (place, _), .ok (other, _) => .ok (place = other)
      | _, _ => .ok false
  | _ => .ok false

/-- A step of deciding a condition, on the words from the one on that is looked at. -/
abbrev Deciding := StateT (List Text) (Except Trouble)

/-- What the word behind the one that is looked at is. -/
def nextRole : Deciding Role := return roleOf (← get).tail

/-- Goes on by some words, and tells what the word there is. -/
def goOn (count : Nat) : Deciding Role := do
  modify fun words => words.drop count
  return roleOf (← get)

mutual

/-- Conditions one of which has to hold. -/
def decideAny (machine : Machine) : Nat → Role → Deciding Bool
  | 0, _ => return false
  | steps + 1, role => do
      let first ← decideEvery machine steps role
      if (← nextRole) = .disjunction then
        let second ← decideAny machine steps (← goOn 2)
        return first || second
      else return first

/-- Conditions all of which have to hold. -/
def decideEvery (machine : Machine) : Nat → Role → Deciding Bool
  | 0, _ => return false
  | steps + 1, role => do
      let first ← decideNegated machine steps role
      if (← nextRole) = .conjunction then
        let second ← decideEvery machine steps (← goOn 2)
        return first && second
      else return first

/-- A condition behind any number of negations. -/
def decideNegated (machine : Machine) : Nat → Role → Deciding Bool
  | 0, _ => return false
  | steps + 1, .negation => do
      let role ← nextRole
      if role != .missing then let _ ← goOn 1
      return !(← decideNegated machine steps role)
  | steps + 1, role => decideOne machine steps role

/-- A condition without connectives. -/
def decideOne (machine : Machine) : Nat → Role → Deciding Bool
  | 0, _ => return false
  | _ + 1, .missing => return false
  | steps + 1, .opening => do
      let role ← goOn 1
      if role = .closing then return false
      let holds ← decideAny machine steps role
      if (← goOn 1) != .closing then throw .notClosed
      return holds
  | _ + 1, .unary => do
      match ← get with
      | operator :: operand :: others =>
          set (operand :: others)
          decideUnary machine operator operand
      | operator :: [] => throw (.noArgument operator)
      | [] => return false
  | _ + 1, _ => do
      match ← get, ← nextRole with
      | first :: operator :: second :: others, .binary =>
          set (second :: others)
          decideBinary machine first operator second
      | _ :: operator :: [], .binary => throw (.noArgument operator)
      | word :: _, _ => return !word.isEmpty
      | [], _ => return false

end

/-- Decides the words of a condition, of which the first one has a given part. -/
def decideWith (machine : Machine) (role : Role) (words : List Text) : Except Trouble Bool := do
  let (holds, rest) ← (decideAny machine (4 * words.length + 8) role).run words
  match rest with
  | word :: _ :: _ => throw (.unexpected word)
  | _ => return holds

/-- Decides a condition. -/
def evaluate (machine : Machine) : List Text → Except Trouble Bool
  | [] => .ok false
  | words@(first :: others) =>
      let parenthesized := first = ['('] && words.getLast? = some [')']
      let compares := (others.head?.map ownRole) = some .binary
      if words.length = 3 && compares then decideWith machine .operand words
      else if (words.length = 3 || words.length = 4) && parenthesized then
        let inner := others.dropLast
        decideWith machine (roleOf inner) inner
      else if (words.length = 3 || words.length = 4) && first = ['!'] then
        (evaluate machine others).map (!·)
      else decideWith machine (roleOf words) words

/-- Decides a condition under the name of the command that asks for it. Between brackets the closing
one is part of the condition. -/
def decideAs (machine : Machine) (bracketed : Bool) (words : List Text) : Except Trouble Bool :=
  if bracketed then
    if words.getLast? = some [']'] then evaluate machine words.dropLast else .error .noBracket
  else evaluate machine words

end ProjectTags.Condition
