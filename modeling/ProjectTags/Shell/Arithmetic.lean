import ProjectTags.Shell.Syntax
import ProjectTags.Text.Integer

/-!
# Arithmetic of the shell

The expressions between double parentheses: whole numbers of 64 bits and variables with the usual
operators, which bind as in C. An expression may assign to variables; the new values come out
together with its own value.
-/

namespace ProjectTags.Shell.Arithmetic

/-- What is wrong with an expression. -/
inductive Trouble where
  | divisionByZero
  /-- Something else stands where a number or a variable is needed. -/
  | noOperand
  /-- The expression goes on where it has to end. -/
  | noEnd
  /-- A parenthesis is not closed. -/
  | notClosed
  /-- A choice has no second branch. -/
  | noBranch
  /-- The value of a variable is no number. -/
  | noNumber (text : Text)
  deriving DecidableEq, Repr

/-- The text of what is wrong with an expression. -/
def Trouble.message (expression : Text) : Trouble → Text
  | divisionByZero => said "division by zero"
  | noOperand => said "expecting primary"
  | noEnd => said "expecting EOF"
  | notClosed => said "expecting ')'"
  | noBranch => said "expecting ':'"
  | noNumber text => "Illegal number: ".toList ++ text
where
  /-- What is wrong, with the expression. -/
  said (cause : String) : Text :=
    "arithmetic expression: ".toList ++ cause.toList ++ ": \"".toList ++ expression ++ ['"']

/-- What an expression is made of. -/
inductive Symbol where
  | number (value : Int)
  | name (text : Text)
  | sign (text : Text)
  deriving DecidableEq, Repr

/-- The signs, a longer one before those it begins with. -/
def signs : List Text :=
  ["<<=", ">>=", "==", "!=", "<=", ">=", "<<", ">>", "&&", "||", "+=", "-=", "*=", "/=", "%=",
    "&=", "|=", "^=", "=", "!", "<", ">", "&", "|", "^", "+", "-", "*", "/", "%", "~", "(", ")",
    "?", ":"].map String.toList

/-- Cuts an expression into symbols. A character that belongs to none becomes a sign of its own. -/
def symbols : Nat → Text → List Symbol
  | 0, _ => []
  | _ + 1, [] => []
  | steps + 1, c :: rest =>
      if c = ' ' || c = '\t' || c = '\n' then symbols steps rest
      else if beginsName c then
        .name (c :: rest.takeWhile inName) :: symbols steps (rest.dropWhile inName)
      else
        match Text.basedNumber? (c :: rest) with
        | some (number, rest) => .number (Text.clamped number) :: symbols steps rest
        | none =>
            match signs.find? fun sign => sign.isPrefixOf (c :: rest) with
            | some sign => .sign sign :: symbols steps ((c :: rest).drop sign.length)
            | none => [.sign [c]]

/-- What is left of an expression, and the variables with those that were assigned. -/
structure Reckoning where
  symbols : List Symbol
  value? : Text → Option Text
  assigned : List (Text × Int)

/-- A step of working out an expression. -/
abbrev Calculation := StateT Reckoning (Except Trouble)

/-- The next symbol. -/
def next? : Calculation (Option Symbol) := return (← get).symbols.head?

/-- Goes on behind the next symbol. -/
def skip : Calculation Unit :=
  modify fun reckoning => { reckoning with symbols := reckoning.symbols.tail }

/-- The sign that comes next, as a string. -/
def nextSign : Calculation String := do
  match ← next? with
  | some (.sign text) => return String.ofList text
  | _ => return ""

/-- The value of a variable, which is zero if it has none. -/
def valueOf (name : Text) : Calculation Int := do
  let reckoning ← get
  match reckoning.assigned.lookup name with
  | some value => return value
  | none =>
      let text := (reckoning.value? name).getD []
      let (number, rest) := (Text.leadingInteger? text).getD (0, text)
      if rest.all Text.isSpace && Text.fits number then return number else throw (.noNumber text)

/-- One as the value of what holds and zero as that of what does not. -/
def truth (holds : Bool) : Int := if holds then 1 else 0

/-- The bits of a number of 64 bits as a natural number. -/
def bits (number : Int) : Nat := (Int.emod number Text.wordCount).toNat

/-- By how many places a number shifts. -/
def places (number : Int) : Nat := bits number % 64

/-- The value of an operator at two numbers. -/
def apply (operator : String) (first second : Int) : Calculation Int :=
  match operator with
  | "|" => return Text.wrapped (Int.ofNat (bits first ||| bits second))
  | "^" => return Text.wrapped (Int.ofNat (bits first ^^^ bits second))
  | "&" => return Text.wrapped (Int.ofNat (bits first &&& bits second))
  | "==" => return truth (first == second)
  | "!=" => return truth (first != second)
  | "<=" => return truth (first ≤ second)
  | ">=" => return truth (second ≤ first)
  | "<" => return truth (first < second)
  | ">" => return truth (second < first)
  | "<<" => return Text.wrapped (first * Int.ofNat (Nat.pow 2 (places second)))
  | ">>" => return first.fdiv (Int.ofNat (Nat.pow 2 (places second)))
  | "+" => return Text.wrapped (first + second)
  | "-" => return Text.wrapped (first - second)
  | "*" => return Text.wrapped (first * second)
  | "/" =>
      if second = 0 then throw .divisionByZero else return Text.wrapped (first.tdiv second)
  | "%" => if second = 0 then throw .divisionByZero else return first.tmod second
  | _ => throw .noEnd

/-- The levels at which operators bind, loosest first. -/
def levels : List (List String) :=
  [["|"], ["^"], ["&"], ["==", "!="], ["<=", ">=", "<", ">"], ["<<", ">>"], ["+", "-"],
    ["*", "/", "%"]]

/-- The operator of an assignment, if a sign stands for one: the equals sign itself, or the
operator that is joined with it. -/
def assignmentOf? (sign : String) : Option (Option String) :=
  match sign with
  | "=" => some none
  | "+=" => some (some "+")
  | "-=" => some (some "-")
  | "*=" => some (some "*")
  | "/=" => some (some "/")
  | "%=" => some (some "%")
  | "<<=" => some (some "<<")
  | ">>=" => some (some ">>")
  | "&=" => some (some "&")
  | "|=" => some (some "|")
  | "^=" => some (some "^")
  | _ => none

mutual

/-- An expression, which may be an assignment. If it is not needed, nothing is assigned. -/
def assignment : Nat → Bool → Calculation Int
  | 0, _ => throw .noOperand
  | steps + 1, needed => do
      match (← get).symbols with
      | .name name :: .sign sign :: rest =>
          match assignmentOf? (String.ofList sign) with
          | none => choice steps needed
          | some operator? =>
              modify fun reckoning => { reckoning with symbols := rest }
              let right ← assignment steps needed
              if !needed then return right
              let value ← match operator? with
                | none => pure right
                | some operator => apply operator (← valueOf name) right
              modify fun reckoning => { reckoning with
                assigned := (name, value) :: reckoning.assigned }
              return value
      | _ => choice steps needed

/-- A condition with two branches, or an expression without a condition. -/
def choice : Nat → Bool → Calculation Int
  | 0, _ => throw .noOperand
  | steps + 1, needed => do
      let condition ← disjunction steps needed
      if (← nextSign) = "?" then
        skip
        let yes ← assignment steps (needed && condition != 0)
        if (← nextSign) != ":" then throw .noBranch
        skip
        let no ← choice steps (needed && condition == 0)
        return if condition != 0 then yes else no
      else return condition

/-- Expressions one of which has to hold. -/
def disjunction : Nat → Bool → Calculation Int
  | 0, _ => throw .noOperand
  | steps + 1, needed => do
      let first ← conjunction steps needed
      if (← nextSign) = "||" then
        skip
        let second ← disjunction steps (needed && first == 0)
        return truth (first != 0 || second != 0)
      else return first

/-- Expressions all of which have to hold. -/
def conjunction : Nat → Bool → Calculation Int
  | 0, _ => throw .noOperand
  | steps + 1, needed => do
      let first ← level steps needed 0
      if (← nextSign) = "&&" then
        skip
        let second ← conjunction steps (needed && first != 0)
        return truth (first != 0 && second != 0)
      else return first

/-- An expression of operators that bind at least as tightly as a level. -/
def level : Nat → Bool → Nat → Calculation Int
  | 0, _, _ => throw .noOperand
  | steps + 1, needed, depth => do
      if depth < levels.length then
        let first ← level steps needed (depth + 1)
        levelRest steps needed depth first
      else operand steps needed

/-- The operators of a level behind a first number. -/
def levelRest : Nat → Bool → Nat → Int → Calculation Int
  | 0, _, _, _ => throw .noOperand
  | steps + 1, needed, depth, first => do
      let sign ← nextSign
      if ((levels[depth]?).getD []).elem sign then
        skip
        let second ← level steps needed (depth + 1)
        let value ← if needed then apply sign first second else pure second
        levelRest steps needed depth value
      else return first

/-- A number, a variable, or an expression between parentheses, with signs in front. -/
def operand : Nat → Bool → Calculation Int
  | 0, _ => throw .noOperand
  | steps + 1, needed => do
      match ← next? with
      | some (.number value) => skip; return value
      | some (.name name) =>
          skip
          if needed then valueOf name else return 0
      | some (.sign ['(']) =>
          skip
          let value ← assignment steps needed
          if (← nextSign) != ")" then throw .notClosed
          skip
          return value
      | some (.sign ['+']) => skip; operand steps needed
      | some (.sign ['-']) => skip; return Text.wrapped (-(← operand steps needed))
      | some (.sign ['!']) => skip; return truth ((← operand steps needed) == 0)
      | some (.sign ['~']) => skip; return -(← operand steps needed) - 1
      | _ => throw .noOperand

end

/-- The value of an expression and the variables it assigns to, last one first. -/
def evaluate (value? : Text → Option Text) (expression : Text) :
    Except Trouble (Int × List (Text × Int)) := do
  let all := symbols (expression.length + 1) expression
  let (value, after) ← (assignment (20 * all.length + 40) true).run ⟨all, value?, []⟩
  if after.symbols.isEmpty then return (value, after.assigned) else throw .noEnd

end ProjectTags.Shell.Arithmetic
