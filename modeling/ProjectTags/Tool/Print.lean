import ProjectTags.Text.Formatted
import ProjectTags.Tool.Condition
import ProjectTags.Tool.Input
import ProjectTags.Tool.Switch

/-!
# Output, conditions and numbers

The tools `echo`, `printf` and `test`. They know more escapes than the commands of the shell of the
same names, and `echo` takes escapes only if it is asked to. Further tools work on whole numbers.
-/

namespace ProjectTags.Tool.Print

/-- The letters at the front of the words that say how `echo` writes, and the other words. -/
def echoLetters : List Text → Text × List Text
  | ('-' :: c :: letters) :: words =>
      if (c :: letters).all fun c => c = 'n' || c = 'e' || c = 'E' then
        let (others, words) := echoLetters words
        (c :: letters ++ others, words)
      else ([], ('-' :: c :: letters) :: words)
  | words => ([], words)

/-- Writes words on one line. -/
def echo : Tool := fun call =>
  let (letters, words) := echoLetters call.arguments
  let text := Text.joinWith [' '] words
  let escaped := (letters.filter (· != 'n')).getLast? = some 'e'
  let (text, stopped) := if escaped then Text.unescape true text else (text, false)
  call.prints (if stopped || letters.elem 'n' then text else text ++ ['\n'])

/-- Writes arguments by a format. -/
def printf : Tool := fun call =>
  match call.arguments.dropWhile (· = ['-', '-']) with
  | [] => call.misused 1 "missing operand".toList
  | format :: arguments =>
      let formatted := Text.formatAll true format arguments
      let refused := match formatted.ending with
        | .refused message => [message]
        | _ => []
      let said := formatted.complaints ++ refused
      { call.prints formatted.written with
        written := (Stream.output, SingleByte.toBytes formatted.written) ::
          said.map fun message =>
            (.errors, SingleByte.toBytes (call.name ++ ": ".toList ++ message ++ ['\n']))
        status := .code (if said.isEmpty then 0 else 1) }

/-- Decides a condition. -/
def test (bracketed : Bool) : Tool := fun call =>
  match Condition.decideAs call.machine bracketed call.arguments with
  | .ok true => call.ends 0
  | .ok false => call.ends 1
  | .error trouble => call.fails 2 trouble.message

end ProjectTags.Tool.Print

namespace ProjectTags.Tool.Calculate

/-- The whole number that a word is. -/
def number? (text : Text) : Option Int :=
  match text with
  | '-' :: digits => if !digits.isEmpty && digits.all Text.isDigit then
      some (-(Int.ofNat (Text.valueOf digits))) else none
  | digits => if !digits.isEmpty && digits.all Text.isDigit then
      some (Int.ofNat (Text.valueOf digits)) else none

/-- The value of an operator between two numbers. -/
def value? (operator : Text) (m n : Int) : Except Text Int :=
  match String.ofList operator with
  | "+" => .ok (m + n)
  | "-" => .ok (m - n)
  | "*" => .ok (m * n)
  | "/" => if n = 0 then .error "division by zero".toList else .ok (m.tdiv n)
  | "%" => if n = 0 then .error "division by zero".toList else .ok (m.tmod n)
  | _ => .error ("syntax error: unexpected argument '".toList ++ operator ++ ['\''])

/-- Works out an operator between two numbers. -/
def expr : Tool := fun call =>
  match call.arguments with
  | [first, operator, second] =>
      match number? first, number? second with
      | some m, some n =>
          match value? operator m n with
          | .ok value => (call.prints (ended (Text.integer value))).withStatus
              (if value = 0 then 1 else 0)
          | .error message => call.fails 2 message
      | _, _ => call.fails 2 "non-integer argument".toList
  | _ => call.misused 2 "missing operand".toList

/-- Writes the whole numbers from a first to a last one. -/
def seq : Tool := fun call =>
  match call.arguments.mapM number? with
  | some [last] => call.prints (between 1 last)
  | some [first, last] => call.prints (between first last)
  | some _ => call.misused 1 "missing operand".toList
  | none => call.misused 1 "invalid floating point argument".toList
where
  /-- The lines of the numbers between two ones. -/
  between (first last : Int) : Text :=
    (List.range (last - first + 1).toNat).flatMap fun count =>
      ended (Text.integer (first + Int.ofNat count))

end ProjectTags.Tool.Calculate
