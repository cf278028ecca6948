import ProjectTags.Text.Integer

/-!
# Fields

How a value is written in a field: with a width, a precision and flags, as texts with directives
such as `%-5d` ask for. A directive knows whether its width and its precision are themselves taken
from the arguments.
-/

namespace ProjectTags.Text

/-- How a value is written. -/
structure Field where
  left : Bool
  plus : Bool
  space : Bool
  alternate : Bool
  zeros : Bool
  width : Nat
  precision : Option Nat
  deriving DecidableEq, Repr

namespace Field

/-- A text in its field. -/
def pad (field : Field) (text : Text) : Text :=
  let blanks := List.replicate (field.width - text.length) ' '
  if field.left then text ++ blanks else blanks ++ text

/-- A text in its field, of which at most as much is written as the precision says. -/
def text (field : Field) (value : Text) : Text :=
  field.pad (match field.precision with
    | some most => value.take most
    | none => value)

/-- Digits in their field behind a sign. Zeros may fill up the width between them. -/
def number (field : Field) (mayFill : Bool) (sign body : Text) : Text :=
  let fill := if field.zeros && !field.left && mayFill then
    List.replicate (field.width - sign.length - body.length) '0' else []
  field.pad (sign ++ fill ++ body)

/-- The sign of a number. -/
def signOf (field : Field) (negative : Bool) : Text :=
  if negative then ['-'] else if field.plus then ['+'] else if field.space then [' '] else []

/-- Digits of a whole number, at least as many as the precision says. -/
def atLeast (field : Field) (shown : Text) : Text :=
  match field.precision with
  | some 0 => if shown = ['0'] then [] else shown
  | some least => List.replicate (least - shown.length) '0' ++ shown
  | none => shown

/-- A whole number in its field. -/
def integer (field : Field) (value : Int) : Text :=
  field.number field.precision.isNone (field.signOf (value < 0))
    (field.atLeast (digits value.natAbs))

/-- A natural number in its field, in the base that a letter stands for. -/
def natural (field : Field) (kind : Char) (value : Nat) : Text :=
  match kind with
  | 'o' =>
      let shown := field.atLeast (Nat.toDigits 8 value)
      let shown := if field.alternate && shown.head? != some '0' then '0' :: shown else shown
      field.number field.precision.isNone [] shown
  | 'x' =>
      field.number field.precision.isNone
        (if field.alternate && value != 0 then ['0', 'x'] else [])
        (field.atLeast (Nat.toDigits 16 value))
  | 'X' =>
      field.number field.precision.isNone
        (if field.alternate && value != 0 then ['0', 'X'] else [])
        (field.atLeast ((Nat.toDigits 16 value).map Char.toUpper))
  | _ => field.number field.precision.isNone [] (field.atLeast (digits value))

/-- The field with another width, a negative one asking for the left end. -/
def withWidth (field : Field) (width : Int) : Field :=
  { field with left := field.left || width < 0, width := width.natAbs }

/-- The field with another precision, a negative one asking for none. -/
def withPrecision (field : Field) (precision : Int) : Field :=
  { field with precision := if precision < 0 then none else some precision.toNat }

end Field

/-- A directive, with its letter if it has one. -/
structure Directive where
  field : Field
  widthGiven : Bool
  precisionGiven : Bool
  kind : Option Char
  /-- The directive as it is written. -/
  source : Text

/-- Reads a directive behind its percent sign, and gives what stands behind it. -/
def readDirective (text : Text) : Directive × Text :=
  let flags := text.takeWhile fun c => "#-+ 0".toList.elem c
  let rest := text.drop flags.length
  let (width, widthGiven, rest) := match rest with
    | '*' :: rest => (0, true, rest)
    | rest => (valueOf (rest.takeWhile isDigit), false, rest.dropWhile isDigit)
  let (precision, precisionGiven, rest) := match rest with
    | '.' :: '*' :: rest => (none, true, rest)
    | '.' :: rest => (some (valueOf (rest.takeWhile isDigit)), false, rest.dropWhile isDigit)
    | rest => (none, false, rest)
  let field : Field := ⟨flags.elem '-', flags.elem '+', flags.elem ' ', flags.elem '#',
    flags.elem '0', width, precision⟩
  let after := rest.drop 1
  (⟨field, widthGiven, precisionGiven, rest.head?, '%' :: text.take (text.length - after.length)⟩,
    after)

end ProjectTags.Text
