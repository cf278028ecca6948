import ProjectTags.Text.Integer
import ProjectTags.Toml.Table

/-!
# Numbers of TOML

Whole numbers of 64 bits in four bases, and decimal numbers. Single underscores may stand between
digits. A decimal number is kept as it is written, unless it is too large for a number of double
precision, which is refused for positive numbers.
-/

namespace ProjectTags.Toml.Number

/-- Digits of a base that follow other digits, with single underscores before them. -/
def moreDigits (base : Nat) : Text → Text × Text
  | '_' :: c :: rest =>
      if Text.isDigitOf base c then
        let (digits, rest) := moreDigits base rest
        (c :: digits, rest)
      else ([], '_' :: c :: rest)
  | c :: rest =>
      if Text.isDigitOf base c then
        let (digits, rest) := moreDigits base rest
        (c :: digits, rest)
      else ([], c :: rest)
  | [] => ([], [])

/-- Digits of a base with single underscores between them. -/
def digits? (base : Nat) : Text → Option (Text × Text)
  | c :: rest =>
      if Text.isDigitOf base c then
        let (digits, rest) := moreDigits base rest
        some (c :: digits, rest)
      else none
  | [] => none

/-- Whether there is a minus sign, and the text behind the sign. -/
def sign : Text → Bool × Text
  | '-' :: rest => (true, rest)
  | '+' :: rest => (false, rest)
  | text => (false, text)

/-- Decimal digits that do not begin with a zero, or a zero alone. -/
def whole? : Text → Option (Text × Text)
  | '0' :: rest => some (['0'], rest)
  | text => digits? 10 text

/-- The whole numbers that can be written are those of 64 bits with a sign. -/
def inRange (n : Int) : Bool :=
  -9223372036854775808 ≤ n && n < 9223372036854775808

/-- A whole number in a base that is named in front of it. -/
def based? : Text → Option (Value × Text)
  | '0' :: letter :: rest => do
      let base ← match letter with
        | 'x' => some 16
        | 'o' => some 8
        | 'b' => some 2
        | _ => none
      let (digits, rest) ← digits? base rest
      let value : Int := Text.valueIn base digits
      if inRange value then return (.integer value, rest) else none
  | _ => none

/-- A whole number in the decimal base. -/
def integer? (text : Text) : Option (Value × Text) := do
  let (negative, rest) := sign text
  let (digits, rest) ← whole? rest
  let value : Int := Text.valueOf digits
  let value := if negative then -value else value
  if inRange value then return (.integer value, rest) else none

/-- The digits behind a decimal point, if there is one. -/
def fraction? : Text → Option (Option Text × Text)
  | '.' :: rest => (digits? 10 rest).map fun (digits, rest) => (some digits, rest)
  | text => some (none, text)

/-- The exponent, if there is one. -/
def exponent? : Text → Option (Option Int × Text)
  | c :: rest =>
      if c = 'e' || c = 'E' then do
        let (negative, rest) := sign rest
        let (digits, rest) ← digits? 10 rest
        let value : Int := Text.valueOf digits
        return (some (if negative then -value else value), rest)
      else some (none, c :: rest)
  | [] => some (none, [])

/-- The least number that is rounded to infinity: half a step above the greatest number of double
precision. -/
def infinite : Nat := Nat.pow 2 1024 - Nat.pow 2 970

/-- Whether a number, given by its digits and a power of ten, is rounded to infinity. Numbers with
far more or far fewer than the 309 digits of the bound need no computation. -/
def overflows (digits : Text) (power : Int) : Bool :=
  let significant := digits.dropWhile (· = '0')
  let length := significant.length + power
  if significant.isEmpty || length < 300 then false
  else if 320 < length then true
  else if 0 ≤ power then infinite ≤ Text.valueOf significant * Nat.pow 10 power.toNat
  else infinite * Nat.pow 10 (-power).toNat ≤ Text.valueOf significant

/-- A number with a fraction, an exponent or both. -/
def decimal? (text : Text) : Option (Value × Text) := do
  let (negative, rest) := sign text
  let (digits, rest) ← whole? rest
  let (fraction, rest) ← fraction? rest
  let (exponent, rest) ← exponent? rest
  if fraction.isNone && exponent.isNone then none
  else
    let places := fraction.getD []
    if !negative && overflows (digits ++ places) (exponent.getD 0 - places.length) then none
    else return (.decimal (text.take (text.length - rest.length)), rest)

/-- Infinity or the value that is no number. -/
def special? (text : Text) : Option (Value × Text) := do
  let (_, rest) := sign text
  let rest ← (Text.dropPrefix? ['i', 'n', 'f'] rest).or (Text.dropPrefix? ['n', 'a', 'n'] rest)
  return (.decimal (text.take (text.length - rest.length)), rest)

/-- Reads a number. -/
def read? (text : Text) : Option (Value × Text) :=
  (special? text).or ((based? text).or ((decimal? text).or (integer? text)))

end ProjectTags.Toml.Number
