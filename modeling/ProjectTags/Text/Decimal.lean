import ProjectTags.Text.Basic

/-!
# Decimal numbers

Natural numbers in decimal: `digits` writes one and `natural?` reads one below a bound, with an
optional plus sign and any number of leading zeros. `hundredths` writes a fraction with two
decimal places, rounding to the nearest and a tie to the even neighbour.
-/

namespace ProjectTags.Text

/-- The digit of a number below ten. -/
def digit (n : Nat) : Char :=
  Char.ofNat (48 + n % 10)

/-- The decimal digits of a number, without leading zeros. -/
def digits (n : Nat) : Text :=
  if n < 10 then [digit n] else digits (n / 10) ++ [digit n]
termination_by n

/-- Whether a character is one of the ten digits. -/
def isDigit (c : Char) : Bool :=
  '0' ≤ c && c ≤ '9'

/-- The number that a sequence of digits stands for. -/
def valueOf (text : Text) : Nat :=
  text.foldl (fun value c => 10 * value + (c.toNat - 48)) 0

/-- The digits of a text after an optional plus sign. -/
def unsigned : Text → Text
  | '+' :: rest => rest
  | text => text

/-- Reads a number below a bound: an optional plus sign and at least one digit. -/
def natural? (bound : Nat) (text : Text) : Option Nat :=
  let body := unsigned text
  if !body.isEmpty && body.all isDigit && valueOf body < bound then some (valueOf body) else none

/-- A quotient rounded to the nearest whole number, a tie going to the even neighbour. -/
def roundQuotient (numerator denominator : Nat) : Nat :=
  let quotient := numerator / denominator
  let doubled := 2 * (numerator % denominator)
  if doubled < denominator then quotient
  else if denominator < doubled then quotient + 1
  else quotient + quotient % 2

/-- A quotient with two decimal places, rounded to the nearest and a tie to the even neighbour. -/
def hundredths (numerator denominator : Nat) : Text :=
  let scaled := roundQuotient (100 * numerator) denominator
  digits (scaled / 100) ++ ['.', digit (scaled / 10), digit scaled]

end ProjectTags.Text
