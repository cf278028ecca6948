import ProjectTags.Text.Decimal

/-!
# Durations

A duration is a count of milliseconds. Below one second it is written as that count; from there on
as seconds with two decimal places. The seconds are the quotient of two double-precision numbers,
so the count is rounded to 53 significant bits, the quotient is rounded to 53 bits again, and the
two places are those of the result.
-/

namespace ProjectTags

/-- A fraction of natural numbers. -/
structure Fraction where
  numerator : Nat
  denominator : Nat

namespace Fraction

/-- The number of significant bits of double precision. -/
def significantBits : Nat := 53

/-- The nearest value to a fraction of at least one that has 53 significant bits, a tie going to
the even neighbour. -/
def toDouble (value : Fraction) : Fraction :=
  let whole := value.numerator / value.denominator
  let exponent := Nat.log2 whole
  if exponent < significantBits then
    let unit := Nat.pow 2 (significantBits - 1 - exponent)
    ⟨Text.roundQuotient (value.numerator * unit) value.denominator, unit⟩
  else
    let unit := Nat.pow 2 (exponent + 1 - significantBits)
    ⟨Text.roundQuotient value.numerator (value.denominator * unit) * unit, 1⟩

end Fraction

namespace Duration

/-- Counts have at most 128 bits. -/
def bound : Nat := 340282366920938463463374607431768211456

/-- Writes a number of milliseconds. -/
def format (millis : Nat) : Text :=
  if millis < 1000 then Text.digits millis ++ ['m', 's']
  else
    let count := (Fraction.mk millis 1).toDouble
    let seconds := (Fraction.mk count.numerator (1000 * count.denominator)).toDouble
    Text.hundredths seconds.numerator seconds.denominator ++ ['s']

end Duration

end ProjectTags
