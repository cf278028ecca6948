import ProjectTags.Text.Decimal

/-!
# Whole numbers

Numbers written in a base up to sixteen, perhaps with first characters that tell the base, and whole
numbers with a sign, as programs read and write them. Their arithmetic goes round in 64 bits, and a
number that is read and does not fit becomes the nearest one that does.
-/

namespace ProjectTags.Text

/-- The value of a digit in bases up to sixteen. -/
def digitValue? (c : Char) : Option Nat :=
  if isDigit c then some (c.toNat - 48)
  else if 'a' ≤ c && c ≤ 'f' then some (c.toNat - 87)
  else if 'A' ≤ c && c ≤ 'F' then some (c.toNat - 55)
  else none

/-- Whether a character is a digit of a base. -/
def isDigitOf (base : Nat) (c : Char) : Bool :=
  match digitValue? c with
  | some value => value < base
  | none => false

/-- The number that a sequence of digits of a base stands for. -/
def valueIn (base : Nat) (text : Text) : Nat :=
  text.foldl (fun value c => base * value + (digitValue? c).getD 0) 0

/-- The number at the front of a text, and what stands behind it. A leading zero means base eight
and a leading 0x base sixteen. -/
def basedNumber? (text : Text) : Option (Nat × Text) :=
  let read (base : Nat) (text : Text) : Nat × Text :=
    (valueIn base (text.takeWhile (isDigitOf base)), text.dropWhile (isDigitOf base))
  match text with
  | '0' :: x :: c :: rest =>
      if (x = 'x' || x = 'X') && isDigitOf 16 c then some (read 16 (c :: rest))
      else some (read 8 text)
  | '0' :: _ => some (read 8 text)
  | c :: _ => if isDigit c then some (read 10 text) else none
  | [] => none

/-- Whether a character is white space where every character has a code below 128. -/
def isSpace (c : Char) : Bool :=
  c = ' ' || ('\t' ≤ c && c ≤ '\r')

/-- A whole number in decimal. -/
def integer (number : Int) : Text :=
  if number < 0 then '-' :: digits number.natAbs else digits number.natAbs

/-- How many numbers there are of 64 bits. -/
def wordCount : Nat := 18446744073709551616

/-- The number of 64 bits that a number goes round to. -/
def wrapped (number : Int) : Int :=
  Int.bmod number wordCount

/-- The number of 64 bits that is nearest to a number. -/
def clamped (number : Int) : Int :=
  max (-9223372036854775808) (min 9223372036854775807 number)

/-- Whether a number has 64 bits. -/
def fits (number : Int) : Bool :=
  clamped number = number

/-- The number at the front of a text behind white space and an optional sign, and what stands
behind it. The digits are read by a given function. -/
def signed? (read? : Text → Option (Nat × Text)) (text : Text) : Option (Int × Text) :=
  match text.dropWhile isSpace with
  | '-' :: rest => (read? rest).map fun found => (-Int.ofNat found.1, found.2)
  | '+' :: rest => (read? rest).map fun found => (Int.ofNat found.1, found.2)
  | rest => (read? rest).map fun found => (Int.ofNat found.1, found.2)

/-- The number at the front of a text in the base that its first digits tell, and what stands
behind it. -/
def leadingInteger? (text : Text) : Option (Int × Text) :=
  signed? basedNumber? text

/-- The decimal number at the front of a text, and what stands behind it. -/
def leadingDecimal? (text : Text) : Option (Int × Text) :=
  signed? (fun rest =>
    match rest.takeWhile isDigit with
    | [] => none
    | front => some (valueOf front, rest.drop front.length)) text

/-- The decimal number that a whole text stands for, with white space around it. -/
def decimalInteger? (text : Text) : Option Int := do
  let (number, rest) ← leadingDecimal? text
  if rest.all isSpace then some number else none

end ProjectTags.Text
