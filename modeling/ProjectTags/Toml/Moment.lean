import ProjectTags.Text.Decimal

/-!
# Dates and times of TOML

A date, a time of day, or a date with a time of day and possibly the distance from universal time.
`render` writes the canonical form, with a capital `T` between date and time and without zeros at
the end of a fraction of a second.
-/

namespace ProjectTags.Toml

/-- A day. -/
structure Day where
  year : Nat
  month : Nat
  day : Nat
  deriving DecidableEq, Repr

/-- A time of day. -/
structure Clock where
  hour : Nat
  minute : Nat
  second : Nat
  nanosecond : Nat
  deriving DecidableEq, Repr

/-- How far a clock is from universal time. -/
inductive Offset where
  | zero
  | minutes (behind : Bool) (hour minute : Nat)
  deriving DecidableEq, Repr

/-- A date, a time or both. -/
inductive Moment where
  | ofDay (day : Day)
  | ofClock (clock : Clock)
  | ofBoth (day : Day) (clock : Clock) (offset : Option Offset)
  deriving DecidableEq, Repr

namespace Moment

/-- Reads a number of exactly some digits. -/
def number? (count : Nat) (text : Text) : Option (Nat × Text) :=
  let digits := text.take count
  if digits.length = count && digits.all Text.isDigit then
    some (Text.valueOf digits, text.drop count)
  else none

/-- Whether a year has a leap day. -/
def isLeap (year : Nat) : Bool :=
  year % 4 = 0 && (year % 100 != 0 || year % 400 = 0)

/-- The number of days of a month. -/
def monthLength (year month : Nat) : Nat :=
  if month = 2 then (if isLeap year then 29 else 28)
  else if month = 4 || month = 6 || month = 9 || month = 11 then 30
  else 31

/-- Reads a day. -/
def day? (text : Text) : Option (Day × Text) := do
  let (year, rest) ← number? 4 text
  let rest ← Text.dropPrefix? ['-'] rest
  let (month, rest) ← number? 2 rest
  let rest ← Text.dropPrefix? ['-'] rest
  let (day, rest) ← number? 2 rest
  if 1 ≤ month && month ≤ 12 && 1 ≤ day && day ≤ monthLength year month then
    return (⟨year, month, day⟩, rest)
  else none

/-- The nanoseconds that the digits of a fraction of a second stand for; digits behind the ninth
are left out. -/
def nanoseconds (digits : Text) : Nat :=
  let kept := digits.take 9
  Text.valueOf kept * Nat.pow 10 (9 - kept.length)

/-- Reads the fraction of a second, if there is one. -/
def fraction (text : Text) : Nat × Text :=
  match text with
  | '.' :: rest =>
      let digits := rest.takeWhile Text.isDigit
      if digits.isEmpty then (0, text) else (nanoseconds digits, rest.drop digits.length)
  | _ => (0, text)

/-- Reads a time of day. The sixtieth second is a leap second. -/
def clock? (text : Text) : Option (Clock × Text) := do
  let (hour, rest) ← number? 2 text
  let rest ← Text.dropPrefix? [':'] rest
  let (minute, rest) ← number? 2 rest
  let rest ← Text.dropPrefix? [':'] rest
  let (second, rest) ← number? 2 rest
  if hour ≤ 23 && minute ≤ 59 && second ≤ 60 then
    let (nanosecond, rest) := fraction rest
    return (⟨hour, minute, second, nanosecond⟩, rest)
  else none

/-- Reads hours and minutes. -/
def distance? (behind : Bool) (text : Text) : Option (Offset × Text) := do
  let (hour, rest) ← number? 2 text
  let rest ← Text.dropPrefix? [':'] rest
  let (minute, rest) ← number? 2 rest
  if hour ≤ 23 && minute ≤ 59 then return (.minutes behind hour minute, rest) else none

/-- Reads the distance from universal time. -/
def offset? : Text → Option (Offset × Text)
  | 'Z' :: rest => some (.zero, rest)
  | 'z' :: rest => some (.zero, rest)
  | '+' :: rest => distance? false rest
  | '-' :: rest => distance? true rest
  | _ => none

/-- Reads the time behind a date, if there is one. -/
def clockAfterDay? : Text → Option (Clock × Text)
  | c :: rest => if c = 'T' || c = 't' || c = ' ' then clock? rest else none
  | [] => none

/-- Reads a date, a time or both. -/
def read? (text : Text) : Option (Moment × Text) :=
  match day? text with
  | some (day, rest) =>
      match clockAfterDay? rest with
      | some (clock, rest) =>
          match offset? rest with
          | some (offset, rest) => some (.ofBoth day clock (some offset), rest)
          | none => some (.ofBoth day clock none, rest)
      | none => some (.ofDay day, rest)
  | none => (clock? text).map fun (clock, rest) => (.ofClock clock, rest)

/-- A number with at least some digits. -/
def padded (count n : Nat) : Text :=
  let digits := Text.digits n
  List.replicate (count - digits.length) '0' ++ digits

/-- The canonical form of a day. -/
def renderDay (day : Day) : Text :=
  padded 4 day.year ++ '-' :: padded 2 day.month ++ '-' :: padded 2 day.day

/-- The canonical form of a time of day. -/
def renderClock (clock : Clock) : Text :=
  padded 2 clock.hour ++ ':' :: padded 2 clock.minute ++ ':' :: padded 2 clock.second ++
    if clock.nanosecond = 0 then []
    else '.' :: Text.dropWhileEnd (· = '0') (padded 9 clock.nanosecond)

/-- The canonical form of a distance from universal time. Distances of nothing are not behind. -/
def renderOffset : Offset → Text
  | .zero => ['Z']
  | .minutes behind hour minute =>
      (if behind && (hour != 0 || minute != 0) then '-' else '+') ::
        padded 2 hour ++ ':' :: padded 2 minute

/-- The canonical form of a moment. -/
def render : Moment → Text
  | ofDay day => renderDay day
  | ofClock clock => renderClock clock
  | ofBoth day clock offset =>
      renderDay day ++ 'T' :: renderClock clock ++ (offset.map renderOffset).getD []

end Moment

end ProjectTags.Toml
