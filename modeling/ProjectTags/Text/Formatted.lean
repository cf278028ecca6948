import ProjectTags.Text.Field
import ProjectTags.Text.Mode
import ProjectTags.Text.Integer

/-!
# Texts made by a format

A format is written with its escapes and with its directives in the place of which arguments stand.
It is used again as long as arguments are left. There are two dialects: the plain one, which the
shell has itself, and the extended one, which knows more escapes.
-/

namespace ProjectTags.Text

/-- What a backslash and what follows it come to. -/
inductive Escape where
  /-- Some characters, and what follows them. -/
  | written (text rest : Text)
  /-- Nothing is written from here on. -/
  | stop

/-- The characters that a letter behind a backslash stands for. -/
def escapeLetters : List (Char × Char) :=
  [('n', '\n'), ('t', '\t'), ('r', '\r'), ('a', '\x07'), ('b', '\x08'), ('f', '\x0c'),
    ('v', '\x0b'), ('e', '\x1b'), ('\\', '\\')]

/-- The character of a code of one byte. -/
def byteCharacter (code : Nat) : Char := Char.ofNat (code % 256)

/-- Reads what stands behind a backslash in a format or in an argument. -/
def readEscape (extended inArgument : Bool) (text : Text) : Escape :=
  let octal (text : Text) : Escape :=
    let front := (text.take 3).takeWhile isOctal
    .written [byteCharacter (octalValue front)] (text.drop front.length)
  match text with
  | [] => .written ['\\'] []
  | c :: rest =>
      if c = 'c' && (inArgument || extended) then .stop
      else if c = '0' && inArgument && (rest.head?.map isOctal).getD false then octal rest
      else if isOctal c then octal text
      else
        match escapeLetters.lookup c with
        | some d => .written [d] rest
        | none =>
            let hex := (rest.take 2).takeWhile (isDigitOf 16)
            if extended && c = '"' then .written ['"'] rest
            else if extended && c = 'x' && !hex.isEmpty then
              .written [byteCharacter (valueIn 16 hex)] (rest.drop hex.length)
            else .written ['\\', c] rest

/-- A text with its escapes carried out, and whether all output ends there. -/
def unescapeWithin (extended : Bool) : Nat → Text → Text × Bool
  | 0, _ => ([], false)
  | _ + 1, [] => ([], false)
  | steps + 1, '\\' :: rest =>
      match readEscape extended true rest with
      | .stop => ([], true)
      | .written text rest =>
          let (others, stopped) := unescapeWithin extended steps rest
          (text ++ others, stopped)
  | steps + 1, c :: rest =>
      let (others, stopped) := unescapeWithin extended steps rest
      (c :: others, stopped)

/-- A text with its escapes carried out, and whether all output ends there. -/
def unescape (extended : Bool) (text : Text) : Text × Bool :=
  unescapeWithin extended (text.length + 1) text

/-- How the use of a format ends. -/
inductive FormatEnd where
  | done
  | stopped
  /-- The format is wrong. -/
  | refused (message : Text)
  deriving DecidableEq, Repr

/-- What the use of a format comes to: what is written, the arguments that are left, and what is
wrong with those that were used. -/
structure Formatted where
  written : Text
  left : List Text
  complaints : List Text
  ending : FormatEnd

/-- The same behind some text that is written before, and some complaints. -/
def Formatted.behind (formatted : Formatted) (text : Text) (complaints : List Text) : Formatted :=
  { formatted with
    written := text ++ formatted.written, complaints := complaints ++ formatted.complaints }

/-- What is wrong with an argument of which only the front is a number. -/
def numberComplaint (extended : Bool) (argument : Text) (begins : Bool) : Text :=
  if extended then
    '\'' :: argument ++ "': ".toList ++
      (if begins then "value not completely converted" else "expected a numeric value").toList
  else
    argument ++ ": ".toList ++
      (if begins then "not completely converted" else "expected numeric value").toList

/-- What is wrong with an argument that is too great a number. -/
def rangeComplaint (extended : Bool) (argument : Text) : Text :=
  (if extended then '\'' :: argument ++ ['\''] else argument) ++
    ": Numerical result out of range".toList

/-- The code of a character behind a quote, which stands for a number. -/
def quotedCode? (argument : Text) : Option Nat :=
  match argument with
  | c :: rest => if c = '\'' || c = '"' then some ((rest.head?.map Char.toNat).getD 0) else none
  | [] => none

/-- The whole number that an argument stands for, between two bounds, and what is wrong with it. -/
def wholeArgument (extended : Bool) (least most : Int) (argument : Text) : Int × List Text :=
  match quotedCode? argument with
  | some code => (Int.ofNat code, [])
  | none =>
      match leadingInteger? argument with
      | none => (0, if argument.isEmpty then [] else [numberComplaint extended argument false])
      | some (number, rest) =>
          let clamped := max least (min most number)
          (clamped, if !rest.isEmpty then [numberComplaint extended argument true]
            else if clamped != number then [rangeComplaint extended argument] else [])

/-- The greatest number without a sign of 64 bits. -/
def greatestWord : Int := 18446744073709551615

/-- The signed number of 64 bits that an argument stands for. -/
def signedArgument (extended : Bool) (argument : Text) : Int × List Text :=
  wholeArgument extended (-9223372036854775808) 9223372036854775807 argument

/-- The unsigned number of 64 bits that an argument stands for, a negative one going round. -/
def unsignedArgument (extended : Bool) (argument : Text) : Nat × List Text :=
  let (number, complaints) := wholeArgument extended (-greatestWord) greatestWord argument
  ((Int.emod number wordCount).toNat, complaints)

/-- A directive with its width and precision taken from the arguments where it asks for that. -/
def resolved (extended : Bool) (directive : Directive) (arguments : List Text) :
    Field × List Text × List Text :=
  let (field, arguments, first) :=
    if directive.widthGiven then
      let (width, complaints) := signedArgument extended (arguments.headD [])
      (directive.field.withWidth width, arguments.tail, complaints)
    else (directive.field, arguments, [])
  if directive.precisionGiven then
    let (precision, complaints) := signedArgument extended (arguments.headD [])
    (field.withPrecision precision, arguments.tail, first ++ complaints)
  else (field, arguments, first)

/-- What a directive writes for an argument, what is wrong with that, and whether all output ends
there. There is nothing if the directive is unknown. -/
def writeDirective? (extended : Bool) (field : Field) (kind : Char) (argument : Text) :
    Option (Text × List Text × Bool) :=
  if kind = 's' then some (field.text argument, [], false)
  else if kind = 'c' then some (field.pad [argument.headD '\x00'], [], false)
  else if kind = 'b' then
    let (text, stopped) := unescape extended argument
    some (field.text text, [], stopped)
  else if kind = 'd' || kind = 'i' then
    let (number, complaints) := signedArgument extended argument
    some (field.integer number, complaints, false)
  else if "ouxX".toList.elem kind then
    let (number, complaints) := unsignedArgument extended argument
    some (field.natural kind number, complaints, false)
  else none

/-- Uses a format once, within a number of steps. -/
def formatOnce (extended : Bool) : Nat → Text → List Text → Formatted
  | 0, _, arguments => ⟨[], arguments, [], .done⟩
  | _ + 1, [], arguments => ⟨[], arguments, [], .done⟩
  | steps + 1, '\\' :: rest, arguments =>
      match readEscape extended false rest with
      | .stop => ⟨[], arguments, [], .stopped⟩
      | .written text rest => (formatOnce extended steps rest arguments).behind text []
  | steps + 1, '%' :: '%' :: rest, arguments =>
      (formatOnce extended steps rest arguments).behind ['%'] []
  | steps + 1, '%' :: rest, arguments =>
      let (directive, after) := readDirective rest
      let (field, arguments, before) := resolved extended directive arguments
      match directive.kind with
      | none =>
          ⟨[], arguments, before, .refused (if extended then
            directive.source ++ ": invalid conversion specification".toList
            else "missing format character".toList)⟩
      | some kind =>
          match writeDirective? extended field kind (arguments.headD []) with
          | none =>
              ⟨[], arguments, before, .refused (directive.source ++ (if extended then
                ": invalid conversion specification" else ": invalid directive").toList)⟩
          | some (text, complaints, stopped) =>
              if stopped then ⟨text, arguments.tail, before ++ complaints, .stopped⟩
              else
                (formatOnce extended steps after arguments.tail).behind text (before ++ complaints)
  | steps + 1, c :: rest, arguments =>
      (formatOnce extended steps rest arguments).behind [c] []

/-- Uses a format that takes arguments as long as some are left, up to a number of times. -/
def formatAgain (extended : Bool) (format : Text) : Nat → List Text → Formatted
  | 0, arguments => ⟨[], arguments, [], .done⟩
  | times + 1, arguments =>
      let once := formatOnce extended (format.length + 1) format arguments
      if once.ending = .done && !once.left.isEmpty then
        (formatAgain extended format times once.left).behind once.written once.complaints
      else once

/-- Uses a format for all of some arguments, or once if it takes none. -/
def formatAll (extended : Bool) (format : Text) (arguments : List Text) : Formatted :=
  let once := formatOnce extended (format.length + 1) format arguments
  let times := if once.left.length < arguments.length then arguments.length else 1
  if times = 1 then once else formatAgain extended format times arguments

end ProjectTags.Text
