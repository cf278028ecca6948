import ProjectTags.Shell.Switch

/-!
# Options of scripts

How the shell goes through the options of a script, one at a time.
-/

namespace ProjectTags.Shell

/-- What a place among the options of a script comes to. -/
inductive OptionFound where
  | ended
  /-- A letter that is none of the options. -/
  | unknown (letter : Char)
  | noValue (letter : Char)
  | found (letter : Char) (value : Text)

/-- Reads the next option: what comes of it, the next argument to look at, and the letter at which
to go on in the one before. -/
def nextOption (known : Text) (arguments : List Text) (index : Nat) (place : Option Nat) :
    OptionFound × Nat × Option Nat :=
  let before := (arguments[index - 2]?).getD []
  let current? : Option (Text × Nat) :=
    match place with
    | some offset =>
        if 2 ≤ index && offset < before.length then some (before.drop offset, index) else none
    | none => none
  let current? := match current? with
    | some found => some found
    | none =>
        match arguments[index - 1]? with
        | some ('-' :: c :: letters) => some (c :: letters, index + 1)
        | _ => none
  match current? with
  | none => (.ended, index, none)
  | some (letters, next) =>
      let fresh := next = index + 1
      if fresh && letters = ['-'] then (.ended, next, none)
      else
        match letters with
        | [] => (.ended, index, none)
        | letter :: rest =>
            let word := (arguments[next - 2]?).getD []
            let on := if rest.isEmpty then some word.length else some (word.length - rest.length)
            match known.dropWhile (· != letter), letter with
            | [], _ | _, ':' => (.unknown letter, next, on)
            | _ :: ':' :: _, _ =>
                if !rest.isEmpty then (.found letter rest, next, none)
                else
                  match arguments[next - 1]? with
                  | some value => (.found letter value, next + 1, none)
                  | none => (.noValue letter, next, on)
            | _, _ => (.found letter [], next, on)

/-- Reads the next option of a script, or of some words, into variables. -/
def getopts : Builtin := fun _ _ arguments => do
  match ← operandsOf arguments with
  | known :: name :: words => do
      let process ← getProcess
      let words := if words.isEmpty then process.arguments else words
      let (index, place) := if words.length + 1 < process.optionIndex then (1, none)
        else (process.optionIndex, process.optionPlace)
      let (found, next, on) := nextOption known words index place
      let quiet := known.head? = some ':'
      let told (letter sign : Char) (message : String) : Step Text := do
        if quiet then
          setVariable "OPTARG".toList [letter]
          return [sign]
        else
          complain (message.toList ++ [letter])
          unsetVariable "OPTARG".toList
          return ['?']
      let letter ← match found with
        | .ended => pure ['?']
        | .unknown letter => do
            let shown ← told letter '?' "Illegal option -"
            if !quiet then complain ['\n']
            pure shown
        | .noValue letter => do
            let shown ← told letter ':' "No arg for -"
            if !quiet then complain " option\n".toList
            pure shown
        | .found letter value => do
            setVariable "OPTARG".toList value
            pure [letter]
      setVariable "OPTIND".toList (Text.digits next)
      setVariable name letter
      modifyProcess fun process => { process with optionIndex := next, optionPlace := on }
      return match found with
        | .ended => 1
        | _ => 0
  | _ => mistake "Usage: getopts optstring var [arg...]".toList

end ProjectTags.Shell
