import ProjectTags.Text.Basic

/-!
# Switches

A command line is a sequence of words. A word that begins with two dashes names a switch, one that
begins with a single dash is made of the letters of switches, and what follows two dashes alone is
never a switch. The other words are the values of the switch before them, as long as it takes more,
and else operands. A value may also be attached to its switch: behind an equals sign, or right
behind a letter.
-/

namespace ProjectTags.Cli

/-- Why a command line is not carried out. -/
inductive Refusal where
  /-- The command line makes no sense. -/
  | misuse
  /-- The command line asks for the version of the program. -/
  | version
  /-- The command line asks how the program is used. -/
  | help
  deriving DecidableEq, Repr

/-- What a switch is followed by. -/
inductive Arity where
  | nothing
  | one
  /-- A value, in the place of which another one stands if it is missing. -/
  | optional (missing : Text)
  /-- At least one value. -/
  | several
  /-- Nothing, because reading ends at the switch. -/
  | final (refusal : Refusal)
  deriving DecidableEq, Repr

namespace Arity

/-- Whether a switch is followed by values. -/
def takesValues : Arity → Bool
  | one | optional _ | several => true
  | nothing | final _ => false

/-- Whether a switch takes one more value behind some. -/
def takesMore : Arity → List Text → Bool
  | several, _ => true
  | one, values | optional _, values => values.isEmpty
  | nothing, _ | final _, _ => false

/-- What some values count as, if there may be so many. -/
def settle : Arity → List Text → Except Refusal (List Text)
  | nothing, _ => .ok []
  | optional missing, [] => .ok [missing]
  | one, [] | several, [] => .error .misuse
  | one, values | optional _, values | several, values => .ok values
  | final refusal, _ => .error refusal

end Arity

/-- A switch of a command. -/
structure Switch where
  /-- The name behind two dashes. -/
  name : Text
  /-- The letter behind one dash. -/
  letter : Option Char
  arity : Arity
  /-- Whether it may be given more than once. -/
  repeats : Bool
  /-- The values it takes. -/
  accepts : Text → Bool

namespace Switch

/-- A switch without values. -/
def flag (name : String) (letter : Option Char) : Switch :=
  ⟨name.toList, letter, .nothing, false, fun _ => true⟩

/-- A switch with one value of any kind. -/
def value (name : String) (letter : Option Char) : Switch :=
  ⟨name.toList, letter, .one, false, fun _ => true⟩

/-- A switch with a path. -/
def path (name : String) (letter : Option Char) : Switch :=
  ⟨name.toList, letter, .one, false, fun path => !path.isEmpty⟩

/-- A switch that ends the reading. -/
def final (name : String) (letter : Char) (refusal : Refusal) : Switch :=
  ⟨name.toList, some letter, .final refusal, false, fun _ => true⟩

end Switch

/-- What may stand in the words of a command. -/
structure Grammar where
  switches : List Switch
  /-- Which operands are accepted, one after the other. -/
  operands : List (Text → Bool)
  /-- The names of commands that words may go on with. -/
  commands : List Text

/-- What was read of the words of a command. -/
structure Reading where
  /-- The switches with their values. -/
  given : List (Text × List Text)
  /-- A switch that takes more values, with those it has. -/
  pending : Option (Switch × List Text)
  operands : List Text
  /-- Whether all words that follow are operands. -/
  operandsOnly : Bool

namespace Reading

/-- Nothing was read. -/
def start : Reading := ⟨[], none, [], false⟩

/-- Whether a switch was given. -/
def has (reading : Reading) (name : String) : Bool :=
  reading.given.any fun entry => entry.1 = name.toList

/-- All values of a switch. -/
def values (reading : Reading) (name : String) : List Text :=
  (reading.given.filter fun entry => entry.1 = name.toList).flatMap (·.2)

/-- The value of a switch. -/
def value? (reading : Reading) (name : String) : Option Text :=
  (reading.values name).head?

/-- Records a switch with its values. -/
def give (reading : Reading) (switch : Switch) (values : List Text) : Except Refusal Reading := do
  let values ← switch.arity.settle values
  if !switch.repeats && reading.given.any (·.1 = switch.name) then throw .misuse
  else if !values.all switch.accepts then throw .misuse
  else return { reading with given := reading.given ++ [(switch.name, values)] }

/-- Records the switch that takes more values with those it has. -/
def settle (reading : Reading) : Except Refusal Reading :=
  match reading.pending with
  | none => .ok reading
  | some (switch, values) => { reading with pending := none }.give switch values

/-- Begins a switch that may have a value attached to it. -/
def begin (reading : Reading) (switch : Switch) (attached : Option Text) :
    Except Refusal Reading := do
  let reading ← reading.settle
  match switch.arity.takesValues, attached with
  | true, some value => reading.give switch [value]
  | true, none => return { reading with pending := some (switch, []) }
  | false, some _ => throw .misuse
  | false, none => reading.give switch []

/-- Reads a word of two dashes, without them. -/
def long (grammar : Grammar) (reading : Reading) (word : Text) : Except Refusal Reading :=
  let (name, attached) :=
    match Text.splitAt? '=' word with
    | some (name, value) => (name, some value)
    | none => (word, none)
  match grammar.switches.find? fun switch => switch.name = name with
  | some switch => reading.begin switch attached
  | none => .error .misuse

/-- Reads a word of one dash, without it. -/
def letters (grammar : Grammar) : Text → Reading → Except Refusal Reading
  | [], reading => .ok reading
  | letter :: rest, reading =>
      match grammar.switches.find? fun switch => switch.letter = some letter with
      | none => .error .misuse
      | some switch =>
          if switch.arity.takesValues then
            match rest with
            | [] => reading.begin switch none
            | '=' :: value => reading.begin switch (some value)
            | value => reading.begin switch (some value)
          else do letters grammar rest (← reading.begin switch none)

/-- Reads an operand. -/
def operand (grammar : Grammar) (reading : Reading) (word : Text) : Except Refusal Reading := do
  let reading ← reading.settle
  match grammar.operands[reading.operands.length]? with
  | some accepts =>
      if accepts word then return { reading with operands := reading.operands ++ [word] }
      else throw .misuse
  | none => throw .misuse

/-- Reads a word that is no switch. -/
def plain (grammar : Grammar) (reading : Reading) (word : Text) : Except Refusal Reading :=
  match reading.pending with
  | none => reading.operand grammar word
  | some (switch, values) =>
      let values := values ++ [word]
      let reading := { reading with pending := some (switch, values) }
      if switch.arity.takesMore values then .ok reading else reading.settle

/-- Reads a word. -/
def word (grammar : Grammar) (reading : Reading) (word : Text) : Except Refusal Reading :=
  if reading.operandsOnly then reading.operand grammar word
  else
    match word with
    | ['-', '-'] => do return { ← reading.settle with operandsOnly := true }
    | '-' :: '-' :: rest => reading.long grammar rest
    | ['-'] => reading.plain grammar word
    | '-' :: rest => letters grammar rest reading
    | _ => reading.plain grammar word

end Reading

namespace Grammar

/-- Reads the words of a command, up to the name of a command they may go on with. -/
def read (grammar : Grammar) :
    List Text → Reading → Except Refusal (Reading × Option (Text × List Text))
  | [], reading => do return (← reading.settle, none)
  | word :: words, reading =>
      if !reading.operandsOnly && reading.pending.isNone && grammar.commands.elem word then
        .ok (reading, some (word, words))
      else do read grammar words (← reading.word grammar word)

end Grammar

end ProjectTags.Cli
