import ProjectTags.Tool.Basic

/-!
# Switches of tools

The arguments of a tool are switches and operands in any order. A switch is a letter behind a hyphen,
several of which may share one, or a word behind two hyphens that stands for a letter. A switch may
have a value: the rest of its word or the next word. Two hyphens alone end the switches.
-/

namespace ProjectTags.Tool

/-- The switches that a tool knows. -/
structure Known where
  /-- The letters without values. -/
  plain : Text
  /-- The letters with values. -/
  valued : Text
  /-- The words that stand for letters. -/
  words : List (Text × Char)
  /-- Whether the switches end at the first operand. -/
  inFront : Bool

/-- The switches and operands of a call. -/
structure Given where
  switches : List (Char × Text)
  operands : List Text

namespace Given

/-- Whether a switch was given. -/
def has (given : Given) (letter : Char) : Bool := given.switches.any (·.1 = letter)

/-- The value of a switch; that which was given last counts. -/
def value? (given : Given) (letter : Char) : Option Text :=
  given.switches.reverse.lookup letter

/-- The one of some letters that was given last. -/
def last? (given : Given) (letters : Text) : Option Char :=
  (given.switches.reverse.find? fun switch => letters.elem switch.1).map (·.1)

/-- The same with a switch in front. -/
def behind (given : Given) (letter : Char) (value : Text) : Given :=
  { given with switches := (letter, value) :: given.switches }

end Given

/-- What is wrong with a letter that a tool does not know. -/
def unknownLetter (c : Char) : Text :=
  "invalid option -- '".toList ++ [c, '\'']

/-- What is wrong with a letter that has no value but needs one. -/
def missingValue (c : Char) : Text :=
  "option requires an argument -- '".toList ++ [c, '\'']

/-- The letters of one word as switches. What is left is the letter that takes the next word as its
value, if one does. -/
def readLetters (known : Known) : Text → Except Text (List (Char × Text) × Option Char)
  | [] => .ok ([], none)
  | c :: rest =>
      if known.valued.elem c then
        if rest.isEmpty then .ok ([], some c) else .ok ([(c, rest)], none)
      else if known.plain.elem c then do
        let (others, open?) ← readLetters known rest
        return ((c, []) :: others, open?)
      else .error (unknownLetter c)

/-- The letter that a word behind two hyphens stands for, which may be cut short. -/
def letterOf? (known : Known) (word : Text) : Option Char :=
  match known.words.lookup word with
  | some letter => some letter
  | none => (known.words.find? fun entry => word.isPrefixOf entry.1).map (·.2)

/-- Reads the arguments of a tool. -/
def readGiven (known : Known) : List Text → Except Text Given
  | [] => .ok ⟨[], []⟩
  | ['-', '-'] :: operands => .ok ⟨[], operands⟩
  | ('-' :: '-' :: body) :: others =>
      let word := body.takeWhile (· != '=')
      match letterOf? known word, body.drop word.length, others with
      | none, _, _ => .error ("unrecognized option '--".toList ++ body ++ ['\''])
      | some letter, _ :: value, others => do
          return (← readGiven known others).behind letter value
      | some letter, [], value :: rest =>
          if known.valued.elem letter then do
            return (← readGiven known rest).behind letter value
          else do return (← readGiven known (value :: rest)).behind letter []
      | some letter, [], [] =>
          if known.valued.elem letter then
            .error ("option '--".toList ++ word ++ "' requires an argument".toList)
          else .ok ⟨[(letter, [])], []⟩
  | ('-' :: c :: letters) :: others => do
      let (switches, open?) ← readLetters known (c :: letters)
      let given ← match open?, others with
        | none, others => readGiven known others
        | some letter, value :: rest => do
            pure ((← readGiven known rest).behind letter value)
        | some letter, [] => .error (missingValue letter)
      return { given with switches := switches ++ given.switches }
  | operand :: others =>
      if known.inFront then .ok ⟨[], operand :: others⟩
      else do
        let given ← readGiven known others
        return { given with operands := operand :: given.operands }

/-- What a tool says that is called in a wrong way. -/
def Call.misused (call : Call) (status : Nat) (message : Text) : Result :=
  call.fails status (message ++ "\nTry '".toList ++ call.name ++
    " --help' for more information.".toList)

/-- Does a tool's work on what was given by some known switches. -/
def Call.givenAs (call : Call) (failure : Nat) (known : Known) (work : Given → Result) : Result :=
  match readGiven known call.arguments with
  | .ok given => work given
  | .error message => call.misused failure message

/-- Does a tool's work on its switches and operands, which are letters without values, letters with
values and words for them. -/
def Call.given (call : Call) (failure : Nat) (plain valued : String) (words : List (String × Char))
    (work : Given → Result) : Result :=
  call.givenAs failure ⟨plain.toList, valued.toList,
    words.map fun entry => (entry.1.toList, entry.2), false⟩ work

/-- Does the work of a tool whose switches end at the first operand. -/
def Call.leading (call : Call) (failure : Nat) (plain valued : String)
    (words : List (String × Char)) (work : Given → Result) : Result :=
  call.givenAs failure ⟨plain.toList, valued.toList,
    words.map fun entry => (entry.1.toList, entry.2), true⟩ work

end ProjectTags.Tool
