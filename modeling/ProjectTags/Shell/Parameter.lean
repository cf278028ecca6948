import ProjectTags.Shell.Switch

/-!
# Variables, arguments and options

The commands of the shell that change its variables, its arguments and its options, and that list
them.
-/

namespace ProjectTags.Shell

/-- The options of the shell by name, each with its letter. Two of them have none to be written. -/
def optionNames : List (Text × Char) :=
  [("errexit", 'e'), ("noglob", 'f'), ("ignoreeof", 'I'), ("interactive", 'i'), ("monitor", 'm'),
    ("noexec", 'n'), ("stdin", 's'), ("xtrace", 'x'), ("verbose", 'v'), ("vi", 'V'), ("emacs", 'E'),
    ("noclobber", 'C'), ("allexport", 'a'), ("notify", 'b'), ("nounset", 'u'), ("privileged", 'p'),
    ("nolog", '\x01'), ("debug", '\x02')].map fun entry => (entry.1.toList, entry.2)

/-- Switches an option on or off. -/
def switchOption (on : Bool) (letter : Char) : Step Unit :=
  modifyProcess fun process =>
    let others := process.options.filter (· != letter)
    { process with options := if on then letter :: others else others }

/-- Switches an option that is named by a letter. -/
def switchLetter (on : Bool) (letter : Char) : Step Unit := do
  if (optionNames.filter fun entry => ' ' ≤ entry.2).any (·.2 = letter) then
    switchOption on letter
  else mistake ("Illegal option -".toList ++ [letter])

/-- Switches an option that is named, or lists the options if none is. -/
def switchNamed (on : Bool) : Option Text → Step Unit
  | some name =>
      match optionNames.lookup name with
      | some letter => switchOption on letter
      | none => mistake ("Illegal option -o ".toList ++ name)
  | none => do
      let process ← getProcess
      if on then say "Current option settings\n".toList
      optionNames.forM fun (name, letter) =>
        let isOn := process.has letter
        say (if on then
            name ++ List.replicate (16 - name.length) ' ' ++ (if isOn then "on" else "off").toList ++
              ['\n']
          else "set ".toList ++ (if isOn then "-o " else "+o ").toList ++ name ++ ['\n'])

/-- Switches the options of the letters of one word, of which an `o` stands for a name in the words
behind it. The words that are left come out. -/
def switchWord (on : Bool) : Text → List Text → Step (List Text)
  | [], others => return others
  | 'o' :: letters, others => do
      switchNamed on others.head?
      switchWord on letters others.tail
  | letter :: letters, others => do
      switchLetter on letter
      switchWord on letters others

/-- Gives the shell other arguments. -/
def setArguments (arguments : List Text) : Step Unit :=
  modifyProcess fun process => { process with
    arguments := arguments, optionIndex := 1, optionPlace := none }

/-- The variables that are chosen, in the order of their names, written in such a way that the shell
can read them. -/
def listVariables (front : Text) (chosen : Variable → Bool) : Step Unit := do
  let process ← getProcess
  let shown := (process.assigned.filter fun entry => chosen entry.2).mergeSort fun first second =>
    Utf8.precedes first.1 second.1
  shown.forM fun (name, v) =>
    say (front ++ name ++ (match v.value with
      | some value => '=' :: quotedText value
      | none => []) ++ ['\n'])

/-- Switches options up to the first word that is none, and gives the shell the words behind as
arguments if there are any, or if two hyphens ask for that. -/
def setWords : Nat → List Text → Step Unit
  | _, [] => return
  | _, ['-', '-'] :: words => setArguments words
  | _, ['-'] :: words => do
      switchOption false 'x'
      switchOption false 'v'
      if !words.isEmpty then setArguments words
  | steps + 1, ('-' :: letters) :: words => do setWords steps (← switchWord true letters words)
  | steps + 1, ('+' :: letters) :: words => do setWords steps (← switchWord false letters words)
  | _, words => setArguments words

/-- Switches options and sets the arguments of the shell, or lists its variables. -/
def configure : Builtin := fun _ _ arguments => do
  if arguments.isEmpty then listVariables [] (·.value.isSome)
  else setWords arguments.length arguments
  return 0

/-- Marks a variable as one that programs see, or as one that may only be read. -/
def markVariable (readOnly : Bool) (name : Text) : Step Unit := do
  if !isName name then mistake (name ++ ": bad variable name".toList)
  modifyProcess fun process =>
    let v := (process.find? name).getD ⟨none, false, false⟩
    process.withVariable name (some ⟨v.value, v.exported || !readOnly, v.readOnly || readOnly⟩)

/-- Marks variables, some of which get a value. -/
def markAll (readOnly : Bool) (words : List Text) : Step Unit :=
  words.forM fun word => do
    match Text.splitAt? '=' word with
    | some (name, value) =>
        setVariable name value
        markVariable readOnly name
    | none => markVariable readOnly word

/-- Marks variables, or lists those that are marked. -/
def mark (readOnly : Bool) : Builtin := fun _ _ arguments => do
  let (switches, words) ← readSwitches [('p', false)] arguments
  if switches.isEmpty && !words.isEmpty then markAll readOnly words
  else if readOnly then listVariables "readonly ".toList (·.readOnly)
  else listVariables "export ".toList (·.exported)
  return 0

/-- Makes variables those of the function that runs. -/
def localize : Builtin := fun _ _ arguments => do
  if (← getProcess).locals.isEmpty then mistake "not in a function".toList
  arguments.forM fun word => do
    if word = optionsName then makeLocal word
    else
      let (name, value?) := match Text.splitAt? '=' word with
        | some (name, value) => (name, some value)
        | none => (word, none)
      if !isName name then mistake (name ++ ": bad variable name".toList)
      makeLocal name
      match value? with
      | some value => setVariable name value
      | none => return
  return 0

/-- Takes variables or functions away. -/
def unset : Builtin := fun _ _ arguments => do
  let (switches, names) ← readSwitches [('v', false), ('f', false)] arguments
  let functions := (switches.getLast?.map (·.1)) = some 'f'
  names.forM fun name =>
    if functions then
      modifyProcess fun process => { process with
        functions := process.functions.filter (·.1 != name) }
    else unsetVariable name
  return 0

/-- Leaves out some of the first arguments of the shell. -/
def shift : Builtin := fun _ _ arguments => do
  let count ← match arguments with
    | text :: _ => readNumber text
    | [] => pure 1
  let own := (← getProcess).arguments
  if own.length < count then mistake "can't shift that many".toList
  setArguments (own.drop count)
  return 0

end ProjectTags.Shell
