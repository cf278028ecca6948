import ProjectTags.Cli.Switch
import ProjectTags.Pattern.Vim
import ProjectTags.Query.Basic
import ProjectTags.Settings.Basic
import ProjectTags.Store

/-!
# Invocations

What a command line of the program asks for. Some switches may stand before and behind the name of
the command; behind it they count more. Every query says in exactly one way what is looked for.
-/

namespace ProjectTags.Cli

/-- What a query looks for, as the user says it. -/
inductive Aim where
  | definition (pattern : Text)
  | reference (pattern : Text)
  | symbol (pattern : Text)
  | anyText (pattern : Text)
  /-- What stands at a place, given as a line and a file with a colon between them. -/
  | fromHere (place : Text)
  | fileTags (files : List Text)
  deriving DecidableEq, Repr

/-- What an update adds to the settings. -/
structure UpdateAdditions where
  acceptDotfiles : Bool
  skipUnreadable : Bool
  skipSymlink : Option Text
  libraryPaths : List Text
  deriving DecidableEq, Repr

/-- What is done with a store. A file that is missing stands for the current directory. -/
inductive Task where
  | resolve (file : Option Text)
  | update (file : Option Text) (request : UpdateRequest) (additions : UpdateAdditions)
  | remove (file : Option Text) (agreed : Bool)
  | query (aim : Aim) (word : Option Text) (file : Option Text) (options : Query.Options)
      (highlight : Bool)

/-- A command of the program. -/
inductive Command where
  | onStore (task : Task)
  | translate (dialect : Pattern.Dialect) (pattern : Text)

/-- What a command line asks for. -/
structure Invocation where
  /-- Where the settings template is to be written, in the place of a command. -/
  template : Option Text
  /-- The settings file. -/
  settingsFile : Option Text
  override : Settings.Override
  command : Option Command

namespace Invocation

/-- Any path but the empty one. -/
def isPath (path : Text) : Bool := !path.isEmpty

/-- The switches that may stand before and behind the name of a command. -/
def commonSwitches : List Switch :=
  [.path "config" (some 'c'), .value "cache-dir" none, .value "gtagsconf" none,
    .value "gtagslabel" none, .flag "verbose" (some 'v'), .final "help" 'h' .help]

/-- The words before the name of a command. -/
def grammar : Grammar where
  switches := commonSwitches ++ [.path "init" none, .final "version" 'V' .version]
  operands := []
  commands := ["resolve", "update", "remove", "query", "translate", "help"].map String.toList

/-- The words behind the name of a command. -/
def commandGrammar (switches : List Switch) (operands : List (Text → Bool)) : Grammar :=
  ⟨commonSwitches ++ switches, operands, []⟩

/-- Reads all words behind the name of a command. -/
def readAll (grammar : Grammar) (words : List Text) : Except Refusal Reading := do
  return (← grammar.read words .start).1

/-- Reads the words of a resolution. -/
def resolve? (words : List Text) : Except Refusal (Reading × Command) := do
  let reading ← readAll (commandGrammar [] [isPath]) words
  return (reading, .onStore (.resolve reading.operands.head?))

/-- Reads the words of an update. -/
def update? (words : List Text) : Except Refusal (Reading × Command) := do
  let reading ← readAll (commandGrammar
    [.flag "single" none, .flag "auto" none, .flag "accept-dotfiles" none,
      .flag "skip-unreadable" none,
      { Switch.value "skip-symlink" none with arity := .optional [] },
      { Switch.value "gtagslibpath" none with repeats := true }] [isPath]) words
  let request ← match reading.has "single", reading.has "auto" with
    | true, true => throw .misuse
    | true, false => pure .single
    | false, true => pure .automatic
    | false, false => pure .build
  return (reading, .onStore (.update reading.operands.head? request
    ⟨reading.has "accept-dotfiles", reading.has "skip-unreadable", reading.value? "skip-symlink",
      reading.values "gtagslibpath"⟩))

/-- Reads the words of a removal. -/
def remove? (words : List Text) : Except Refusal (Reading × Command) := do
  let reading ← readAll (commandGrammar [.flag "yes" (some 'y')] [isPath]) words
  return (reading, .onStore (.remove reading.operands.head? (reading.has "yes")))

/-- The switches that say what a query looks for. -/
def aimSwitches : List Switch :=
  [.value "definition" (some 'd'), .value "reference" (some 'r'), .value "symbol" (some 's'),
    .value "grep" (some 'g'), .value "from-here" none,
    { Switch.path "file-tags" (some 'f') with arity := .several, repeats := true }]

/-- What a query looks for. -/
def aim? (reading : Reading) : Except Refusal Aim :=
  let aims := [(reading.value? "definition").map Aim.definition,
    (reading.value? "reference").map Aim.reference, (reading.value? "symbol").map Aim.symbol,
    (reading.value? "grep").map Aim.anyText, (reading.value? "from-here").map Aim.fromHere,
    if reading.has "file-tags" then some (Aim.fileTags (reading.values "file-tags")) else none]
  match aims.reduceOption with
  | [aim] => .ok aim
  | _ => .error .misuse

/-- The style of paths of a name. -/
def style? (name : Text) : Option Query.PathStyle :=
  Query.PathStyle.all.find? fun style => style.name = name

/-- Reads the words of a query. -/
def query? (words : List Text) : Except Refusal (Reading × Command) := do
  let reading ← readAll (commandGrammar (aimSwitches ++
    [.value "word" none, .path "context" none, .flag "literal" none,
      .flag "ignore-case" (some 'i'),
      { Switch.value "path-style" none with accepts := fun name => (style? name).isSome },
      .path "scope" (some 'S'), .flag "highlight" none]) []) words
  let aim ← aim? reading
  return (reading, .onStore (.query aim (reading.value? "word") (reading.value? "context")
    ⟨(reading.value? "path-style").bind style?, reading.value? "scope", reading.has "literal",
      reading.has "ignore-case", false⟩ (reading.has "highlight")))

/-- Reads the words of `translate`. -/
def translate? (words : List Text) : Except Refusal (Reading × Command) := do
  let reading ← readAll (commandGrammar [.flag "perl" none, .flag "literal" none]
    [fun _ => true]) words
  match reading.operands, reading.has "perl", reading.has "literal" with
  | [pattern], false, false => return (reading, .translate .regular pattern)
  | [pattern], true, false => return (reading, .translate .extended pattern)
  | [pattern], false, true => return (reading, .translate .literal pattern)
  | _, _, _ => throw .misuse

/-- What is to be said about the use of the program: of all of it, or of one command. -/
def help (words : List Text) : Refusal :=
  match words with
  | [] => .help
  | [name] => if grammar.commands.elem name then .help else .misuse
  | _ => .misuse

/-- Reads the words behind the name of a command. -/
def command? (name : Text) (words : List Text) : Except Refusal (Reading × Command) :=
  match String.ofList name with
  | "resolve" => resolve? words
  | "update" => update? words
  | "remove" => remove? words
  | "query" => query? words
  | "translate" => translate? words
  | _ => .error (help words)

/-- Reads a command line. -/
def read? (words : List Text) : Except Refusal Invocation := do
  let (before, rest) ← grammar.read words .start
  let read ← rest.mapM fun (name, words) => command? name words
  let behind := (read.map (·.1)).getD .start
  let common (name : String) := (behind.value? name).or (before.value? name)
  return ⟨before.value? "init", common "config",
    ⟨common "cache-dir", common "gtagsconf", common "gtagslabel", []⟩, read.map (·.2)⟩

end Invocation

end ProjectTags.Cli
