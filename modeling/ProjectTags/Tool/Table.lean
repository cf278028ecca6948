import ProjectTags.Listing
import ProjectTags.Machine.Search
import ProjectTags.Shell.Start
import ProjectTags.Tool.Characters
import ProjectTags.Tool.Columns
import ProjectTags.Tool.Files
import ProjectTags.Tool.Find.Walk
import ProjectTags.Tool.Grep
import ProjectTags.Tool.Launch
import ProjectTags.Tool.Lines
import ProjectTags.Tool.Names
import ProjectTags.Tool.Print
import ProjectTags.Tool.Show

/-!
# The programs of a machine

A machine with the usual directories and tools, and what running a program on it comes to. A program
is a file that may be executed: a tool, or a script that names on its first line the program that
reads it. Programs start each other down to some depth. They work on texts of single bytes.
-/

namespace ProjectTags.Tool

/-- The tools that write texts and decide conditions. -/
def plainTools : List (String × Tool) :=
  [("true", fun call => call.ends 0), ("false", fun call => call.ends 1),
    ("sleep", Launch.sleep), ("echo", Print.echo), ("printf", Print.printf),
    ("test", Print.test false), ("[", Print.test true), ("expr", Calculate.expr),
    ("seq", Calculate.seq), ("basename", Names.basename), ("dirname", Names.dirname),
    ("pwd", Names.pwd)]

/-- The tools that read files and write what they hold. -/
def readers : List (String × Tool) :=
  [("cat", Show.cat), ("head", Show.head), ("tail", Show.tail), ("sort", Lines.sort),
    ("uniq", Lines.uniq), ("wc", Lines.wc), ("cut", Cut.tool), ("tr", Characters.tool),
    ("grep", Grep.tool), ("sed", Edit.sed), ("awk", Record.awk)]

/-- The tools that look at trees of files and change them. -/
def fileTools : List (String × Tool) :=
  [("touch", Files.touch), ("mkdir", Files.mkdir), ("mv", Files.mv), ("ls", Names.ls)]

/-- The tools that start no other programs, by name. -/
def table : List (Text × Tool) :=
  (plainTools ++ readers ++ fileTools).map fun entry => (entry.1.toList, entry.2)

/-- The tools that start other programs, by name. -/
def launchers : List (Text × (Runner → Tool)) :=
  [("sh", Shell.start), ("xargs", Launch.xargs), ("find", Find.tool)].map fun entry =>
    (entry.1.toList, entry.2)

/-- The content of the file of a tool: what machines begin their programs with, and its name. -/
def image (name : Text) : Bytes :=
  Machine.binaryMark ++ Utf8.encode name

/-- The name of the tool that a file holds. -/
def ofImage? (content : Bytes) : Option Text :=
  match content with
  | 0x7F :: 0x45 :: 0x4C :: 0x46 :: name => Utf8.decode? name
  | _ => none

/-- The names of all tools that machines have. -/
def names : List Text :=
  launchers.map (·.1) ++ table.map (·.1)

/-- The directories that machines have. -/
def directories : List Location :=
  [["bin"], ["boot"], ["dev"], ["etc"], ["home"], ["lib"], ["lib64"], ["media"], ["mnt"], ["opt"],
    ["proc"], ["root"], ["run"], ["sbin"], ["srv"], ["sys"], ["tmp"], ["usr"], ["usr", "bin"],
    ["usr", "include"], ["usr", "lib"], ["usr", "local"], ["usr", "local", "bin"],
    ["usr", "sbin"], ["usr", "share"], ["var"], ["var", "tmp"]].map (·.map String.toList)

/-- The device that zeros are read from, of which there are many but not without end. -/
def zeroDevice : Location × Node :=
  (["dev".toList, "zero".toList], .file (List.replicate 131072 0) false)

/-- The files of a machine with the usual directories and tools. -/
def standardTree : FileTree :=
  let binary (directory : Location) : List (Location × Node) :=
    names.map fun name => (directory ++ [name], .file (image name) true)
  let accounts : List Location :=
    ["group", "hostname", "hosts", "passwd"].map fun name => ["etc".toList, name.toList]
  ⟨directories.map (·, Node.directory) ++
    zeroDevice :: (FileTree.nullDevice :: accounts).map (·, .file [] false) ++
    binary ["bin".toList] ++ binary ["usr".toList, "bin".toList]⟩

/-- The listing tools that are on the search path. -/
def listers (machine : Machine) : List Text :=
  Lister.tools.filter machine.offers

/-- What executing a file comes to, with programs that start each other down to a depth. -/
def runnerWithin : Nat → Runner
  | 0 => fun _ _ => .error .notFound
  | depth + 1 => fun path call => do
      let loaded ← call.machine.load SingleByte.ofBytes path call.name call.arguments
      let call := { call with name := loaded.name, arguments := loaded.arguments }
      match ofImage? loaded.image with
      | none => throw .noExecutable
      | some name =>
          match launchers.lookup name, table.lookup name with
          | some tool, _ => return tool (runnerWithin depth) call
          | none, some tool => return tool call
          | none, none => throw .noExecutable

/-- How deep programs start each other. -/
def depth : Nat := 16

/-- What executing a file comes to. -/
def runner : Runner := runnerWithin depth

/-- A tree with all names changed. -/
def renamed (rename : Text → Text) (files : FileTree) : FileTree :=
  ⟨files.entries.map fun entry => (entry.1.map rename, entry.2)⟩

/-- A machine as tools see it, all of whose texts are texts of single bytes. -/
def inBytes (machine : Machine) : Machine :=
  ⟨renamed SingleByte.ofText machine.files, machine.current.map SingleByte.ofText,
    machine.environment.map fun entry =>
      (SingleByte.ofText entry.1, SingleByte.ofText entry.2)⟩

/-- The machine as a command line finds it: in its directory and with its variables. -/
def prepare (machine : Machine) (line : CommandLine) : Except Fault Machine := do
  let prepared := line.environment.foldl (fun machine entry => machine.setVariable entry.1 entry.2)
    machine
  match line.directory with
  | none => return prepared
  | some directory =>
      match ← machine.files.find machine.current directory with
      | (location, .directory) => return { prepared with current := location }
      | _ => throw .notDirectory

/-- Whether a command line holds the character of code zero, which no program can be given. -/
def holdsZero (line : CommandLine) : Bool :=
  (line.program :: line.arguments ++ line.directory.toList ++
    line.environment.flatMap fun entry => [entry.1, entry.2]).any (·.elem '\x00')

/-- Whether a file that is no program is taken for a script of the shell. This is so for programs
that are looked for on a search path that the command line itself sets. -/
def takesScripts (line : CommandLine) : Bool :=
  line.environment.any (·.1 = "PATH".toList) && !line.program.elem '/'

/-- What running a command line comes to. -/
def programs : Programs := fun machine line input => do
  if holdsZero line then throw .zeroInArgument
  let machine := inBytes (← prepare machine line)
  let program := SingleByte.ofText line.program
  let call : Call :=
    ⟨machine, program, line.arguments.map SingleByte.ofText, input, false⟩
  let attempt (path : Text) : Except Fault Result :=
    match runner path call with
    | .error .noExecutable =>
        if takesScripts line then
          runner Shell.shellPath { call with
            name := Shell.shellPath, arguments := path :: call.arguments }
        else .error .noExecutable
    | outcome => outcome
  let result ← machine.trySearch attempt program
  return (⟨result.bytesOn .output, result.bytesOn .errors, result.status⟩,
    renamed SingleByte.toText result.files)

end ProjectTags.Tool
