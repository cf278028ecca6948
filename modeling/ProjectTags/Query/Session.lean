import ProjectTags.Job.Execution
import ProjectTags.Pattern.Highlight
import ProjectTags.Query.Basic
import ProjectTags.Query.ProcessTable
import ProjectTags.Query.ResultLine
import ProjectTags.Text.Lines

/-!
# Query sessions

A session puts queries to databases and remembers which patterns to highlight. A query is put to
one database after the other. If that of the project fails, the query fails; a failing library is
told about and passed over. Programs that were started are in the session's process table until
their results are taken, and `cleanup` ends all that are still there.

Several callers may use a session at once. What they do to it then comes in turns: an execution
starts its program and enters it in one of them, and looks for it and answers in another.
-/

namespace ProjectTags

/-- A database to which a query is put. -/
structure Query.Source where
  target : Target
  /-- The database is that of a library. -/
  library : Bool
  deriving DecidableEq, Repr

/-- A program that was started. -/
structure Session.Running where
  line : CommandLine
  /-- What it leaves with, unless it is ended before. -/
  status : ExitStatus
  deriving DecidableEq, Repr

/-- The queries of one user. -/
structure Session where
  highlights : Pattern.Highlights
  processes : ProcessTable Session.Running

namespace Session

/-- A session without queries. -/
def empty : Session := ⟨.empty, .empty⟩

/-- Enters a program that was started, with the number it has. -/
def launch (session : Session) (running : Running) : Nat × Session :=
  let number := session.processes.unused
  (number, { session with processes := session.processes.register number running })

/-- Takes back the program of a number, unless it was ended before. -/
def collect (session : Session) (number : Nat) : Option Running × Session :=
  let (found, rest) := session.processes.take number
  (found, { session with processes := rest })

/-- Ends all programs that are still running, and says how many there were. -/
def cleanup (session : Session) : Nat × Session :=
  let (ended, rest) := session.processes.drain
  (ended.length, { session with processes := rest })

/-- How many programs are running. -/
def live (session : Session) : Nat :=
  session.processes.size

/-- The lines that a program wrote. -/
def outputLines (output : Bytes) : List Text :=
  (Bytes.lines output).map fun line => Text.dropWhileEnd (· = '\r') (Utf8.decodeLossy line)

/-- What a finished program comes to: its lines, or its errors if its status is no success. Errors
beside a success are told. -/
def report (line : CommandLine) (finished : Finished) : Except Failure (List Text) × List Event :=
  let errors := Text.trim (Utf8.decodeLossy finished.errors)
  if !finished.status.isSuccess then
    (.error (.program line.render
      (if errors.isEmpty then "exited with ".toList ++ finished.status.message else errors)), [])
  else
    (.ok (outputLines finished.output),
      if errors.isEmpty then [] else [.queryWarnings line.render errors])

/-- What an execution has read from its program. -/
structure Reading where
  output : Bytes
  errors : Bytes
  /-- Reading broke off. -/
  fault : Option Fault
  deriving DecidableEq, Repr

/-- What an execution comes to that has waited for a program which left with a status. -/
def Reading.outcome (read : Reading) (line : CommandLine) (status : ExitStatus) :
    Except Failure (List Text) × List Event :=
  match read.fault with
  | some fault => (.error (Executor.notStarted line fault), [])
  | none => report line ⟨read.output, read.errors, status⟩

/-- An execution that has started its program and is going to look for it. -/
structure Execution where
  line : CommandLine
  number : Nat
  read : Reading
  deriving DecidableEq, Repr

/-- Starts a program and enters it. -/
def begin (programs : Programs) (line : CommandLine) (session : Session) (site : Site) :
    Except Failure Execution × Session × Site :=
  match site.call programs line [] with
  | (.error fault, site) => (.error (Executor.notStarted line fault), session, site)
  | (.ok finished, site) =>
      let (number, session) := session.launch ⟨line, finished.status⟩
      (.ok ⟨line, number, ⟨finished.output, finished.errors, none⟩⟩, session, site)

/-- Looks for the program of an execution and answers. An execution that finds none was cancelled
and answers with the lines that it has read. -/
def finish (execution : Execution) (session : Session) (site : Site) :
    Except Failure (List Text) × Session × Site :=
  match session.collect execution.number with
  | (none, session) => (.ok (outputLines execution.read.output), session, site)
  | (some running, session) =>
      let (answer, events) := execution.read.outcome execution.line running.status
      (answer, session, events.foldl Site.tell site)

/-- Runs a program to its end and gives the lines it wrote. -/
def execute (programs : Programs) (line : CommandLine) (session : Session) (site : Site) :
    Except Failure (List Text) × Session × Site :=
  match begin programs line session site with
  | (.error failure, session, site) => (.error failure, session, site)
  | (.ok execution, session, site) => finish execution session site

/-- Puts a query to some databases one after the other. -/
def runAll (programs : Programs) (query : Query) :
    List Query.Source → Session → Site → Except Failure (List ResultLine) × Session × Site
  | [], session, site => (.ok [], session, site)
  | source :: others, session, site =>
      match execute programs (query.commandLine source.target source.library) session site with
      | (.ok lines, session, site) =>
          match runAll programs query others session site with
          | (.ok results, session, site) =>
              (.ok (lines.filterMap ResultLine.parse? ++ results), session, site)
          | (.error failure, session, site) => (.error failure, session, site)
      | (.error failure, session, site) =>
          if source.library then
            runAll programs query others session
              (site.tell (.libraryQueryFailed source.target.database failure))
          else (.error failure, session, site)

/-- Remembers what to highlight for a query. -/
def recordHighlight (session : Session) (query : Query) : Session :=
  match query.mode.pattern? with
  | none => session
  | some pattern =>
      let options : Pattern.HighlightOptions :=
        ⟨query.options.literal, query.options.ignoreCase, query.mode.isTextSearch⟩
      { session with
        highlights :=
          session.highlights.record (Pattern.highlight options pattern) query.options.append }

/-- Puts a query to some databases and gives the matches of all of them. -/
def run (programs : Programs) (query : Query) (sources : List Query.Source) (session : Session)
    (site : Site) : Except Failure (List ResultLine) × Session × Site :=
  runAll programs query sources (session.recordHighlight query) site

/-- What one of several callers does next. -/
inductive Turn where
  | begins (line : CommandLine)
  /-- The execution at a place among those that have not answered. -/
  | finishes (place : Nat)
  | cleans
  deriving DecidableEq, Repr

/-- A session that is used by several callers at once. -/
structure Callers where
  session : Session
  site : Site
  /-- The executions that have not answered, in the order in which they began. -/
  waiting : List Execution
  /-- The executions that could not start their programs. -/
  refused : List Failure
  /-- The other executions that have answered, in the order in which they did. -/
  answers : List (Execution × Except Failure (List Text))
  /-- How many programs were ended by cleanups. -/
  ended : Nat

namespace Callers

/-- A session that nobody uses. -/
def idle (session : Session) (site : Site) : Callers := ⟨session, site, [], [], [], 0⟩

/-- What a turn makes of a session. -/
def take (programs : Programs) (callers : Callers) : Turn → Callers
  | .begins line =>
      match begin programs line callers.session callers.site with
      | (.error failure, session, site) =>
          { callers with session, site, refused := callers.refused ++ [failure] }
      | (.ok execution, session, site) =>
          { callers with session, site, waiting := callers.waiting ++ [execution] }
  | .finishes place =>
      match callers.waiting[place]? with
      | none => callers
      | some execution =>
          let (answer, session, site) := finish execution callers.session callers.site
          { callers with
            session, site
            waiting := callers.waiting.eraseIdx place
            answers := callers.answers ++ [(execution, answer)] }
  | .cleans =>
      let (ended, session) := callers.session.cleanup
      { callers with session, ended := callers.ended + ended }

/-- What some turns make of a session. -/
def takeAll (programs : Programs) (callers : Callers) (turns : List Turn) : Callers :=
  turns.foldl (take programs) callers

end Callers

/-- Executions of some command lines that all begin before a cleanup and answer after it. -/
def cancelAll (programs : Programs) (lines : List CommandLine) (session : Session) (site : Site) :
    Callers :=
  (Callers.idle session site).takeAll programs
    (lines.map .begins ++ .cleans :: lines.map fun _ => .finishes 0)

end Session

end ProjectTags
