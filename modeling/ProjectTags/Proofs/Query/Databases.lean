import ProjectTags.Proofs.Query.ProcessTable
import ProjectTags.Query.Session

/-!
# Queries to several databases

A query is put to one database after the other. For each of them the search tool either cannot be
started, or it writes something and leaves with a status, and it may change files that the next one
reads. These endings decide what becomes of the query: the first failure of a database that is no
library ends it, and otherwise the matches of all databases that did not fail come out in order.

The session plays no part in this. A process is entered in its table and taken back again with
nothing in between, so each database finds the session as the query left it.
-/

namespace ProjectTags

namespace Query

/-- How the search tool ended for one database: it was not started, or it wrote something and left
with a status. -/
structure Attempt where
  source : Source
  ending : Except Fault Finished

namespace Attempt

def line (query : Query) (attempt : Attempt) : CommandLine :=
  query.commandLine attempt.source.target attempt.source.library

/-- What the search tool complained about: what it wrote to that end, or else its status. -/
def complaint (finished : Finished) : Text :=
  let errors := Text.trim (Utf8.decodeLossy finished.errors)
  if errors.isEmpty then "exited with ".toList ++ finished.status.message else errors

/-- The lines for one database, or the failure. A status other than success is a failure, whatever
was written. -/
def reply (query : Query) (attempt : Attempt) : Except Failure (List Text) :=
  match attempt.ending with
  | .error fault => .error (.program (attempt.line query).render fault.message)
  | .ok finished =>
      if finished.status.isSuccess then .ok (Session.outputLines finished.output)
      else .error (.program (attempt.line query).render (complaint finished))

/-- The failure that ends the query. That of a library does not. -/
def fatal? (query : Query) (attempt : Attempt) : Option Failure :=
  match attempt.reply query with
  | .ok _ => none
  | .error failure => if attempt.source.library then none else some failure

/-- The matches for one database. A line that is no match is left out, and a failure has none. -/
def results (query : Query) (attempt : Attempt) : List ResultLine :=
  match attempt.reply query with
  | .ok lines => lines.filterMap ResultLine.parse?
  | .error _ => []

/-- What is told about errors beside a success. -/
def warnings (query : Query) (attempt : Attempt) : List Event :=
  match attempt.ending with
  | .error _ => []
  | .ok finished =>
      let errors := Text.trim (Utf8.decodeLossy finished.errors)
      if !finished.status.isSuccess || errors.isEmpty then []
      else [.queryWarnings (attempt.line query).render errors]

/-- What is told about one database: errors beside a success, and the failure of a library. -/
def events (query : Query) (attempt : Attempt) : List Event :=
  attempt.warnings query ++
    match attempt.reply query with
    | .ok _ => []
    | .error failure =>
        if attempt.source.library then
          [.libraryQueryFailed attempt.source.target.database failure]
        else []

end Attempt

/-- How the search tool ends for one database, and the machine that it leaves. -/
def attempt (programs : Programs) (query : Query) (source : Source) (machine : Machine) :
    Attempt × Machine :=
  match programs machine (query.commandLine source.target source.library) [] with
  | .error fault => (⟨source, .error fault⟩, machine)
  | .ok (finished, files) => (⟨source, .ok finished⟩, { machine with files := files })

/-- How the search tool ends for some databases, if it is started for each of them on the machine
that it left the time before. -/
def attempts (programs : Programs) (query : Query) : List Source → Machine → List Attempt
  | [], _ => []
  | source :: others, machine =>
      let (first, after) := query.attempt programs source machine
      first :: query.attempts programs others after

/-- The databases to which a query comes: those up to the first failure that ends it. -/
def reached (query : Query) (attempts : List Attempt) : List Attempt :=
  attempts.takeWhile (fun attempt => (attempt.fatal? query).isNone) ++
    (attempts.dropWhile fun attempt => (attempt.fatal? query).isNone).take 1

/-- What comes of a query: the first failure that ends it, or the matches for all databases. -/
def verdict (query : Query) (attempts : List Attempt) : Except Failure (List ResultLine) :=
  match attempts.findSome? (·.fatal? query) with
  | some failure => .error failure
  | none => .ok (attempts.flatMap (·.results query))

section Steps

variable {query : Query} {attempt : Attempt} {others : List Attempt} {failure : Failure}

theorem reached_cons_of_fine (fine : attempt.fatal? query = none) :
    query.reached (attempt :: others) = attempt :: query.reached others := by
  simp [reached, fine]

theorem reached_cons_of_fatal (fatal : attempt.fatal? query = some failure) :
    query.reached (attempt :: others) = [attempt] := by
  simp [reached, fatal]

theorem verdict_cons_of_fine (fine : attempt.fatal? query = none) :
    query.verdict (attempt :: others) =
      (query.verdict others).map (attempt.results query ++ ·) := by
  simp only [verdict, List.findSome?_cons, fine]
  cases others.findSome? (·.fatal? query) <;> simp [Except.map]

theorem verdict_cons_of_fatal (fatal : attempt.fatal? query = some failure) :
    query.verdict (attempt :: others) = .error failure := by
  simp [verdict, fatal]

end Steps

end Query

namespace Site

variable {programs : Programs} {site : Site} {line : CommandLine} {input : Bytes}

theorem call_of_error {fault : Fault} (ran : programs site.machine line input = .error fault) :
    site.call programs line input =
      (.error fault, { site with called := site.called ++ [line] }) := by
  simp only [call, ran]

theorem call_of_ok {finished : Finished} {files : FileTree}
    (ran : programs site.machine line input = .ok (finished, files)) :
    site.call programs line input =
      (.ok finished, { site with called := site.called ++ [line] }.withFiles files) := by
  simp only [call, ran]

end Site

namespace Session

variable {programs : Programs} {query : Query} {source : Query.Source}
  {others : List Query.Source} {attempt : Query.Attempt} {machine : Machine} {session : Session}
  {site : Site}

/-- A process that is entered in the table is taken back from it. -/
theorem collect_launch (session : Session) (running : Running) :
    (session.launch running).2.collect (session.launch running).1 = (some running, session) := by
  simp [launch, collect, ProcessTable.take_register_unused]

theorem foldl_tell (events : List Event) (site : Site) :
    events.foldl Site.tell site = { site with log := site.log ++ events } := by
  induction events generalizing site with
  | nil => simp
  | cons event others ih => simp [ih, Site.tell]

/-- The site after one database was asked and some events were told about it. -/
def siteAfter (query : Query) (attempt : Query.Attempt) (machine : Machine) (events : List Event)
    (site : Site) : Site :=
  { site with
    machine := machine
    called := site.called ++ [attempt.line query]
    log := site.log ++ events }

theorem report_commandLine (query : Query) (source : Query.Source) (finished : Finished) :
    report (query.commandLine source.target source.library) finished =
      (Query.Attempt.reply query ⟨source, .ok finished⟩,
        Query.Attempt.warnings query ⟨source, .ok finished⟩) := by
  unfold report Query.Attempt.reply Query.Attempt.warnings
  cases successful : finished.status.isSuccess with
  | true => simp only [successful, Bool.not_true, Bool.false_eq_true, if_false, if_true,
      Bool.false_or, Query.Attempt.line]
  | false => simp only [successful, Bool.not_false, Bool.false_eq_true, if_false, if_true,
      Bool.true_or, Query.Attempt.complaint, Query.Attempt.line]

theorem begin_of_ok {line : CommandLine} {finished : Finished} {next : Site} (session : Session)
    (called : site.call programs line [] = (.ok finished, next)) :
    begin programs line session site =
      (.ok ⟨line, (session.launch ⟨line, finished.status⟩).1,
          ⟨finished.output, finished.errors, none⟩⟩,
        (session.launch ⟨line, finished.status⟩).2, next) := by
  simp only [begin, called]

theorem begin_of_error {line : CommandLine} {fault : Fault} {next : Site} (session : Session)
    (called : site.call programs line [] = (.error fault, next)) :
    begin programs line session site =
      (.error (Executor.notStarted line fault), session, next) := by
  simp only [begin, called]

/-- An execution that looks for its program at once finds it. -/
theorem execute_of_ok {line : CommandLine} {finished : Finished} {next : Site} (session : Session)
    (called : site.call programs line [] = (.ok finished, next)) :
    execute programs line session site =
      ((report line finished).1, session, (report line finished).2.foldl Site.tell next) := by
  simp only [execute, begin_of_ok session called, finish, collect_launch]
  rfl

theorem execute_of_error {line : CommandLine} {fault : Fault} {next : Site} (session : Session)
    (called : site.call programs line [] = (.error fault, next)) :
    execute programs line session site =
      (.error (Executor.notStarted line fault), session, next) := by
  simp only [execute, begin_of_error session called]

/-- What the search tool did decides what comes of it, and the session stays as it was. -/
theorem execute_commandLine
    (tried : query.attempt programs source site.machine = (attempt, machine)) :
    execute programs (query.commandLine source.target source.library) session site =
      (attempt.reply query, session,
        siteAfter query attempt machine (attempt.warnings query) site) := by
  unfold Query.attempt at tried
  cases ran : programs site.machine (query.commandLine source.target source.library) [] with
  | error fault =>
      simp only [ran, Prod.mk.injEq] at tried
      rcases tried with ⟨rfl, rfl⟩
      simp only [execute_of_error session (Site.call_of_error ran), siteAfter,
        Query.Attempt.reply, Query.Attempt.line, Query.Attempt.warnings, Executor.notStarted,
        List.append_nil]
  | ok answer =>
      rcases answer with ⟨finished, files⟩
      simp only [ran, Prod.mk.injEq] at tried
      rcases tried with ⟨rfl, rfl⟩
      simp only [execute_of_ok session (Site.call_of_ok ran), siteAfter, foldl_tell,
        report_commandLine, Site.withFiles, Query.Attempt.line]

theorem source_of_attempt {now : Machine}
    (tried : query.attempt programs source now = (attempt, machine)) :
    attempt.source = source := by
  unfold Query.attempt at tried
  split at tried <;> cases tried <;> rfl

/-- A failure that ends the query is the answer, and no other database is asked. -/
theorem runAll_of_fatal {failure : Failure}
    (tried : query.attempt programs source site.machine = (attempt, machine))
    (fatal : attempt.fatal? query = some failure) :
    runAll programs query (source :: others) session site =
      (.error failure, session,
        siteAfter query attempt machine (attempt.events query) site) := by
  have own := source_of_attempt tried
  unfold Query.Attempt.fatal? at fatal
  unfold Query.Attempt.events
  rw [runAll, execute_commandLine tried]
  cases replied : attempt.reply query with
  | ok lines => simp [replied] at fatal
  | error reason =>
      cases library : attempt.source.library with
      | true => simp [replied, library] at fatal
      | false =>
          simp only [replied, library, Bool.false_eq_true, if_false, Option.some.injEq] at fatal
          simp [library, ← own, fatal]

/-- Otherwise the matches for a database come in front of those for the others. -/
theorem runAll_of_fine {answer : Except Failure (List ResultLine)} {after : Session × Site}
    (tried : query.attempt programs source site.machine = (attempt, machine))
    (fine : attempt.fatal? query = none)
    (rest : runAll programs query others session
      (siteAfter query attempt machine (attempt.events query) site) = (answer, after)) :
    runAll programs query (source :: others) session site =
      (answer.map (attempt.results query ++ ·), after) := by
  have own := source_of_attempt tried
  unfold Query.Attempt.fatal? at fine
  unfold Query.Attempt.events at rest
  unfold Query.Attempt.results
  rw [runAll, execute_commandLine tried]
  cases replied : attempt.reply query with
  | ok lines =>
      simp only [replied, List.append_nil] at rest
      simp only [rest]
      cases answer <;> rfl
  | error failure =>
      cases library : attempt.source.library with
      | false => simp [replied, library] at fine
      | true =>
          have told : (siteAfter query attempt machine (attempt.warnings query) site).tell
              (.libraryQueryFailed attempt.source.target.database failure) =
                siteAfter query attempt machine (attempt.warnings query ++
                  [.libraryQueryFailed attempt.source.target.database failure]) site := by
            simp [siteAfter, Site.tell]
          simp only [replied, library, if_true] at rest
          simp only [← own, library, if_true, told, rest]
          cases answer <;> rfl

/-- What has come of a query to some databases, by how the search tool ended for each of them. -/
structure Settled (query : Query) (attempts : List Query.Attempt) (session : Session) (site : Site)
    (outcome : Except Failure (List ResultLine) × Session × Site) : Prop where
  verdict : outcome.1 = query.verdict attempts
  /-- The search tool is started for the databases that are reached, in order, and for no other. -/
  called : outcome.2.2.called = site.called ++ (query.reached attempts).map (·.line query)
  log : outcome.2.2.log = site.log ++ (query.reached attempts).flatMap (·.events query)
  session : outcome.2.1 = session

theorem settled_runAll (programs : Programs) (query : Query) (sources : List Query.Source)
    (session : Session) (site : Site) :
    Settled query (query.attempts programs sources site.machine) session site
      (runAll programs query sources session site) := by
  induction sources generalizing site with
  | nil => constructor <;> simp [runAll, Query.attempts, Query.verdict, Query.reached]
  | cons source others ih =>
      rcases tried : query.attempt programs source site.machine with ⟨attempt, machine⟩
      simp only [Query.attempts, tried]
      cases fatal : attempt.fatal? query with
      | some failure =>
          rw [runAll_of_fatal tried fatal]
          constructor <;>
            simp [Query.verdict_cons_of_fatal fatal, Query.reached_cons_of_fatal fatal, siteAfter]
      | none =>
          -- The others are asked on the machine that the first one left, as in `attempts`.
          have settled := ih (siteAfter query attempt machine (attempt.events query) site)
          rcases rest : runAll programs query others session
            (siteAfter query attempt machine (attempt.events query) site) with ⟨answer, after⟩
          rw [rest] at settled
          rw [runAll_of_fine tried fatal rest]
          constructor
          case verdict =>
            rw [Query.verdict_cons_of_fine fatal]
            exact congrArg (Except.map _) settled.verdict
          case called =>
            rw [Query.reached_cons_of_fine fatal]
            simpa [siteAfter] using settled.called
          case log =>
            rw [Query.reached_cons_of_fine fatal]
            simpa [siteAfter] using settled.log
          case session => exact settled.session

end Session

end ProjectTags
