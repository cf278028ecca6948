import ProjectTags.Command.Indexer
import ProjectTags.Log

/-!
# Jobs and their worker

A job changes a database. Jobs are carried out one after the other, each to its end before the next
one begins.

The worker carries out jobs in the order in which they were submitted, one at a time. Whoever
submits jobs sends them to its mailbox; the worker receives one message after the other and
carries out the job in it. However a job ends, even if the work on it breaks off, the worker goes
on with the next message. To stop it, one more message is sent behind the jobs, and nothing is
sent after that; the worker ends when it receives it.

The steps of the worker are separate functions, so that jobs may be submitted between any two of
them; `drain` takes the steps that are left until no message is waiting.
-/

namespace ProjectTags

/-- A change to a database. -/
inductive Job where
  /-- Builds a whole database. -/
  | fullBuild (target : Target) (options : IndexerOptions)
  /-- Brings one file up to date. -/
  | singleUpdate (target : Target) (file : Text) (options : IndexerOptions)
  /-- Records the libraries of a database, then builds the database of each. -/
  | libraryBuild (primary : Text) (libraries : List Target) (options : IndexerOptions)
  /-- Removes a database. -/
  | removal (target : Target)
  deriving DecidableEq, Repr

namespace Job

/-- What kind of job it is. -/
def kind : Job → Text
  | fullBuild _ _ => "full-build".toList
  | singleUpdate _ _ _ => "single-update".toList
  | libraryBuild _ _ _ => "library-build".toList
  | removal _ => "remove".toList

/-- The database that a job is for. -/
def database : Job → Text
  | fullBuild target _ => target.database
  | singleUpdate target _ _ => target.database
  | libraryBuild primary _ _ => primary
  | removal target => target.database

/-- The text by which a job is known in the log. -/
def render (job : Job) : Text :=
  job.kind ++ ' ' :: job.database

end Job

/-- What became of a job that did not fail. -/
inductive Outcome where
  /-- The job was carried out to its end. -/
  | completed
  /-- A program was started and left running. -/
  | launched
  /-- There was nothing to do. -/
  | skipped (reason : Text)
  deriving DecidableEq, Repr

/-- How the work on a job ended. -/
inductive Ending where
  | done (outcome : Outcome)
  | failed (failure : Failure)
  /-- The work broke off with a text that tells why, if it left one. -/
  | broken (text : Option Text)
  deriving DecidableEq, Repr

namespace Ending

/-- What is told about the end of a job. -/
def event (job : Job) : Ending → Event
  | done .completed => .jobFinished job.render "Completed".toList
  | done .launched => .jobFinished job.render "Launched".toList
  | done (.skipped reason) => .jobSkipped job.render reason
  | failed (.declined path) => .removalCancelled path
  | failed failure => .jobFailed job.render failure
  | broken text => .jobBroken job.render (text.getD "unknown panic".toList)

end Ending

/-- What is sent to a worker. -/
inductive Message where
  /-- A job is to be carried out. -/
  | job (job : Job)
  /-- The worker is to end. -/
  | shutdown
  deriving DecidableEq, Repr

/-- The job that a message asks for. -/
def Message.job? : Message → Option Job
  | .job task => some task
  | .shutdown => none

/-- What a worker is doing. -/
inductive Activity where
  /-- It is ready for the next message. -/
  | listening
  | running (job : Job)
  /-- It has ended, and what is still in its mailbox is lost. -/
  | ended
  deriving DecidableEq, Repr

/-- The job that is being carried out. -/
def Activity.job? : Activity → Option Job
  | running job => some job
  | listening | ended => none

/-- A worker with the messages that were sent to it. -/
structure Worker where
  /-- Whether jobs may still be sent. -/
  accepting : Bool
  /-- The messages that were not received yet, in the order in which they were sent. -/
  mailbox : List Message
  activity : Activity
  /-- The jobs that ended, in order. -/
  finished : List (Job × Ending)
  deriving DecidableEq, Repr

namespace Worker

/-- A worker without jobs. -/
def idle : Worker := ⟨true, [], .listening, []⟩

/-- Puts a message behind those that were sent before. One that is sent to a worker that has
ended is lost. -/
def send (worker : Worker) (message : Message) : Option Worker :=
  if worker.activity = .ended then none
  else some { worker with mailbox := worker.mailbox ++ [message] }

/-- Sends a job to the worker, unless it was told to stop. -/
def submit (worker : Worker) (job : Job) : Except Failure Worker :=
  if worker.accepting then
    match worker.send (.job job) with
    | some worker => .ok worker
    | none => .error .stopped
  else .error .stopped

/-- Receives the message that was sent first, if the worker is ready for one. A job in it is
begun. The worker ends at a message that says so, and also when no message is left and no more
can come. -/
def receive? (worker : Worker) : Option Worker :=
  match worker.activity, worker.mailbox with
  | .listening, .job job :: others =>
      some { worker with mailbox := others, activity := .running job }
  | .listening, .shutdown :: _ => some { worker with mailbox := [], activity := .ended }
  | .listening, [] => if worker.accepting then none else some { worker with activity := .ended }
  | _, _ => none

/-- Ends the work on a job. Whatever its ending, the worker is ready for the next message. -/
def finish (worker : Worker) (job : Job) (ending : Ending) : Worker :=
  { worker with activity := .listening, finished := worker.finished ++ [(job, ending)] }

/-- Tells the worker to end after the jobs that were sent so far. Nothing more can be sent. -/
def stop (worker : Worker) : Worker :=
  if worker.accepting then { (worker.send .shutdown).getD worker with accepting := false }
  else worker

/-- The jobs that were sent and are not begun, in order. -/
def waiting (worker : Worker) : List Job :=
  worker.mailbox.filterMap Message.job?

/-- The jobs that were begun, in order. -/
def begun (worker : Worker) : List Job :=
  worker.finished.map (·.1) ++ worker.activity.job?.toList

/-- All jobs that were taken, in order. -/
def accepted (worker : Worker) : List Job :=
  worker.begun ++ worker.waiting

/-- Receives one message after the other, up to a number of them, and carries out the jobs in
them. Carrying out a job changes some state and comes to an ending. -/
def runSteps {State : Type} (carryOut : Job → State → Ending × State) :
    Nat → Worker → State → Worker × State
  | 0, worker, state => (worker, state)
  | steps + 1, worker, state =>
      match worker.receive? with
      | none => (worker, state)
      | some next =>
          match next.activity with
          | .running job =>
              let (ending, after) := carryOut job state
              runSteps carryOut steps (next.finish job ending) after
          | _ => (next, state)

/-- Goes on until no message is waiting. -/
def drain {State : Type} (carryOut : Job → State → Ending × State) (worker : Worker)
    (state : State) : Worker × State :=
  runSteps carryOut (worker.mailbox.length + 1) worker state

/-- What is told about the jobs that ended. -/
def events (worker : Worker) : List Event :=
  worker.finished.map fun entry => entry.2.event entry.1

end Worker

end ProjectTags
