import Mathlib.Tactic.ByContra
import ProjectTags.Job.Worker

/-!
# Runs of the update worker

Any number of clients submit jobs, the worker takes its steps between their calls, and at some
time it is told to stop. A run is any order in which this can happen, with any ending of each job.
This file proves that in every run the jobs are begun in the order in which they were accepted,
one at a time, and that all of them have ended when the call to stop returns.

The proof rests on one balance between what happened and what the worker holds: the accepted jobs
are those that ended, then the one that is being carried out, then those in the mailbox. The
message that ends the worker is always the last one in the mailbox, so no job is lost behind it.
-/

namespace ProjectTags

namespace Worker

/-- What happens in a run. Clients are told apart by numbers. -/
inductive Happening where
  | accepted (client : Nat) (job : Job)
  | rejected (client : Nat) (job : Job) (failure : Failure)
  | started (job : Job)
  | ended (job : Job) (ending : Ending)
  | left
  /-- The worker is told to stop. -/
  | stopCalled
  /-- Whoever told the worker to stop has seen it end. -/
  | stopReturned
  deriving DecidableEq

/-- One step of a worker and what happens in it. -/
inductive Step : Worker → Happening → Worker → Prop where
  | accepted {worker after : Worker} (client : Nat) (job : Job)
      (answer : worker.submit job = .ok after) : Step worker (.accepted client job) after
  | rejected {worker : Worker} {failure : Failure} (client : Nat) (job : Job)
      (answer : worker.submit job = .error failure) :
      Step worker (.rejected client job failure) worker
  | started {worker after : Worker} {job : Job} (received : worker.receive? = some after)
      (running : after.activity = .running job) : Step worker (.started job) after
  | left {worker after : Worker} (received : worker.receive? = some after)
      (ceased : after.activity = .ended) : Step worker .left after
  | ended {worker : Worker} {job : Job} (ending : Ending)
      (running : worker.activity = .running job) :
      Step worker (.ended job ending) (worker.finish job ending)
  | stopCalled (worker : Worker) : Step worker .stopCalled worker.stop
  | stopReturned {worker : Worker} (ceased : worker.activity = .ended) :
      Step worker .stopReturned worker

/-- The steps that a worker took from its beginning, and what it holds after them. -/
inductive Run : List Happening → Worker → Prop where
  | idle : Run [] .idle
  | step {trace : List Happening} {worker after : Worker} {happening : Happening}
      (run : Run trace worker) (step : Step worker happening after) :
      Run (trace ++ [happening]) after

namespace Happening

@[simp]
def accepted? : Happening → Option (Nat × Job)
  | accepted client job => some (client, job)
  | _ => none

@[simp]
def started? : Happening → Option Job
  | started job => some job
  | _ => none

@[simp]
def ended? : Happening → Option (Job × Ending)
  | ended job ending => some (job, ending)
  | _ => none

/-- The job that a client submits, whatever the answer. -/
@[simp]
def calledBy? (client : Nat) : Happening → Option Job
  | accepted caller job | rejected caller job _ => if caller = client then some job else none
  | _ => none

/-- Whether someone outside the worker makes it happen. -/
def isCall : Happening → Bool
  | accepted _ _ | rejected _ _ _ | stopCalled => true
  | started _ | ended _ _ | left | stopReturned => false

end Happening

def acceptedCalls (trace : List Happening) : List (Nat × Job) :=
  trace.filterMap Happening.accepted?

def startedJobs (trace : List Happening) : List Job :=
  trace.filterMap Happening.started?

def endedJobs (trace : List Happening) : List (Job × Ending) :=
  trace.filterMap Happening.ended?

/-- The jobs that a client submitted, in order. -/
def callsBy (client : Nat) (trace : List Happening) : List Job :=
  trace.filterMap (Happening.calledBy? client)

def jobsOf (client : Nat) (calls : List (Nat × Job)) : List Job :=
  (calls.filter (·.1 = client)).map (·.2)

/-- As many of the accepted calls, from the first one on, as jobs were begun. -/
def startedCalls (trace : List Happening) : List (Nat × Job) :=
  (acceptedCalls trace).take (startedJobs trace).length

section Views

variable (trace : List Happening) (happening : Happening)

@[simp]
theorem acceptedCalls_concat :
    acceptedCalls (trace ++ [happening]) = acceptedCalls trace ++ happening.accepted?.toList := by
  cases happening <;> simp [acceptedCalls]

@[simp]
theorem startedJobs_concat :
    startedJobs (trace ++ [happening]) = startedJobs trace ++ happening.started?.toList := by
  cases happening <;> simp [startedJobs]

@[simp]
theorem endedJobs_concat :
    endedJobs (trace ++ [happening]) = endedJobs trace ++ happening.ended?.toList := by
  cases happening <;> simp [endedJobs]

@[simp]
theorem callsBy_concat (client : Nat) :
    callsBy client (trace ++ [happening]) =
      callsBy client trace ++ (happening.calledBy? client).toList := by
  simp only [callsBy, List.filterMap_append, List.filterMap_cons, List.filterMap_nil]
  cases happening.calledBy? client <;> rfl

end Views

variable {trace : List Happening} {worker after : Worker} {happening : Happening} {client : Nat}
  {job : Job} {ending : Ending} {failure : Failure} {State : Type}

/-! ## What a step does -/

/-- A job is accepted as long as the worker has neither been told to stop nor ended. -/
theorem submit_eq_ok_iff :
    worker.submit job = .ok after ↔
      worker.accepting = true ∧ worker.activity ≠ .ended ∧
        after = { worker with mailbox := worker.mailbox ++ [.job job] } := by
  unfold submit send
  by_cases accepting : worker.accepting = true
  · by_cases ceased : worker.activity = .ended
    · simp [accepting, ceased]
    · simp [accepting, ceased, eq_comm]
  · simp [accepting]

theorem stopped_of_submit_eq_error (answer : worker.submit job = .error failure) :
    failure = .stopped ∧ (worker.accepting = false ∨ worker.activity = .ended) := by
  unfold submit send at answer
  by_cases accepting : worker.accepting = true
  · by_cases ceased : worker.activity = .ended
    · simp only [accepting, ceased, if_true, Except.error.injEq] at answer
      exact ⟨answer.symm, Or.inr ceased⟩
    · simp [accepting, ceased] at answer
  · simp only [accepting, Bool.false_eq_true, if_false, Except.error.injEq] at answer
    exact ⟨answer.symm, Or.inl (by simpa using accepting)⟩

/-- A worker that is ready receives the job that was sent first, or the message that ends it, or
finds out that nothing more can come. -/
theorem receive?_cases (received : worker.receive? = some after) :
    worker.activity = .listening ∧
      ((∃ job others, worker.mailbox = .job job :: others ∧
          after = { worker with mailbox := others, activity := .running job }) ∨
        (∃ others, worker.mailbox = .shutdown :: others ∧
          after = { worker with mailbox := [], activity := .ended }) ∨
        (worker.mailbox = [] ∧ worker.accepting = false ∧
          after = { worker with activity := .ended })) := by
  unfold receive? at received
  split at received
  · next job others listening mailbox =>
      exact ⟨listening, Or.inl ⟨job, others, mailbox, by simpa using received.symm⟩⟩
  · next others listening mailbox =>
      exact ⟨listening, Or.inr (Or.inl ⟨others, mailbox, by simpa using received.symm⟩)⟩
  · next listening mailbox =>
      by_cases accepting : worker.accepting = true
      · simp [accepting] at received
      · refine ⟨listening, Or.inr (Or.inr ⟨mailbox, by simpa using accepting, ?_⟩)⟩
        simpa [accepting] using received.symm
  · simp at received

/-! ## What a run keeps -/

/-- Up to every happening of a run there is a run that goes as far as that, and the happening is
a step from there. -/
theorem Run.at_happening {before after : List Happening}
    (run : Run (before ++ happening :: after) worker) :
    ∃ earlier later, Run before earlier ∧ Step earlier happening later := by
  generalize whole : before ++ happening :: after = trace at run
  -- A run grows at its end: what happened there is the last step or lies within the run before it.
  induction run generalizing after with
  | idle => simp at whole
  | @step trace worker next last run step ih =>
      rcases List.eq_nil_or_concat after with rfl | ⟨rest, final, rfl⟩
      · rcases List.append_inj' whole rfl with ⟨rfl, lastEq⟩
        simp only [List.cons.injEq, and_true] at lastEq
        subst lastEq
        exact ⟨worker, next, run, step⟩
      · have split : (before ++ happening :: rest) ++ [final] = trace ++ [last] := by
          simpa using whole
        exact ih (List.append_inj' split rfl).1

/-- What happened and what the worker holds, side by side. -/
structure Balanced (trace : List Happening) (worker : Worker) : Prop where
  started : startedJobs trace = worker.begun
  ended : endedJobs trace = worker.finished
  accepted : (acceptedCalls trace).map (·.2) = worker.accepted
  accepting : worker.accepting = true ↔ .stopCalled ∉ trace
  /-- The message that ends the worker, if it was sent, is behind all jobs. -/
  mailbox : worker.activity ≠ .ended →
    worker.mailbox = worker.waiting.map .job ++ if worker.accepting then [] else [.shutdown]
  /-- A worker ends only when it was told to, and with an empty mailbox. -/
  ceased : worker.activity = .ended → worker.accepting = false ∧ worker.mailbox = []

theorem balanced_idle : Balanced [] idle := by
  constructor <;> simp [startedJobs, endedJobs, acceptedCalls, idle, begun, accepted, waiting,
    Activity.job?]

theorem Balanced.going (balanced : Balanced trace worker) (accepting : worker.accepting = true) :
    worker.activity ≠ .ended := by
  intro ceased
  simp [(balanced.ceased ceased).1] at accepting

theorem Balanced.closed (balanced : Balanced trace worker) (told : .stopCalled ∈ trace) :
    worker.accepting = false := by
  by_contra accepting
  exact balanced.accepting.mp (by simpa using accepting) told

/-- An accepted job is put behind those that wait. -/
theorem Balanced.submit
    (balanced : Balanced trace worker) (answer : worker.submit job = .ok after) :
    Balanced (trace ++ [.accepted client job]) after := by
  rcases submit_eq_ok_iff.mp answer with ⟨accepting, going, rfl⟩
  have mailbox := balanced.mailbox going
  constructor
  · simpa [begun] using balanced.started
  · simpa using balanced.ended
  · simp [balanced.accepted, Worker.accepted, begun, waiting, Message.job?]
  · simpa using balanced.accepting
  · intro _
    simpa [waiting, accepting, Message.job?] using mailbox
  · intro ceased
    exact absurd ceased going

/-- The job that a worker begins is the one that has waited longest. -/
theorem Balanced.start {others : List Message} (balanced : Balanced trace worker)
    (listening : worker.activity = .listening) (first : worker.mailbox = .job job :: others) :
    Balanced (trace ++ [.started job])
      { worker with mailbox := others, activity := .running job } := by
  have mailbox := balanced.mailbox (by simp [listening])
  constructor
  · simp [balanced.started, begun, listening, Activity.job?]
  · simpa using balanced.ended
  · simp [balanced.accepted, Worker.accepted, begun, waiting, listening, first, Activity.job?,
      Message.job?]
  · simpa using balanced.accepting
  · intro _
    simpa [waiting, first, Message.job?] using mailbox
  · simp

theorem Balanced.leave (balanced : Balanced trace worker) (listening : worker.activity = .listening)
    (told : worker.accepting = false) (noneWaits : worker.waiting = []) :
    Balanced (trace ++ [.left]) { worker with mailbox := [], activity := .ended } := by
  have accepted := balanced.accepted
  rw [Worker.accepted, noneWaits] at accepted
  constructor
  · simpa [begun, listening, Activity.job?] using balanced.started
  · simpa using balanced.ended
  · simpa [Worker.accepted, begun, waiting, listening, Activity.job?] using accepted
  · simpa using balanced.accepting
  · simp
  · simp [told]

theorem Balanced.finish
    (balanced : Balanced trace worker) (running : worker.activity = .running job) :
    Balanced (trace ++ [.ended job ending]) (worker.finish job ending) := by
  have mailbox := balanced.mailbox (by simp [running])
  constructor
  · simp [balanced.started, Worker.finish, begun, running, Activity.job?]
  · simp [balanced.ended, Worker.finish]
  · simp [balanced.accepted, Worker.accepted, Worker.finish, begun, waiting, running, Activity.job?]
  · simpa [Worker.finish] using balanced.accepting
  · intro _
    exact mailbox
  · simp [Worker.finish]

/-- Stopping puts one message behind the jobs; stopping again changes nothing. -/
theorem Balanced.stop
    (balanced : Balanced trace worker) : Balanced (trace ++ [.stopCalled]) worker.stop := by
  by_cases accepting : worker.accepting = true
  · have going := balanced.going accepting
    have mailbox := balanced.mailbox going
    have stopped : worker.stop =
        { worker with mailbox := worker.mailbox ++ [.shutdown], accepting := false } := by
      simp [Worker.stop, send, accepting, going]
    rw [stopped]
    constructor
    · simpa [begun] using balanced.started
    · simpa using balanced.ended
    · simpa [Worker.accepted, begun, waiting, List.filterMap_cons, Message.job?] using
        balanced.accepted
    · simp
    · intro _
      simpa [waiting, accepting, List.filterMap_cons, Message.job?] using mailbox
    · intro ceased
      exact absurd ceased going
  · have same : worker.stop = worker := by simp [Worker.stop, accepting]
    rw [same]
    constructor
    · simpa using balanced.started
    · simpa using balanced.ended
    · simpa using balanced.accepted
    · simpa using accepting
    · exact balanced.mailbox
    · exact balanced.ceased

/-- A happening that concerns no job that was accepted leaves the balance as it is. -/
theorem Balanced.pass (balanced : Balanced trace worker) (notAccepted : happening.accepted? = none)
    (notStarted : happening.started? = none) (notEnded : happening.ended? = none)
    (noStop : happening ≠ .stopCalled) : Balanced (trace ++ [happening]) worker where
  started := by
    rw [startedJobs_concat, notStarted]
    simpa using balanced.started
  ended := by
    rw [endedJobs_concat, notEnded]
    simpa using balanced.ended
  accepted := by
    rw [acceptedCalls_concat, notAccepted]
    simpa using balanced.accepted
  accepting := by simpa [noStop.symm] using balanced.accepting
  mailbox := balanced.mailbox
  ceased := balanced.ceased

/-- The message that ends the worker is received only when no job waits. -/
theorem Balanced.last_message {others : List Message}
    (balanced : Balanced trace worker) (listening : worker.activity = .listening)
    (first : worker.mailbox = .shutdown :: others) :
    worker.accepting = false ∧ worker.waiting = [] := by
  have mailbox := balanced.mailbox (by simp [listening])
  rw [first] at mailbox
  cases jobs : worker.waiting with
  | nil =>
      refine ⟨?_, rfl⟩
      cases accepting : worker.accepting with
      | false => rfl
      | true => simp [jobs, accepting] at mailbox
  | cons job later => simp [jobs] at mailbox

theorem Balanced.step (balanced : Balanced trace worker) (step : Step worker happening after) :
    Balanced (trace ++ [happening]) after := by
  cases step with
  | accepted client job answer => exact balanced.submit answer
  | rejected client job answer => exact balanced.pass rfl rfl rfl (by simp)
  | started received running =>
      rcases receive?_cases received with
        ⟨listening, ⟨job, others, first, rfl⟩ | ⟨others, first, rfl⟩ | ⟨empty, told, rfl⟩⟩
      · simp only [Activity.running.injEq] at running
        subst running
        exact balanced.start listening first
      · simp at running
      · simp at running
  | left received ceased =>
      rcases receive?_cases received with
        ⟨listening, ⟨job, others, first, rfl⟩ | ⟨others, first, rfl⟩ | ⟨empty, told, rfl⟩⟩
      · simp at ceased
      · rcases balanced.last_message listening first with ⟨told, noneWaits⟩
        exact balanced.leave listening told noneWaits
      · have noneWaits : worker.waiting = [] := by simp [waiting, empty]
        have left := balanced.leave listening told noneWaits
        rwa [← empty] at left
  | ended ending running => exact balanced.finish running
  | stopCalled => exact balanced.stop
  | stopReturned ceased => exact balanced.pass rfl rfl rfl (by simp)

theorem Run.balanced (run : Run trace worker) : Balanced trace worker := by
  induction run with
  | idle => exact balanced_idle
  | step _ step ih => exact ih.step step

/-! ## Answers to calls -/

/-- Jobs are accepted exactly until the worker is told to stop. -/
theorem Balanced.submit_isOk_iff (balanced : Balanced trace worker) (job : Job) :
    (∃ after, worker.submit job = .ok after) ↔ .stopCalled ∉ trace := by
  rw [← balanced.accepting]
  constructor
  · rintro ⟨after, answer⟩
    exact (submit_eq_ok_iff.mp answer).1
  · intro accepting
    exact ⟨_, submit_eq_ok_iff.mpr ⟨accepting, balanced.going accepting, rfl⟩⟩

theorem Balanced.submit_eq_stopped
    (balanced : Balanced trace worker) (told : .stopCalled ∈ trace) (job : Job) :
    worker.submit job = .error .stopped := by
  cases answer : worker.submit job with
  | ok after => exact absurd told ((balanced.submit_isOk_iff job).mp ⟨after, answer⟩)
  | error failure => rw [(stopped_of_submit_eq_error answer).1]

theorem Balanced.told_of_rejected (balanced : Balanced trace worker)
    (answer : worker.submit job = .error failure) : failure = .stopped ∧ .stopCalled ∈ trace := by
  refine ⟨(stopped_of_submit_eq_error answer).1, ?_⟩
  by_contra untold
  rcases (balanced.submit_isOk_iff job).mpr untold with ⟨after, accepted⟩
  simp [accepted] at answer

theorem Run.acceptedCalls_append {before after : List Happening}
    (run : Run (before ++ after) worker) (told : .stopCalled ∈ before) :
    acceptedCalls (before ++ after) = acceptedCalls before := by
  have noneAfter : acceptedCalls after = [] := by
    apply List.filterMap_eq_nil_iff.mpr
    intro happening happened
    cases happening with
    | accepted client job =>
        rcases List.append_of_mem happened with ⟨first, rest, rfl⟩
        rw [← List.append_assoc] at run
        rcases run.at_happening with ⟨earlier, later, earlierRun, step⟩
        cases step with
        | accepted _ _ answer =>
            have untold := (earlierRun.balanced.submit_isOk_iff job).mp ⟨later, answer⟩
            exact absurd (List.mem_append_left first told) untold
    | _ => rfl
  unfold acceptedCalls at noneAfter ⊢
  rw [List.filterMap_append, noneAfter, List.append_nil]

/-- The accepted calls of a client come first among its calls, and until the worker is told to
stop they are all of them. -/
theorem Run.prefix_callsBy (run : Run trace worker) (client : Nat) :
    jobsOf client (acceptedCalls trace) <+: callsBy client trace ∧
      (.stopCalled ∉ trace → jobsOf client (acceptedCalls trace) = callsBy client trace) := by
  induction run with
  | idle => simp [jobsOf, acceptedCalls, callsBy]
  | @step trace worker after happening run step ih =>
      rcases ih with ⟨first, all⟩
      cases step with
      | accepted caller job answer =>
          have untold := (run.balanced.submit_isOk_iff job).mp ⟨after, answer⟩
          have same : jobsOf client (acceptedCalls (trace ++ [.accepted caller job])) =
              callsBy client (trace ++ [.accepted caller job]) := by
            rw [callsBy_concat, ← all untold]
            by_cases own : caller = client <;> simp [jobsOf, own]
          exact ⟨same ▸ List.prefix_rfl, fun _ => same⟩
      | rejected caller job answer =>
          have told := (run.balanced.told_of_rejected answer).2
          refine ⟨?_, fun untold => absurd (List.mem_append_left _ told) untold⟩
          rw [callsBy_concat]
          simpa using first.trans (List.prefix_append _ _)
      | stopCalled => exact ⟨by simpa using first, by simp⟩
      | started _ _ => exact ⟨by simpa using first, by simpa using all⟩
      | left _ _ => exact ⟨by simpa using first, by simpa using all⟩
      | ended _ _ => exact ⟨by simpa using first, by simpa using all⟩
      | stopReturned _ => exact ⟨by simpa using first, by simpa using all⟩

/-! ## Draining -/

/-- To drain a worker is to take steps of its own. -/
theorem Run.runSteps
    (run : Run trace worker) (carryOut : Job → State → Ending × State) (steps : Nat)
    (state : State) :
    ∃ more, Run (trace ++ more) (worker.runSteps carryOut steps state).1 ∧
      ∀ happening ∈ more, happening.isCall = false := by
  induction steps generalizing trace worker state with
  | zero => exact ⟨[], by simpa [Worker.runSteps] using run, by simp⟩
  | succ steps ih =>
      simp only [Worker.runSteps]
      split
      · exact ⟨[], by simpa using run, by simp⟩
      · next after received =>
          split
          · next job running =>
              have started := run.step (.started received running)
              have ended := started.step (.ended (carryOut job state).1 running)
              rcases ih ended (carryOut job state).2 with ⟨more, rest, own⟩
              refine ⟨[.started job, .ended job (carryOut job state).1] ++ more, ?_, ?_⟩
              · simpa using rest
              · simpa [Happening.isCall] using own
          · next notRunning =>
              have ceased : after.activity = .ended := by
                rcases receive?_cases received with
                  ⟨_, ⟨job, others, _, rfl⟩ | ⟨_, _, rfl⟩ | ⟨_, _, rfl⟩⟩
                · exact absurd rfl (notRunning job)
                · rfl
                · rfl
              exact ⟨[.left], run.step (.left received ceased), by simp [Happening.isCall]⟩

/-- A worker with some jobs in its mailbox and behind them the message that ends it has ended
after as many steps and one more. -/
theorem runSteps_ceased (carryOut : Job → State → Ending × State) {jobs : List Job}
    {steps : Nat} (state : State) (listening : worker.activity = .listening)
    (mailbox : worker.mailbox = jobs.map .job ++ [.shutdown]) (enough : jobs.length < steps) :
    (worker.runSteps carryOut steps state).1.activity = .ended := by
  induction jobs generalizing worker steps state with
  | nil =>
      cases steps with
      | zero => simp at enough
      | succ fewer => simp [runSteps, receive?, listening, mailbox]
  | cons job others ih =>
      cases steps with
      | zero => simp at enough
      | succ fewer =>
          simp only [List.length_cons, Nat.add_lt_add_iff_right] at enough
          simp only [runSteps, receive?, listening, mailbox, List.map_cons, List.cons_append]
          exact ih _ rfl rfl enough

/-- Draining ends a worker that was told to stop, unless a job is being carried out. -/
theorem Balanced.drain_ceased (balanced : Balanced trace worker) (told : .stopCalled ∈ trace)
    (free : worker.activity.job? = none) (carryOut : Job → State → Ending × State)
    (state : State) : (worker.drain carryOut state).1.activity = .ended := by
  cases activity : worker.activity with
  | running job => simp [activity, Activity.job?] at free
  | listening =>
      have mailbox := balanced.mailbox (by simp [activity])
      rw [balanced.closed told] at mailbox
      apply runSteps_ceased carryOut state activity mailbox
      have length := congrArg List.length mailbox
      simp at length
      omega
  | ended => simp [drain, runSteps, receive?, activity]

/-! ## The law of every run -/

theorem Step.ceased (step : Step worker happening after) (ceased : worker.activity = .ended) :
    after.activity = .ended := by
  cases step with
  | accepted client job answer => exact absurd ceased (submit_eq_ok_iff.mp answer).2.1
  | rejected client job answer => exact ceased
  | started received running =>
      have listening := (receive?_cases received).1
      simp [listening] at ceased
  | left received ceased => exact ceased
  | ended ending running => simp [running] at ceased
  | stopCalled =>
      by_cases accepting : worker.accepting = true <;> simp [stop, send, accepting, ceased]
  | stopReturned ceased => exact ceased

theorem Run.ceased (run : Run trace worker)
    (returned : .stopReturned ∈ trace) : worker.activity = .ended := by
  induction run with
  | idle => simp at returned
  | step run step ih =>
      rcases List.mem_append.mp returned with earlier | now
      · exact step.ceased (ih earlier)
      · rw [List.mem_singleton] at now
        subst now
        cases step with
        | stopReturned ceased => exact ceased

/-- What holds at every moment of a run. -/
structure Serves (trace : List Happening) (worker : Worker) : Prop where
  /-- Jobs are begun in the order in which they were accepted. -/
  started_prefix : startedJobs trace <+: (acceptedCalls trace).map (·.2)
  /-- The jobs that were begun have ended, except perhaps the last one. -/
  one_at_a_time : (endedJobs trace).map (·.1) <+: startedJobs trace ∧
    (startedJobs trace).length ≤ (endedJobs trace).length + 1
  /-- The jobs of one client that were begun are the first ones that it submitted. -/
  client_order : (startedCalls trace).map (·.2) = startedJobs trace ∧
    ∀ client, jobsOf client (startedCalls trace) <+: callsBy client trace
  /-- A job would be accepted now exactly if the worker was not told to stop. -/
  accepts_iff : ∀ job, (∃ after, worker.submit job = .ok after) ↔ .stopCalled ∉ trace
  rejects : .stopCalled ∈ trace → ∀ job, worker.submit job = .error .stopped
  /-- When the call to stop has returned, the accepted jobs have been carried out, each once. -/
  all_ended : .stopReturned ∈ trace →
    startedJobs trace = (acceptedCalls trace).map (·.2) ∧
      (endedJobs trace).map (·.1) = (acceptedCalls trace).map (·.2)
  /-- Only jobs that were accepted before a rejected one are ever begun. -/
  rejected_lost : ∀ before client job failure after,
    trace = before ++ .rejected client job failure :: after →
      failure = .stopped ∧ startedJobs trace <+: (acceptedCalls before).map (·.2)
  stop_again : .stopCalled ∈ trace → worker.stop = worker
  /-- The call to stop can always come to its return by steps of the worker alone. -/
  stop_returns : .stopCalled ∈ trace →
    ∃ more after, Run (trace ++ more) after ∧ .stopReturned ∈ more ∧
      ∀ happening ∈ more, happening.isCall = false

theorem Balanced.started_prefix (balanced : Balanced trace worker) :
    startedJobs trace <+: (acceptedCalls trace).map (·.2) := by
  rw [balanced.started, balanced.accepted]
  exact List.prefix_append _ _

theorem Balanced.one_at_a_time (balanced : Balanced trace worker) :
    (endedJobs trace).map (·.1) <+: startedJobs trace ∧
      (startedJobs trace).length ≤ (endedJobs trace).length + 1 := by
  rw [balanced.started, balanced.ended]
  refine ⟨List.prefix_append _ _, ?_⟩
  cases activity : worker.activity <;> simp [begun, activity, Activity.job?]

theorem Balanced.map_startedCalls
    (balanced : Balanced trace worker) : (startedCalls trace).map (·.2) = startedJobs trace := by
  rw [startedCalls, List.map_take]
  exact (List.prefix_iff_eq_take.mp balanced.started_prefix).symm

theorem prefix_jobsOf_startedCalls (client : Nat) (trace : List Happening) :
    jobsOf client (startedCalls trace) <+: jobsOf client (acceptedCalls trace) :=
  ((List.take_prefix _ _).filter _).map _

theorem Balanced.all_ended (balanced : Balanced trace worker) (ceased : worker.activity = .ended) :
    startedJobs trace = (acceptedCalls trace).map (·.2) ∧
      (endedJobs trace).map (·.1) = (acceptedCalls trace).map (·.2) := by
  rw [balanced.started, balanced.ended, balanced.accepted]
  simp [Worker.accepted, begun, waiting, ceased, (balanced.ceased ceased).2, Activity.job?]

theorem Run.rejected_lost {before after : List Happening}
    (run : Run (before ++ .rejected client job failure :: after) worker) :
    failure = .stopped ∧
      startedJobs (before ++ .rejected client job failure :: after) <+:
        (acceptedCalls before).map (·.2) := by
  rcases run.at_happening with ⟨earlier, later, earlierRun, step⟩
  cases step with
  | rejected _ _ answer =>
      rcases earlierRun.balanced.told_of_rejected answer with ⟨stopped, told⟩
      refine ⟨stopped, ?_⟩
      rw [← run.acceptedCalls_append told]
      exact run.balanced.started_prefix

/-- When no job is being carried out, a worker that was told to stop ends after it was drained. -/
theorem Run.stop_returns_of_free (run : Run trace worker) (told : .stopCalled ∈ trace)
    (free : worker.activity.job? = none) :
    ∃ more after, Run (trace ++ more) after ∧ .stopReturned ∈ more ∧
      ∀ happening ∈ more, happening.isCall = false := by
  let carryOut : Job → Unit → Ending × Unit := fun _ state => (.done .completed, state)
  rcases run.runSteps carryOut (worker.mailbox.length + 1) () with ⟨more, drained, own⟩
  have ceased := run.balanced.drain_ceased told free carryOut ()
  have returned := drained.step (.stopReturned ceased)
  rw [List.append_assoc] at returned
  refine ⟨_, _, returned, by simp, ?_⟩
  intro happening member
  rcases List.mem_append.mp member with inMore | last
  · exact own happening inMore
  · rw [List.mem_singleton.mp last]
    rfl

/-- A job that is being carried out can end, and then the worker is free to end too. -/
theorem Run.stop_returns (run : Run trace worker) (told : .stopCalled ∈ trace) :
    ∃ more after, Run (trace ++ more) after ∧ .stopReturned ∈ more ∧
      ∀ happening ∈ more, happening.isCall = false := by
  cases activity : worker.activity with
  | running job =>
      have ended := run.step (.ended (.done .completed) activity)
      rcases ended.stop_returns_of_free (List.mem_append_left _ told) rfl with
        ⟨more, after, rest, returned, own⟩
      refine ⟨.ended job (.done .completed) :: more, after, by simpa using rest,
        List.mem_cons_of_mem _ returned, ?_⟩
      simpa [Happening.isCall] using own
  | listening => exact run.stop_returns_of_free told (by rw [activity]; rfl)
  | ended => exact run.stop_returns_of_free told (by rw [activity]; rfl)

/-- In every run of a worker, whatever the order of calls and steps and the endings of jobs, the
worker serves its clients in order and loses no job. -/
theorem Run.serves_in_order (run : Run trace worker) :
    Serves trace worker where
  started_prefix := run.balanced.started_prefix
  one_at_a_time := run.balanced.one_at_a_time
  client_order := ⟨run.balanced.map_startedCalls, fun client =>
    (prefix_jobsOf_startedCalls client trace).trans (run.prefix_callsBy client).1⟩
  accepts_iff := run.balanced.submit_isOk_iff
  rejects := run.balanced.submit_eq_stopped
  all_ended := fun returned => run.balanced.all_ended (run.ceased returned)
  rejected_lost := by
    rintro before client job failure after rfl
    exact run.rejected_lost
  stop_again := by
    intro told
    simp [stop, run.balanced.closed told]
  stop_returns := run.stop_returns

/-- Two clients, work that breaks off and work that fails, and a job that comes too late. -/
theorem serves_two_clients :
    Serves
      [.accepted 0 (.removal ⟨['a'], ['x']⟩), .started (.removal ⟨['a'], ['x']⟩),
        .accepted 1 (.removal ⟨['b'], ['y']⟩), .ended (.removal ⟨['a'], ['x']⟩) (.broken none),
        .stopCalled, .started (.removal ⟨['b'], ['y']⟩),
        .ended (.removal ⟨['b'], ['y']⟩) (.failed (.declined ['y'])), .left, .stopReturned,
        .rejected 0 (.removal ⟨['c'], ['z']⟩) .stopped]
      ⟨false, [], .ended, [(.removal ⟨['a'], ['x']⟩, .broken none),
        (.removal ⟨['b'], ['y']⟩, .failed (.declined ['y']))]⟩ := by
  have first := (Run.idle.step (.accepted 0 (.removal ⟨['a'], ['x']⟩) rfl)).step
    (.started rfl rfl)
  have second := (first.step (.accepted 1 (.removal ⟨['b'], ['y']⟩) rfl)).step
    (.ended (.broken none) rfl)
  have drained := (((second.step (.stopCalled _)).step (.started rfl rfl)).step
    (.ended (.failed (.declined ['y'])) rfl)).step (.left rfl rfl)
  have late := (drained.step (.stopReturned rfl)).step
    (.rejected 0 (.removal ⟨['c'], ['z']⟩) rfl)
  exact late.serves_in_order

end Worker

end ProjectTags
