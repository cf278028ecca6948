import ProjectTags.Shell.Signal

/-!
# Commands in the background

Waiting for commands in the background, and telling the time that they and the shell have used.
-/

namespace ProjectTags.Shell

/-- Remembers that the commands in the background that have ended were waited for. -/
def reapJobs : Step Unit :=
  modify fun state => { state with
    jobs := state.jobs.map fun
      | (number, ⟨place, .finished status _⟩) => (number, ⟨place, .finished status true⟩)
      | job => job }

/-- Waits for a process in the background and gives its status. -/
def waitFor (engine : Engine) (number : Nat) : Step Nat := do
  match (← get).jobs.lookup number with
  | some ⟨_, .asleep due _ _⟩ =>
      modify fun state => { state with clock := max state.clock due }
      wakeJobs engine (some due) jobSteps
  | _ => pure ()
  match (← get).jobs.lookup number with
  | some ⟨some _, .finished status waitedFor⟩ =>
      match status with
      | .signal signal => if !waitedFor then complain (signalNotice signal)
      | .code _ => pure ()
      modify fun state => { state with
        jobs := state.jobs.map fun job =>
          if job.1 = number then (number, { job.2 with work := .finished status true }) else job }
      return statusNumber status
  | _ => return 127

/-- Waits for processes one after the other. The status of the last one comes out. -/
def waitForAll (engine : Engine) : Nat → List Text → Step Nat
  | status, [] => return status
  | before, text :: others => do
      let known := (← get).jobs
      let number ← processNumber text
      let status ← waitFor engine number
      waitForAll engine (if known.any (·.1 = number) then status else before) others

/-- Waits for processes in the background, or for all of them. -/
def wait : Builtin := fun engine _ arguments => do
  match ← operandsOf arguments with
  | [] =>
      wakeJobs engine none jobSteps
      reapJobs
      return 0
  | numbers => waitForAll engine 127 numbers

/-- Writes the time that the shell and its programs have used. -/
def tellTimes : Builtin := fun _ _ _ => do
  say "0m0.000000s 0m0.000000s\n0m0.000000s 0m0.000000s\n".toList
  return 0

end ProjectTags.Shell
