import Mathlib.Data.Fintype.EquivFin
import Mathlib.Data.List.Nodup
import ProjectTags.Proofs.Query.ProcessTable
import ProjectTags.Query.Session

/-!
# Queries at the same time

Executions of one session may overlap, and cleanups come between their steps. They share the
process table; what they do to it is one step each: an execution starts its process and enters it,
and looks for it again when it has read all that the process wrote; a cleanup takes all processes.
Whoever has taken a process waits for it, after killing it where that is due. An execution that
finds nothing was cancelled. A run is any order of these steps, with any endings. An execution
whose program cannot be started never comes to the table and is left out.

The system may give a number again when the process that had it has been waited for. Two facts
carry the proof that none is lost. A process that was started and not yet waited for is either in
the table or held by someone. And a process in the table belongs to an execution that has not
looked for it yet, so nothing is left there in the end.
-/

namespace ProjectTags

namespace Session

/-- A process with its number in the system. An execution starts no more than one. -/
structure Child where
  execution : Nat
  number : Nat
  line : CommandLine
  deriving DecidableEq

/-- Who has taken a process. -/
inductive Holder where
  | execution (own : Child) (read : Reading)
  | cleanup (call : Nat)

/-- The execution that has taken a process, by the process that it started. -/
def Holder.own? : Holder → Option Child
  | execution own _ => some own
  | cleanup _ => none

@[simp]
theorem Holder.own?_execution (own : Child) (read : Reading) :
    (Holder.execution own read).own? = some own := rfl

@[simp]
theorem Holder.own?_cleanup (call : Nat) : (Holder.cleanup call).own? = none := rfl

/-- A process that was taken and is to be waited for. -/
structure Hold where
  holder : Holder
  child : Child
  /-- It is to be killed first. -/
  doomed : Bool

/-- The executions and cleanups of a session at one moment. Calls are told apart by numbers. -/
structure Processes where
  table : ProcessTable Child
  /-- The processes of the executions that have not looked for them yet. -/
  reading : List Child
  held : List Hold
  /-- What the system knows: the processes that were started and not waited for. -/
  known : List Child
  /-- The calls that have begun. -/
  begun : List Nat

namespace Processes

def empty : Processes := ⟨.empty, [], [], [], []⟩

/-- An execution starts a process and enters it. -/
def start (state : Processes) (child : Child) : Processes :=
  { state with
    table := state.table.register child.number child
    reading := state.reading ++ [child]
    known := state.known ++ [child]
    begun := state.begun ++ [child.execution] }

/-- An execution looks for its process and takes what it finds. -/
def look (state : Processes) (own : Child) (read : Reading) : Processes :=
  let (found, rest) := state.table.take own.number
  { state with
    table := rest
    reading := state.reading.erase own
    held := state.held ++
      found.toList.map fun child => ⟨.execution own read, child, read.fault.isSome⟩ }

/-- A cleanup takes all processes. -/
def clean (state : Processes) (call : Nat) : Processes :=
  let (children, rest) := state.table.drain
  { state with
    table := rest
    held := state.held ++ children.map fun child => ⟨.cleanup call, child, true⟩
    begun := state.begun ++ [call] }

/-- All calls that began have returned. -/
def Returned (state : Processes) : Prop :=
  state.reading = [] ∧ state.held = []

/-- A number that the system may give: no process that it knows has it. -/
def Released (state : Processes) (number : Nat) : Prop :=
  ∀ child ∈ state.known, child.number ≠ number

/-- A number that in addition no execution is going to look for. -/
def Unclaimed (state : Processes) (number : Nat) : Prop :=
  state.Released number ∧ ∀ own ∈ state.reading, own.number ≠ number

instance (state : Processes) (number : Nat) : Decidable (state.Released number) :=
  inferInstanceAs (Decidable (∀ child ∈ state.known, child.number ≠ number))

instance (state : Processes) (number : Nat) : Decidable (state.Unclaimed number) :=
  inferInstanceAs (Decidable (_ ∧ ∀ own ∈ state.reading, own.number ≠ number))

/-- What happens in a run. -/
inductive Happening where
  | started (child : Child)
  | looked (own : Child) (read : Reading) (found : Option Child)
  | drained (call : Nat) (children : List Child)
  | killed (holder : Holder) (child : Child)
  | waited (holder : Holder) (child : Child) (status : ExitStatus)

/-- One step of a call. Whoever holds several processes turns to the first of them. -/
inductive Step (given : Processes → Nat → Prop) : Processes → Happening → Processes → Prop where
  | started {state : Processes} (child : Child) (new : child.execution ∉ state.begun)
      (number : given state child.number) :
      Step given state (.started child) (state.start child)
  | looked {state : Processes} (own : Child) (read : Reading) (reads : own ∈ state.reading) :
      Step given state (.looked own read (state.table.take own.number).1) (state.look own read)
  | drained {state : Processes} (call : Nat) (new : call ∉ state.begun) :
      Step given state (.drained call state.table.drain.1) (state.clean call)
  | killed {state : Processes} (before : List Hold) (hold : Hold) (behind : List Hold)
      (holding : state.held = before ++ hold :: behind)
      (next : ∀ other ∈ before, other.holder ≠ hold.holder) (doomed : hold.doomed = true) :
      Step given state (.killed hold.holder hold.child)
        { state with held := before ++ { hold with doomed := false } :: behind }
  | waited {state : Processes} (before : List Hold) (hold : Hold) (behind : List Hold)
      (status : ExitStatus) (holding : state.held = before ++ hold :: behind)
      (next : ∀ other ∈ before, other.holder ≠ hold.holder) (spared : hold.doomed = false) :
      Step given state (.waited hold.holder hold.child status)
        { state with held := before ++ behind, known := state.known.erase hold.child }

/-- The steps of the calls of a session, and what is left after them. -/
inductive Run (given : Processes → Nat → Prop) : List Happening → Processes → Prop where
  | idle : Run given [] .empty
  | step {trace : List Happening} {state after : Processes} {happening : Happening}
      (run : Run given trace state) (step : Step given state happening after) :
      Run given (trace ++ [happening]) after

namespace Happening

@[simp]
def started? : Happening → Option Child
  | started child => some child
  | _ => none

@[simp]
def waited? : Happening → Option (Holder × Child)
  | waited holder child _ => some (holder, child)
  | _ => none

/-- An execution answers when it finds nothing, or when it has waited for what it found. -/
@[simp]
def answered? : Happening → Option (Child × Except Failure (List Text))
  | looked own read none => some (own, .ok (outputLines read.output))
  | waited (.execution own read) _ status => some (own, (read.outcome own.line status).1)
  | _ => none

end Happening

def started (trace : List Happening) : List Child :=
  trace.filterMap Happening.started?

def waits (trace : List Happening) : List (Holder × Child) :=
  trace.filterMap Happening.waited?

def answers (trace : List Happening) : List (Child × Except Failure (List Text)) :=
  trace.filterMap Happening.answered?

section Views

variable (trace : List Happening) (happening : Happening)

@[simp]
theorem started_concat :
    started (trace ++ [happening]) = started trace ++ happening.started?.toList := by
  cases happening <;> simp [started]

@[simp]
theorem waits_concat :
    waits (trace ++ [happening]) = waits trace ++ happening.waited?.toList := by
  cases happening <;> simp [waits]

@[simp]
theorem answers_concat :
    answers (trace ++ [happening]) = answers trace ++ happening.answered?.toList := by
  simp only [answers, List.filterMap_append, List.filterMap_cons, List.filterMap_nil]
  cases happening.answered? <;> rfl

end Views

variable {given : Processes → Nat → Prop} {trace : List Happening} {state after : Processes}
  {happening : Happening} {own child : Child} {holder : Holder}

theorem Step.mono {more : Processes → Nat → Prop}
    (wider : ∀ number, given state number → more state number)
    (step : Step given state happening after) : Step more state happening after := by
  cases step with
  | started child new number => exact .started child new (wider _ number)
  | looked own read reads => exact .looked own read reads
  | drained call new => exact .drained call new
  | killed before hold behind holding next doomed =>
      exact .killed before hold behind holding next doomed
  | waited before hold behind status holding next spared =>
      exact .waited before hold behind status holding next spared

/-- A run is one under any rule for numbers that allows all those given in it. -/
theorem Run.mono {more : Processes → Nat → Prop} (run : Run given trace state)
    (wider : ∀ trace state number, Run given trace state → given state number → more state number) :
    Run more trace state := by
  induction run with
  | idle => exact .idle
  | step run step ih => exact ih.step (step.mono fun number => wider _ _ number run)

/-! ## No process is lost -/

/-- Where the processes are, whatever numbers the system gives again. -/
structure Kept (trace : List Happening) (state : Processes) : Prop where
  begun : ∀ child ∈ started trace, child.execution ∈ state.begun
  once : (started trace).Nodup
  known : (started trace).Perm ((waits trace).map (·.2) ++ state.known)
  /-- What the system knows is held by someone or is in the table. -/
  kept : state.known.Perm (state.held.map (·.child) ++ state.table.entries.map (·.2))
  /-- An execution has answered, has not looked yet, or holds a process. -/
  answered : (started trace).Perm
    ((answers trace).map (·.1) ++ state.reading ++ state.held.filterMap (·.holder.own?))
  numbers : (state.known.map (·.number)).Nodup
  /-- What is in the table has not been looked for. -/
  entries : ∀ entry ∈ state.table.entries, entry.1 = entry.2.number ∧ entry.2 ∈ state.reading

theorem kept_empty : Kept [] empty := by
  constructor <;> simp [started, waits, answers, empty, ProcessTable.empty]

theorem Kept.keys (kept : Kept trace state) : (state.table.entries.map (·.1)).Nodup := by
  have numbers := (kept.kept.map (·.number)).nodup kept.numbers
  rw [List.map_append] at numbers
  have same : state.table.entries.map (·.1) =
      (state.table.entries.map (·.2)).map (·.number) := by
    rw [List.map_map]
    exact List.map_congr_left fun entry mem => (kept.entries entry mem).1
  rw [same]
  exact numbers.of_append_right

/-- A process that is started is entered behind those in the table. -/
theorem Kept.entries_start (kept : Kept trace state) (released : state.Released child.number) :
    (state.start child).table.entries = state.table.entries ++ [(child.number, child)] := by
  refine ProcessTable.entries_register fun entry mem => ?_
  rw [(kept.entries entry mem).1]
  exact released entry.2 (kept.kept.mem_iff.mpr
    (List.mem_append_right _ (List.mem_map_of_mem mem)))

theorem Kept.start (kept : Kept trace state) (new : child.execution ∉ state.begun)
    (released : state.Released child.number) :
    Kept (trace ++ [.started child]) (state.start child) := by
  have unseen : child ∉ started trace := fun mem => new (kept.begun child mem)
  constructor
  case begun =>
    intro other mem
    rcases List.mem_append.mp (started_concat trace _ ▸ mem) with earlier | now
    · exact List.mem_append_left _ (kept.begun other earlier)
    · simp_all [Processes.start]
  case once => simpa using kept.once.concat unseen
  case known => simpa [Processes.start] using kept.known.append_right [child]
  case kept =>
    rw [kept.entries_start released]
    simpa [Processes.start] using kept.kept.append_right [child]
  case answered =>
    have last := kept.answered.append_right [child]
    rw [List.append_assoc] at last
    simpa [Processes.start] using last.trans (List.perm_append_comm.append_left _)
  case numbers =>
    have unused : child.number ∉ state.known.map (·.number) := by
      intro mem
      rcases List.mem_map.mp mem with ⟨other, knownMem, same⟩
      exact released other knownMem same
    simpa [Processes.start] using kept.numbers.concat unused
  case entries =>
    intro entry mem
    rw [kept.entries_start released] at mem
    rcases List.mem_append.mp mem with earlier | now
    · exact ⟨(kept.entries entry earlier).1, List.mem_append_left _ (kept.entries entry earlier).2⟩
    · simp_all [Processes.start]

theorem Kept.look (kept : Kept trace state) (reads : own ∈ state.reading) (read : Reading) :
    Kept (trace ++ [.looked own read (state.table.take own.number).1]) (state.look own read) := by
  have taken := ProcessTable.perm_take kept.keys own.number
  have erased := List.perm_cons_erase reads
  constructor
  case begun => simpa [Processes.look] using kept.begun
  case once => simpa using kept.once
  case known => simpa [Processes.look] using kept.known
  case kept =>
    refine kept.kept.trans ?_
    simpa [Processes.look, Function.comp_def] using taken.append_left (state.held.map (·.child))
  case answered =>
    have apart := kept.answered.trans ((erased.append_left _).append_right _)
    cases found : (state.table.take own.number).1 with
    | none => simpa [Processes.look, found] using apart
    | some child =>
        rw [List.append_assoc, List.cons_append] at apart
        simpa [Processes.look, found] using
          apart.trans ((List.perm_append_singleton own _).symm.append_left _)
  case numbers => simpa [Processes.look] using kept.numbers
  case entries =>
    intro entry mem
    rcases ProcessTable.mem_entries_take.mp mem with ⟨earlier, other⟩
    rcases kept.entries entry earlier with ⟨number, waiting⟩
    -- Whatever is found, the process of `own` itself is no longer in the table.
    have different : entry.2 ≠ own := by
      rintro rfl
      exact other number
    exact ⟨number, (List.mem_erase_of_ne different).mpr waiting⟩

theorem Kept.clean (kept : Kept trace state) (call : Nat) :
    Kept (trace ++ [.drained call state.table.drain.1]) (state.clean call) := by
  constructor
  case begun =>
    intro child mem
    have earlier := kept.begun child (by simpa using mem)
    exact List.mem_append_left _ earlier
  case once => simpa using kept.once
  case known => simpa [Processes.clean] using kept.known
  case kept =>
    simpa [Processes.clean, ProcessTable.drain, ProcessTable.empty, Function.comp_def] using
      kept.kept
  case answered =>
    simpa [Processes.clean, ProcessTable.drain, List.filterMap_map, Function.comp_def] using
      kept.answered
  case numbers => simpa [Processes.clean] using kept.numbers
  case entries => simp [Processes.clean, ProcessTable.drain, ProcessTable.empty]

theorem Kept.kill {before behind : List Hold} {hold : Hold} (kept : Kept trace state)
    (holding : state.held = before ++ hold :: behind) :
    Kept (trace ++ [.killed hold.holder hold.child])
      { state with held := before ++ { hold with doomed := false } :: behind } := by
  constructor
  case begun => simpa using kept.begun
  case once => simpa using kept.once
  case known => simpa using kept.known
  case kept => simpa [holding] using kept.kept
  case answered => simpa [holding, List.filterMap_cons] using kept.answered
  case numbers => exact kept.numbers
  case entries => exact kept.entries

theorem Kept.wait {before behind : List Hold} {hold : Hold} (kept : Kept trace state)
    (holding : state.held = before ++ hold :: behind) (status : ExitStatus) :
    Kept (trace ++ [.waited hold.holder hold.child status])
      { state with held := before ++ behind, known := state.known.erase hold.child } := by
  have mem : hold.child ∈ state.known := by
    rw [kept.kept.mem_iff, holding]
    simp
  have erased := List.perm_cons_erase mem
  constructor
  case begun => simpa using kept.begun
  case once => simpa using kept.once
  case known => simpa using kept.known.trans (erased.append_left _)
  case kept =>
    have taken := kept.kept
    rw [holding, List.map_append, List.map_cons, List.append_assoc, List.cons_append] at taken
    simpa using (erased.symm.trans (taken.trans List.perm_middle)).cons_inv
  case answered =>
    have held := kept.answered
    rw [holding, List.filterMap_append, List.filterMap_cons] at held
    cases holder : hold.holder with
    | cleanup call => simpa [holder] using held
    | execution own read =>
        simp only [holder, Holder.own?_execution] at held
        rw [← List.append_assoc] at held
        have first := held.trans List.perm_middle
        simp only [List.append_assoc] at first
        simpa using first.trans List.perm_middle.symm
  case numbers => exact kept.numbers.sublist (List.erase_sublist.map _)
  case entries => exact kept.entries

theorem Kept.step (kept : Kept trace state) (step : Step Released state happening after) :
    Kept (trace ++ [happening]) after := by
  cases step with
  | started child new released => exact kept.start new released
  | looked own read reads => exact kept.look reads read
  | drained call new => exact kept.clean call
  | killed before hold behind holding next doomed => exact kept.kill holding
  | waited before hold behind status holding next spared => exact kept.wait holding status

theorem Run.kept (run : Run Released trace state) : Kept trace state := by
  induction run with
  | idle => exact kept_empty
  | step _ step ih => exact ih.step step

theorem exists_fresh (state : Processes) : ∃ execution, execution ∉ state.begun := by
  rcases Infinite.exists_notMem_finset state.begun.toFinset with ⟨execution, fresh⟩
  exact ⟨execution, fun mem => fresh (List.mem_toFinset.mpr mem)⟩

theorem Kept.reading_nodup (kept : Kept trace state) : state.reading.Nodup :=
  (kept.answered.nodup kept.once).of_append_left.of_append_right

/-! ## All calls can return -/

/-- How many steps are left to the calls that have begun, at most. -/
def remaining (state : Processes) : Nat :=
  3 * state.reading.length + state.held.length + state.held.countP (·.doomed)

theorem Kept.entries_eq_nil (kept : Kept trace state) (returned : state.Returned) :
    state.table.entries = [] := by
  apply List.eq_nil_iff_forall_not_mem.mpr
  intro entry mem
  have waiting := (kept.entries entry mem).2
  simp [returned.1] at waiting

end Processes

end Session

end ProjectTags
