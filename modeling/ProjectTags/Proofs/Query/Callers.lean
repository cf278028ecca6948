import ProjectTags.Proofs.Query.Databases
import ProjectTags.Proofs.Query.ProcessRun

/-!
# Callers of a session and runs of its processes

Whatever turns the callers of a session take, there is a run of processes that follows them: it has
the processes of the session in its table, the executions that have not answered among those that
read, and the same answers. A turn that takes processes also waits for them, so nothing is held
between turns. So the laws of runs hold of sessions. A lone execution is two turns, and executions
that are cancelled together are turns by definition.

The session gives the number of a process that a cleanup has ended again at once. This is a number
that the system may give, but an execution may still be going to look for it.
-/

namespace ProjectTags

namespace ProcessTable

variable {First Second : Type} {table : ProcessTable First} {number : Nat}

/-- What is kept of each process of a table. -/
def map (keep : First → Second) (table : ProcessTable First) : ProcessTable Second :=
  ⟨table.entries.map fun entry => (entry.1, keep entry.2)⟩

theorem map_register (keep : First → Second) (process : First) :
    (table.register number process).map keep = (table.map keep).register number (keep process) := by
  simp [map, register, List.filter_map, Function.comp_def]

theorem take_map (keep : First → Second) :
    (table.map keep).take number =
      ((table.take number).1.map keep, (table.take number).2.map keep) := by
  have found : (table.entries.map fun entry => (entry.1, keep entry.2)).lookup number =
      (table.entries.lookup number).map keep := by
    induction table.entries with
    | nil => rfl
    | cons entry others ih =>
        rw [List.map_cons, List.lookup_cons, List.lookup_cons, ih]
        cases number == entry.1 <;> rfl
  simp [map, take, found, List.filter_map, Function.comp_def]

theorem length_map (keep : First → Second) :
    (table.map keep).entries.length = table.entries.length :=
  List.length_map _

theorem unused_map (keep : First → Second) : (table.map keep).unused = table.unused := by
  simp [map, unused, List.foldl_map]

theorem lt_unused_of_mem {entry : Nat × First} (mem : entry ∈ table.entries) :
    entry.1 < table.unused :=
  lt_foldl_of_mem 1 mem

end ProcessTable

namespace Session

open Processes

variable {programs : Programs} {given : Processes → Nat → Prop} {trace : List Happening}
  {state : Processes} {callers : Callers} {session : Session} {site : Site}

/-- All that is held can be waited for, with any status. -/
theorem Processes.Run.settle (run : Run given trace state) (status : ExitStatus) :
    ∃ later known, Run given later { state with held := [], known := known } ∧
      answers later = answers trace ++ state.held.filterMap fun hold =>
        (Happening.waited hold.holder hold.child status).answered? := by
  induction holds : state.held generalizing trace state with
  | nil =>
      refine ⟨trace, state.known, ?_, by simp⟩
      rw [← holds]
      exact run
  | cons hold others ih =>
      -- The first one is killed where that is due, and then waited for.
      have spared : ∃ later,
          Run given later { state with held := { hold with doomed := false } :: others } ∧
            answers later = answers trace := by
        cases doomed : hold.doomed with
        | true => exact ⟨_, run.step (.killed [] hold others holds (by simp) doomed), by simp⟩
        | false =>
            refine ⟨trace, ?_, rfl⟩
            rw [← doomed, ← holds]
            exact run
      rcases spared with ⟨alive, aliveRun, silent⟩
      have waited := aliveRun.step (.waited [] _ others status rfl (by simp) rfl)
      rcases ih waited rfl with ⟨later, known, settled, answered⟩
      refine ⟨later, known, settled, ?_⟩
      rw [answered, answers_concat, silent, List.append_assoc, List.filterMap_cons]
      cases (Happening.waited hold.holder hold.child status).answered? <;> rfl

/-- A run that follows the callers of a session. -/
structure Follows (trace : List Happening) (state : Processes) (callers : Callers) : Prop where
  run : Run Released trace state
  held : state.held = []
  table : state.table.map (·.line) = callers.session.processes.map (·.line)
  reading : state.reading.map (fun own => (own.number, own.line)) =
    callers.waiting.map fun execution => (execution.number, execution.line)
  answers : (answers trace).map (fun answered => (answered.1.line, answered.2)) =
    callers.answers.map fun answered => (answered.1.line, answered.2)

namespace Follows

theorem idle (site : Site) : Follows [] .empty (.idle .empty site) where
  run := .idle
  held := rfl
  table := rfl
  reading := rfl
  answers := rfl

/-- The next number of a session is one that the system may give. -/
theorem released (follows : Follows trace state callers) :
    state.Released callers.session.processes.unused := by
  have kept := follows.run.kept
  intro child known
  have there := kept.kept.mem_iff.mp known
  rw [follows.held, List.map_nil, List.nil_append] at there
  rcases List.mem_map.mp there with ⟨entry, mem, rfl⟩
  rw [← (kept.entries entry mem).1, ← ProcessTable.unused_map (·.line), ← follows.table,
    ProcessTable.unused_map]
  exact Nat.ne_of_lt (ProcessTable.lt_unused_of_mem mem)

theorem begins (follows : Follows trace state callers) (line : CommandLine) :
    ∃ trace state, Follows trace state (callers.take programs (.begins line)) := by
  cases called : callers.site.call programs line [] with
  | mk outcome next =>
      cases outcome with
      | error fault =>
          refine ⟨trace, state, ?_⟩
          simp only [Callers.take, begin_of_error _ called]
          exact ⟨follows.run, follows.held, follows.table, follows.reading, follows.answers⟩
      | ok finished =>
          rcases state.exists_fresh with ⟨execution, fresh⟩
          let child : Child := ⟨execution, callers.session.processes.unused, line⟩
          refine ⟨trace ++ [.started child], state.start child, ?run, ?held, ?table, ?reading,
            ?answers⟩
          case run => exact follows.run.step (.started child fresh follows.released)
          case held => exact follows.held
          case table =>
            simp only [Callers.take, begin_of_ok _ called, launch, start]
            rw [ProcessTable.map_register, ProcessTable.map_register, follows.table]
          case reading =>
            simp [Callers.take, begin_of_ok _ called, launch, start, follows.reading, child]
          case answers =>
            simpa [Callers.take, begin_of_ok _ called] using follows.answers

/-- The execution at a place reads from the process at that place. -/
theorem own_of_waiting (follows : Follows trace state callers) {place : Nat}
    {execution : Execution} (waits : callers.waiting[place]? = some execution) :
    ∃ own, state.reading[place]? = some own ∧ own.number = execution.number ∧
      own.line = execution.line := by
  have same := congrArg (·[place]?) follows.reading
  simp only [List.getElem?_map, waits, Option.map_some] at same
  rcases Option.map_eq_some_iff.mp same with ⟨own, reads, alike⟩
  exact ⟨own, reads, congrArg Prod.fst alike, congrArg Prod.snd alike⟩

/-- What is found in the session is found in the run. -/
theorem take_table (follows : Follows trace state callers) (number : Nat) :
    (state.table.take number).1.map (·.line) =
        (callers.session.processes.take number).1.map (·.line) ∧
      (state.table.take number).2.map (·.line) =
        (callers.session.processes.take number).2.map (·.line) := by
  have same := congrArg (·.take number) follows.table
  simp only [ProcessTable.take_map, Prod.mk.injEq] at same
  exact same

theorem finishes (follows : Follows trace state callers) (place : Nat) :
    ∃ trace state, Follows trace state (callers.take programs (.finishes place)) := by
  cases waits : callers.waiting[place]? with
  | none => exact ⟨trace, state, by simpa only [Callers.take, waits] using follows⟩
  | some execution =>
      rcases follows.own_of_waiting waits with ⟨own, reads, sameNumber, sameLine⟩
      rcases follows.take_table own.number with ⟨sameFound, sameRest⟩
      have looked := follows.run.step
        (.looked own execution.read (List.mem_of_getElem? reads))
      have erased : state.reading.erase own = state.reading.eraseIdx place := by
        rcases List.getElem?_eq_some_iff.mp reads with ⟨bound, rfl⟩
        exact follows.run.kept.reading_nodup.erase_getElem place bound
      have reading : (state.look own execution.read).reading.map
            (fun own => (own.number, own.line)) =
          (callers.waiting.eraseIdx place).map
            fun execution => (execution.number, execution.line) := by
        change (state.reading.erase own).map _ = _
        rw [erased, ← List.eraseIdx_map, ← List.eraseIdx_map, follows.reading]
      rw [sameNumber] at sameFound sameRest
      cases found : (callers.session.processes.take execution.number).1 with
      | none =>
          rw [found, Option.map_none, Option.map_eq_none_iff] at sameFound
          refine ⟨_, _, looked, ?held, ?table, ?reading, ?answers⟩
          case held => simp [look, follows.held, sameNumber, sameFound]
          case table =>
            simpa [Callers.take, waits, finish, collect, found, look, sameNumber] using sameRest
          case reading => simpa [Callers.take, waits, finish, collect, found] using reading
          case answers =>
            simp [Callers.take, waits, finish, collect, found, sameNumber, sameFound,
              follows.answers, sameLine]
      | some running =>
          rw [found] at sameFound
          rcases Option.map_eq_some_iff.mp sameFound with ⟨child, childFound, -⟩
          rcases looked.settle running.status with ⟨later, known, settled, answered⟩
          refine ⟨_, _, settled, rfl, ?table, ?reading, ?answers⟩
          case table =>
            simpa [Callers.take, waits, finish, collect, found, look, sameNumber] using sameRest
          case reading => simpa [Callers.take, waits, finish, collect, found] using reading
          case answers =>
            rw [answered]
            simp [Callers.take, waits, finish, collect, found, look, sameNumber, childFound,
              follows.held, follows.answers, sameLine]

theorem cleans (follows : Follows trace state callers) :
    ∃ trace state, Follows trace state (callers.take programs .cleans) := by
  rcases state.exists_fresh with ⟨call, fresh⟩
  rcases (follows.run.step (.drained call fresh)).settle (.signal 9) with
    ⟨later, known, settled, answered⟩
  refine ⟨later, _, settled, rfl, rfl, follows.reading, ?_⟩
  rw [answered]
  simp [Callers.take, clean, follows.held, follows.answers]

/-- A run that follows goes on with the next turn. -/
theorem take (programs : Programs) (follows : Follows trace state callers) (turn : Turn) :
    ∃ trace state, Follows trace state (callers.take programs turn) := by
  cases turn with
  | begins line => exact follows.begins line
  | finishes place => exact follows.finishes place
  | cleans => exact follows.cleans

theorem takeAll (programs : Programs) (follows : Follows trace state callers)
    (turns : List Turn) :
    ∃ trace state, Follows trace state (callers.takeAll programs turns) := by
  induction turns generalizing trace state callers with
  | nil => exact ⟨trace, state, follows⟩
  | cons turn others ih =>
      rcases follows.take programs turn with ⟨_, _, next⟩
      exact ih next

/-- When all have answered, no program of the session is left. -/
theorem live_eq_zero (follows : Follows trace state callers) (answered : callers.waiting = []) :
    callers.session.live = 0 := by
  have reading : state.reading = [] := by
    have same := follows.reading
    rwa [answered, List.map_nil, List.map_eq_nil_iff] at same
  have empty := follows.run.kept.entries_eq_nil ⟨reading, follows.held⟩
  have size := congrArg (·.entries.length) follows.table
  rw [ProcessTable.length_map, ProcessTable.length_map, empty] at size
  exact size.symm

end Follows

namespace Callers

/-- Whatever turns are taken, there is a run with the same answers, and the session has no program
left when all executions have answered. -/
theorem exists_run (programs : Programs) (site : Site) (turns : List Turn) :
    ∃ trace state, Follows trace state ((idle empty site).takeAll programs turns) ∧
      (((idle empty site).takeAll programs turns).waiting = [] →
        ((idle empty site).takeAll programs turns).session.live = 0) := by
  rcases (Follows.idle site).takeAll programs turns with ⟨trace, state, follows⟩
  exact ⟨trace, state, follows, follows.live_eq_zero⟩

-- The first program would succeed but is ended, and its number is given to one that fails.
example :
    let programs : Programs := fun machine line _ =>
      .ok (⟨[], [], .code line.arguments.length⟩, machine.files)
    ((idle empty (.ofMachine ⟨⟨[]⟩, [], []⟩ [])).takeAll programs
        [.begins (.ofProgram ['a']), .cleans, .begins (.shell ['b']), .finishes 0,
          .finishes 0]).answers.map (fun answered => (answered.1.line.program, answered.2.isOk)) =
      [(['a'], false), (['s', 'h'], true)] := by
  decide

/-- An execution that nothing comes between is two turns. -/
theorem execute_eq_turns (programs : Programs) (line : CommandLine) (session : Session)
    (site : Site) :
    let callers := (idle session site).takeAll programs [.begins line, .finishes 0]
    callers.refused.map .error ++ callers.answers.map (·.2) =
        [(execute programs line session site).1] ∧
      (callers.session, callers.site) = (execute programs line session site).2 := by
  cases called : site.call programs line [] with
  | mk outcome next =>
      cases outcome with
      | error fault =>
          simp [takeAll, take, idle, begin_of_error _ called, execute_of_error _ called]
      | ok finished =>
          simp [takeAll, take, idle, begin_of_ok _ called, execute_of_ok _ called, finish,
            collect_launch, Reading.outcome]

end Callers

end Session

end ProjectTags
