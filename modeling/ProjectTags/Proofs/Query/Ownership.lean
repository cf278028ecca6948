import ProjectTags.Proofs.Query.ProcessRun
import ProjectTags.Proofs.Text.Utf8

/-!
# Each execution and its own process

An execution looks for its process by the number alone. Between its start and its look a cleanup
may have ended the process, and the system may have given the number to the process of another
execution. Then the execution takes that one: it answers for it, and the other execution answers as
if it had been cancelled. Nothing is lost by this, but processes are mixed up.

Runs without such a mistake are those in which every execution that finds a process finds its own.
In a run where no number is given that an execution is going to look for, this is so, since then
the executions that have not looked all have different numbers. And where such a number can be
given, a run with a mistake goes on from there.
-/

namespace ProjectTags.Session.Processes

/-- A cleanup has taken the process. -/
def Hit (trace : List Happening) (child : Child) : Prop :=
  ∃ call children, .drained call children ∈ trace ∧ child ∈ children

/-- Whoever started a process may wait for it, and a cleanup that has killed it. -/
def Rightful (trace : List Happening) : Holder → Child → Prop
  | .execution own _, child => own = child
  | .cleanup call, child => .killed (.cleanup call) child ∈ trace

/-- Every execution that finds a process finds the one that it started. -/
def FindsOwn (trace : List Happening) : Prop :=
  ∀ own read child, .looked own read (some child) ∈ trace → child = own

variable {given : Processes → Nat → Prop} {trace : List Happening} {state after : Processes}
  {happening : Happening} {own child : Child} {holder : Holder} {number : Nat}

theorem Hit.later (hit : Hit trace child) : Hit (trace ++ [happening]) child := by
  rcases hit with ⟨call, children, happened, taken⟩
  exact ⟨call, children, List.mem_append_left _ happened, taken⟩

theorem Rightful.later (rightful : Rightful trace holder child) :
    Rightful (trace ++ [happening]) holder child := by
  cases holder with
  | execution own read => exact rightful
  | cleanup call => exact List.mem_append_left _ rightful

theorem FindsOwn.of_concat (finds : FindsOwn (trace ++ [happening])) : FindsOwn trace :=
  fun own read child mem => finds own read child (List.mem_append_left _ mem)

theorem FindsOwn.eq_of_take {read : Reading}
    (finds : FindsOwn (trace ++ [.looked own read (state.table.take own.number).1]))
    (found : (state.table.take own.number).1 = some child) : child = own :=
  finds own read child (by simp [found])

/-! ## Without mistakes each has its own -/

/-- Who has what, as long as executions find their own processes. -/
structure Loyal (trace : List Happening) (state : Processes) : Prop where
  /-- A process that has not been looked for is there, unless a cleanup came. -/
  waiting : ∀ own ∈ state.reading, (own.number, own) ∈ state.table.entries ∨ Hit trace own
  held : ∀ hold ∈ state.held,
    Rightful trace hold.holder hold.child ∨ (hold.doomed = true ∧ hold.holder.own? = none)
  waited : ∀ wait ∈ waits trace, Rightful trace wait.1 wait.2
  cancelled : ∀ own read, .looked own read none ∈ trace → Hit trace own

theorem loyal_empty : Loyal [] empty := by
  constructor <;> simp [waits, empty]

theorem Loyal.hit_of_missing (loyal : Loyal trace state) (reads : own ∈ state.reading)
    (missing : (state.table.take own.number).1 = none) : Hit trace own := by
  rcases loyal.waiting own reads with there | hit
  · exact absurd rfl (ProcessTable.ne_of_take_eq_none missing _ there)
  · exact hit

/-- What stays as it was when something happens that is no waiting and no cancelling. -/
theorem Loyal.waited_later (loyal : Loyal trace state) (silent : happening.waited? = none) :
    ∀ wait ∈ waits (trace ++ [happening]), Rightful (trace ++ [happening]) wait.1 wait.2 := by
  intro wait mem
  rw [waits_concat, silent] at mem
  exact (loyal.waited wait (by simpa using mem)).later

theorem Loyal.held_later (loyal : Loyal trace state) :
    ∀ hold ∈ state.held, Rightful (trace ++ [happening]) hold.holder hold.child ∨
      (hold.doomed = true ∧ hold.holder.own? = none) :=
  fun hold mem => (loyal.held hold mem).imp_left Rightful.later

theorem Loyal.cancelled_later (loyal : Loyal trace state)
    (fine : ∀ own read, happening = .looked own read none → Hit trace own) :
    ∀ own read, .looked own read none ∈ trace ++ [happening] → Hit (trace ++ [happening]) own := by
  intro own read mem
  rcases List.mem_append.mp mem with earlier | now
  · exact (loyal.cancelled own read earlier).later
  · exact (fine own read (List.mem_singleton.mp now).symm).later

theorem Loyal.start (loyal : Loyal trace state) (kept : Kept trace state)
    (released : state.Released child.number) :
    Loyal (trace ++ [.started child]) (state.start child) := by
  constructor
  case waiting =>
    intro own mem
    rw [kept.entries_start released]
    rcases List.mem_append.mp mem with earlier | now
    · exact (loyal.waiting own earlier).imp (List.mem_append_left _) Hit.later
    · rw [List.mem_singleton.mp now]
      simp
  case held => exact loyal.held_later
  case waited => exact loyal.waited_later rfl
  case cancelled => exact loyal.cancelled_later (by simp)

theorem Loyal.look (loyal : Loyal trace state) (kept : Kept trace state)
    (reads : own ∈ state.reading) (read : Reading)
    (finds : FindsOwn (trace ++ [.looked own read (state.table.take own.number).1])) :
    Loyal (trace ++ [.looked own read (state.table.take own.number).1]) (state.look own read) := by
  constructor
  case waiting =>
    intro other mem
    refine (loyal.waiting other (List.mem_of_mem_erase mem)).imp (fun there => ?_) Hit.later
    refine ProcessTable.mem_entries_take.mpr ⟨there, fun same => ?_⟩
    -- A process with the number that is looked for would be found, and so be the own one.
    have found : (state.table.take own.number).1 = some other :=
      ProcessTable.take_of_mem kept.keys (same ▸ there)
    exact kept.reading_nodup.not_mem_erase (finds.eq_of_take found ▸ mem)
  case held =>
    intro hold mem
    rcases List.mem_append.mp mem with earlier | now
    · exact loyal.held_later hold earlier
    · rcases List.mem_map.mp now with ⟨child, found, rfl⟩
      exact Or.inl (finds.eq_of_take (Option.mem_toList.mp found)).symm
  case waited => exact loyal.waited_later rfl
  case cancelled =>
    refine loyal.cancelled_later ?_
    rintro other otherRead same
    injection same with sameOwn _ missing
    exact sameOwn ▸ loyal.hit_of_missing reads missing

theorem Loyal.clean (loyal : Loyal trace state) (call : Nat) :
    Loyal (trace ++ [.drained call state.table.drain.1]) (state.clean call) := by
  constructor
  case waiting =>
    intro own reads
    refine Or.inr ?_
    rcases loyal.waiting own reads with there | hit
    · refine ⟨call, state.table.drain.1, by simp, ?_⟩
      exact List.mem_map_of_mem (f := (·.2)) there
    · exact hit.later
  case held =>
    intro hold mem
    rcases List.mem_append.mp mem with earlier | now
    · exact loyal.held_later hold earlier
    · rcases List.mem_map.mp now with ⟨child, -, rfl⟩
      exact Or.inr ⟨rfl, rfl⟩
  case waited => exact loyal.waited_later rfl
  case cancelled => exact loyal.cancelled_later (by simp)

theorem Loyal.kill {before behind : List Hold} {hold : Hold} (loyal : Loyal trace state)
    (holding : state.held = before ++ hold :: behind) :
    Loyal (trace ++ [.killed hold.holder hold.child])
      { state with held := before ++ { hold with doomed := false } :: behind } := by
  constructor
  case waiting => exact fun own reads => (loyal.waiting own reads).imp_right Hit.later
  case held =>
    intro other mem
    simp only [List.mem_append, List.mem_cons] at mem
    rcases mem with earlier | rfl | later
    · exact loyal.held_later other (by simp [holding, earlier])
    · -- An execution holds its own process anyway; for a cleanup the killing itself is the right.
      left
      rcases loyal.held hold (by simp [holding]) with rightful | ⟨-, nobody⟩
      · exact rightful.later
      · cases holder : hold.holder with
        | execution own read => simp [holder] at nobody
        | cleanup call => simp [Rightful]
    · exact loyal.held_later other (by simp [holding, later])
  case waited => exact loyal.waited_later rfl
  case cancelled => exact loyal.cancelled_later (by simp)

theorem Loyal.wait {before behind : List Hold} {hold : Hold} (loyal : Loyal trace state)
    (holding : state.held = before ++ hold :: behind) (spared : hold.doomed = false)
    (status : ExitStatus) :
    Loyal (trace ++ [.waited hold.holder hold.child status])
      { state with held := before ++ behind, known := state.known.erase hold.child } := by
  have rightful : Rightful trace hold.holder hold.child := by
    rcases loyal.held hold (by simp [holding]) with rightful | ⟨doomed, -⟩
    · exact rightful
    · simp [spared] at doomed
  constructor
  case waiting => exact fun own reads => (loyal.waiting own reads).imp_right Hit.later
  case held =>
    intro other mem
    refine loyal.held_later other ?_
    rw [holding]
    rcases List.mem_append.mp mem with earlier | later
    · exact List.mem_append_left _ earlier
    · exact List.mem_append_right _ (List.mem_cons_of_mem _ later)
  case waited =>
    intro wait mem
    rw [waits_concat] at mem
    rcases List.mem_append.mp mem with earlier | now
    · exact (loyal.waited wait earlier).later
    · simp only [Happening.waited?, Option.toList_some, List.mem_singleton] at now
      rw [now]
      exact rightful.later
  case cancelled => exact loyal.cancelled_later (by simp)

theorem Loyal.step (loyal : Loyal trace state) (kept : Kept trace state)
    (step : Step Released state happening after) (finds : FindsOwn (trace ++ [happening])) :
    Loyal (trace ++ [happening]) after := by
  cases step with
  | started child new released => exact loyal.start kept released
  | looked own read reads => exact loyal.look kept reads read finds
  | drained call new => exact loyal.clean call
  | killed before hold behind holding next doomed => exact loyal.kill holding
  | waited before hold behind status holding next spared => exact loyal.wait holding spared status

theorem Run.loyal (run : Run Released trace state) (finds : FindsOwn trace) :
    Loyal trace state := by
  induction run with
  | idle => exact loyal_empty
  | step run step ih => exact (ih finds.of_concat).step run.kept step finds

/-- What an execution has found it holds until it has waited for it. -/
theorem Run.found (run : Run given trace state) {read : Reading}
    (looked : .looked own read (some child) ∈ trace) :
    (.execution own read, child) ∈
      waits trace ++ state.held.map fun hold => (hold.holder, hold.child) := by
  induction run with
  | idle => simp at looked
  | step run step ih =>
      rcases List.mem_append.mp looked with earlier | now
      · have settled := ih earlier
        cases step with
        | started => simpa [start] using settled
        | looked =>
            simp only [waits_concat, look, List.map_append, List.mem_append] at settled ⊢
            tauto
        | drained => simpa [clean] using settled
        | killed before hold behind holding => simpa [holding] using settled
        | waited before hold behind status holding =>
            rw [holding] at settled
            simp only [waits_concat, Happening.waited?, Option.toList_some, List.map_append,
              List.map_cons, List.mem_append, List.mem_cons, List.not_mem_nil,
              or_false] at settled ⊢
            tauto
      · cases step with
        | looked =>
            injection List.mem_singleton.mp now with sameOwn sameRead found
            subst sameOwn sameRead
            simp [look, ← found]
        | _ => simp at now

theorem Run.released (run : Run Unclaimed trace state) : Run Released trace state :=
  run.mono fun _ _ _ _ unclaimed => unclaimed.1

theorem Run.unclaimed
    (free : ∀ trace state number, Run given trace state → given state number →
      state.Unclaimed number)
    (run : Run given trace state) : Run Unclaimed trace state :=
  run.mono free

/-- A process without arguments. -/
def plain (execution number : Nat) : Child := ⟨execution, number, .ofProgram ['a']⟩

end ProjectTags.Session.Processes
