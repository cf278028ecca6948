/-!
# Process tables

The processes that queries have started and not yet taken back, by their numbers. The system gives
no number to two processes at a time. Taking back a process and taking back all of them are single
steps, so that a process is never taken back twice.
-/

namespace ProjectTags

/-- Running processes by their numbers. -/
structure ProcessTable (Process : Type) where
  entries : List (Nat × Process)
  deriving Repr

namespace ProcessTable

variable {Process : Type}

/-- No processes. -/
def empty : ProcessTable Process := ⟨[]⟩

/-- Enters a process, in the place of one with the same number. -/
def register (table : ProcessTable Process) (number : Nat) (process : Process) :
    ProcessTable Process :=
  ⟨table.entries.filter (·.1 != number) ++ [(number, process)]⟩

/-- The process of a number, and the table without it. -/
def take (table : ProcessTable Process) (number : Nat) : Option Process × ProcessTable Process :=
  (table.entries.lookup number, ⟨table.entries.filter (·.1 != number)⟩)

/-- All processes, and the empty table. -/
def drain (table : ProcessTable Process) : List Process × ProcessTable Process :=
  (table.entries.map (·.2), empty)

/-- How many processes there are. -/
def size (table : ProcessTable Process) : Nat :=
  table.entries.length

/-- A number that no process has. -/
def unused (table : ProcessTable Process) : Nat :=
  table.entries.foldl (fun number entry => max number (entry.1 + 1)) 1

end ProcessTable

end ProjectTags
