import Mathlib.Data.List.Induction
import Mathlib.Data.List.Nodup
import ProjectTags.Query.ProcessTable

/-!
# Entering and taking back processes

As long as a number is given to one process at a time, entering a process puts it behind the others
and taking it back leaves them. So a process that is entered with an unused number and taken back at
once leaves the table as it was.
-/

namespace ProjectTags.ProcessTable

variable {Process : Type} {table : ProcessTable Process} {entries : List (Nat × Process)}
  {number : Nat} {process : Process}

theorem filter_of_free (free : ∀ entry ∈ entries, entry.1 ≠ number) :
    entries.filter (·.1 != number) = entries :=
  List.filter_eq_self.mpr fun entry mem => bne_iff_ne.mpr (free entry mem)

theorem entries_register (free : ∀ entry ∈ table.entries, entry.1 ≠ number) :
    (table.register number process).entries = table.entries ++ [(number, process)] := by
  rw [register, filter_of_free free]

theorem mem_entries_take {entry : Nat × Process} :
    entry ∈ (table.take number).2.entries ↔ entry ∈ table.entries ∧ entry.1 ≠ number := by
  simp [take]

/-- Where the numbers differ, a process is found by its number. -/
theorem take_of_mem (once : (table.entries.map (·.1)).Nodup)
    (mem : (number, process) ∈ table.entries) : (table.take number).1 = some process := by
  rcases List.append_of_mem mem with ⟨before, behind, split⟩
  refine List.lookup_eq_some_iff.mpr ⟨before, behind, split, fun entry earlier => ?_⟩
  rw [split, List.map_append, List.map_cons] at once
  have apart := (List.nodup_append.mp once).2.2 entry.1 (List.mem_map_of_mem earlier)
  exact bne_iff_ne.mpr (apart number List.mem_cons_self).symm

theorem ne_of_take_eq_none (missing : (table.take number).1 = none) :
    ∀ entry ∈ table.entries, entry.1 ≠ number :=
  fun entry mem => (bne_iff_ne.mp (List.lookup_eq_none_iff.mp missing entry mem)).symm

/-- Where the numbers differ, no more than one process is taken back. -/
theorem perm_take (once : (table.entries.map (·.1)).Nodup) (number : Nat) :
    (table.entries.map (·.2)).Perm
      ((table.take number).1.toList ++ (table.take number).2.entries.map (·.2)) := by
  cases found : table.entries.lookup number with
  | none => simp [take, found, filter_of_free (ne_of_take_eq_none found)]
  | some process =>
      rcases List.lookup_eq_some_iff.mp found with ⟨before, behind, split, others⟩
      have earlier : ∀ entry ∈ before, entry.1 ≠ number :=
        fun entry mem => (bne_iff_ne.mp (others entry mem)).symm
      have later : ∀ entry ∈ behind, entry.1 ≠ number := by
        intro entry mem same
        rw [split, List.map_append, List.map_cons] at once
        have second := (List.nodup_cons.mp once.of_append_right).1
        exact second (List.mem_map.mpr ⟨entry, mem, same⟩)
      have rest : table.entries.filter (·.1 != number) = before ++ behind := by
        simp [split, filter_of_free earlier, filter_of_free later]
      simp only [take, found, rest, Option.toList_some]
      rw [split, List.map_append, List.map_cons, List.map_append]
      exact List.perm_middle

theorem lt_foldl_of_mem (least : Nat) {entry : Nat × Process} (mem : entry ∈ entries) :
    entry.1 < entries.foldl (fun number entry => max number (entry.1 + 1)) least := by
  induction entries using List.reverseRecOn with
  | nil => cases mem
  | append_singleton others last ih =>
      rw [List.foldl_concat]
      rcases List.mem_append.mp mem with earlier | now
      · have below := ih earlier
        omega
      · rw [List.mem_singleton.mp now]
        omega

/-- A process that was entered with an unused number is there to be taken back. -/
theorem take_register_unused (table : ProcessTable Process) (process : Process) :
    (table.register table.unused process).take table.unused = (some process, table) := by
  have free : ∀ entry ∈ table.entries, entry.1 ≠ table.unused :=
    fun entry mem => Nat.ne_of_lt (lt_foldl_of_mem 1 mem)
  have absent : table.entries.lookup table.unused = none :=
    List.lookup_eq_none_iff.mpr fun entry mem => bne_iff_ne.mpr (free entry mem).symm
  simp [take, entries_register free, List.lookup_append, absent, filter_of_free free]

end ProjectTags.ProcessTable
