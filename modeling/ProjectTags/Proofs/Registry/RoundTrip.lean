import Mathlib.Data.List.Basic
import ProjectTags.Proofs.Registry.Writing
import ProjectTags.Proofs.Text.Lines
import ProjectTags.Proofs.Text.Trimming
import ProjectTags.Registry.Lookup

/-!
# Which libraries a registry keeps

Nothing is escaped in a registry, so what is written is not always what is read. An entry comes
back exactly if its root has neither a tab nor a line break and its database is a text of one line
that does not end in white space. All that is ever read from a text has this form, whatever it says, so
if every entry comes back then every entry had it.
-/

namespace ProjectTags

namespace Registry

variable {tree : FileTree} {current : Location} {database registry : Text}
  {entry : Target} {entries : List Target} {number : Nat}

/-- An entry whose line says again what was written. -/
structure Storable (entry : Target) : Prop where
  root_no_tab : '\t' ∉ entry.root
  root_no_break : '\n' ∉ entry.root
  database_ne_nil : entry.database ≠ []
  database_no_break : '\n' ∉ entry.database
  database_end : entry.database.getLast?.any Text.isBlank = false

/-! ## Lines of a registry -/

/-- A line is read as an entry exactly if it is the root, a tab and the database. -/
theorem parseEntry_eq_ok_iff {line : Text} :
    parseEntry line number = .ok entry ↔
      entry.root ≠ [] ∧ entry.database ≠ [] ∧ '\t' ∉ entry.root ∧
        line = entry.root ++ '\t' :: entry.database := by
  unfold parseEntry
  constructor
  · intro parsed
    split at parsed
    · next root database cut =>
        split at parsed
        · cases parsed
        · next nonempty =>
            simp only [Bool.or_eq_true, List.isEmpty_iff, not_or] at nonempty
            cases parsed
            rcases Text.splitAt?_eq_some_iff.mp cut with ⟨free, whole⟩
            exact ⟨nonempty.1, nonempty.2, free, whole⟩
    · cases parsed
  · rintro ⟨rootNonempty, databaseNonempty, free, rfl⟩
    rw [Text.splitAt?_eq_some_iff.mpr ⟨free, rfl⟩]
    simp [rootNonempty, databaseNonempty]

/-- What is read of a text of one line has the form of an entry that is stored. -/
theorem storable_of_parseEntry {text : Text} (single : '\n' ∉ text)
    (parsed : parseEntry (Text.trimRight text) number = .ok entry) : Storable entry := by
  rcases parseEntry_eq_ok_iff.mp parsed with ⟨_, nonempty, free, whole⟩
  have broken : '\n' ∉ Text.trimRight text := fun mem =>
    single ((Text.prefix_of_dropWhileEnd Text.isBlank text).subset mem)
  rw [whole] at broken
  simp only [List.mem_append, List.mem_cons, not_or] at broken
  have solid : (Text.trimRight text).getLast?.any Text.isBlank = false :=
    Text.any_getLast?_dropWhileEnd Text.isBlank text
  rw [whole, List.append_cons, List.getLast?_append_of_ne_nil _ nonempty] at solid
  exact ⟨free, broken.1, nonempty, broken.2.2, solid⟩

theorem storable_of_mem_parseLines {lines : List Bytes}
    (single : ∀ line ∈ lines, ∃ text, '\n' ∉ text ∧ line = Utf8.encode text)
    (mem : .ok entry ∈ parseLines registry number lines) : Storable entry := by
  induction lines generalizing number with
  | nil => simp [parseLines] at mem
  | cons line others ih =>
      rcases single line (List.mem_cons_self ..) with ⟨text, free, rfl⟩
      have later : ∀ next, .ok entry ∈ parseLines registry next others → Storable entry :=
        fun _ => ih fun line mem => single line (List.mem_cons_of_mem _ mem)
      simp only [parseLines, Utf8.decode?_encode] at mem
      split at mem
      · exact later _ mem
      · rcases List.mem_cons.mp mem with parsed | mem
        · exact storable_of_parseEntry free parsed.symm
        · exact later _ mem

theorem storable_of_mem_parse {content : Text}
    (mem : .ok entry ∈ parse registry (Utf8.encode content)) : Storable entry :=
  storable_of_mem_parseLines (fun _ => Bytes.exists_of_mem_lines_encode) mem

/-- Entries that can be stored are read back one by one. -/
theorem parse_render (storable : ∀ entry ∈ entries, Storable entry)
    (rooted : ∀ entry ∈ entries, entry.root ≠ []) :
    parse registry (render entries) = entries.map .ok := by
  -- Failures are told with line numbers, so the induction has to be for any first number.
  suffices lines : ∀ number, parseLines registry number (Bytes.lines (render entries)) =
      entries.map .ok from lines 1
  induction entries with
  | nil => intro number; rfl
  | cons entry others ih =>
      intro number
      have kept := storable entry (List.mem_cons_self ..)
      have rest := ih (fun other mem => storable other (List.mem_cons_of_mem _ mem))
        (fun other mem => rooted other (List.mem_cons_of_mem _ mem)) (number + 1)
      have single : '\n' ∉ entry.root ++ '\t' :: entry.database := by
        simp [kept.root_no_break, kept.database_no_break]
      have whole : (entry :: others).flatMap renderEntry =
          (entry.root ++ '\t' :: entry.database) ++ '\n' :: others.flatMap renderEntry := by
        simp [renderEntry]
      have solid : Text.trimRight (entry.root ++ '\t' :: entry.database) =
          entry.root ++ '\t' :: entry.database := by
        apply Text.trimRight_eq
        rw [List.append_cons, List.getLast?_append_of_ne_nil _ kept.database_ne_nil]
        exact kept.database_end
      have parsed : parseEntry (entry.root ++ '\t' :: entry.database) number = .ok entry :=
        parseEntry_eq_ok_iff.mpr
          ⟨rooted entry (List.mem_cons_self ..), kept.database_ne_nil, kept.root_no_tab, rfl⟩
      rw [render, whole, Bytes.lines_encode_append_break single]
      rw [render] at rest
      simp only [parseLines, Utf8.decode?_encode, solid, parsed, rest]
      simp

/-! ## Writing and reading -/

theorem mem_split_iff {records : List (Except Failure Target)} :
    entry ∈ (split records).1 ↔ .ok entry ∈ records := by
  simp only [split, List.mem_filterMap]
  constructor
  · rintro ⟨record, mem, kept⟩
    cases record with
    | error failure => simp at kept
    | ok other =>
        simp only [Option.some.injEq] at kept
        rwa [← kept]
  · exact fun mem => ⟨.ok entry, mem, rfl⟩

theorem split_map_ok (entries : List Target) : split (entries.map .ok) = (entries, []) := by
  simp [split, List.filterMap_map]

theorem read_write {written : List Target}
    (wrote : (write tree current database entries).outcome = .ok written) :
    read (write tree current database entries).tree current database =
      .ok (parse (path database) (render written)) := by
  rw [read, FileTree.read_write (write_eq_ok wrote).2]

/-- Written entries come back as they are exactly if all of them can be stored. Then nothing else
is read, and a query finds them. -/
theorem read_back_iff (machine : Machine) {written : List Target}
    (wrote : (write machine.files machine.current database entries).outcome = .ok written) :
    written = present machine.files machine.current database entries ∧
      ∃ records,
        read (write machine.files machine.current database entries).tree machine.current
            database = .ok records ∧
          ((split records).1 = written ↔ ∀ entry ∈ written, Storable entry) ∧
            ((∀ entry ∈ written, Storable entry) →
              records = written.map .ok ∧
                validEntries { machine with
                  files := (write machine.files machine.current database entries).tree } database =
                    (.ok written, [])) := by
  have back := read_write wrote
  have whole := (write_eq_ok wrote).1
  have readAll : (∀ entry ∈ written, Storable entry) →
      parse (path database) (render written) = written.map .ok := by
    intro storable
    exact parse_render storable fun entry mem => root_ne_nil_of_present (whole ▸ mem)
  refine ⟨whole, _, back, ⟨?_, ?_⟩, fun storable => ⟨readAll storable, ?_⟩⟩
  · intro same entry mem
    rw [← same, mem_split_iff] at mem
    exact storable_of_mem_parse mem
  · intro storable
    rw [readAll storable, split_map_ok]
  · simp only [validEntries, back, readAll storable, split_map_ok, List.map_nil]

/-- A root with a carriage return and a space at its end and a database with a tab come back. A
library that is not there is not written. -/
theorem reads_back_odd_names :
    let machine : Machine := ⟨⟨[([['l', '\r', ' ']], .directory)]⟩, [], []⟩
    let library : Target := ⟨['/', 'l', '\r', ' '], ['/', 'c', '\t', 'l']⟩
    let result := write machine.files machine.current ['/', 'c', '/', 'p']
      [library, ⟨['/', 'm'], ['/', 'c', '/', 'm']⟩]
    result.outcome = .ok [library] ∧
      validEntries { machine with files := result.tree } ['/', 'c', '/', 'p'] =
        (.ok [library], []) := by
  intro machine library result
  have wrote : result.outcome = .ok [library] := by
    decide +kernel
  rcases read_back_iff machine wrote with ⟨_, records, _, _, readBack⟩
  have storable : Storable library :=
    ⟨by decide, by decide, by decide, by decide, by decide⟩
  exact ⟨wrote, (readBack (by simpa using storable)).2⟩

end Registry

end ProjectTags
