import Mathlib.Data.List.Basic
import ProjectTags.Proofs.Query.Databases
import ProjectTags.Proofs.Text.Decimal
import ProjectTags.Proofs.Text.Lines
import ProjectTags.Proofs.Text.Pieces

/-!
# Matches that come back

What the search tool writes is cut into lines, the lines lose the carriage returns at their ends,
and each is read as a match. A match comes back from its own line exactly if its file is a text of
one line without a tab, its line number has at most 64 bits and its text is a text of one line
without a carriage return at the end. All that is ever read has this form, so the results of a query
are the matches that were written exactly if all of them have it.
-/

namespace ProjectTags

namespace ResultLine

variable {raw : Text} {result : ResultLine} {results : List ResultLine}

/-- A match whose line says again what was written. -/
structure Printable (result : ResultLine) : Prop where
  file_ne_nil : result.file ≠ []
  file_no_tab : '\t' ∉ result.file
  file_no_break : '\n' ∉ result.file
  line_lt : result.line < lineBound
  text_no_break : '\n' ∉ result.text
  text_end : result.text.getLast? ≠ some '\r'

/-- Some matches, one a line. -/
def printed (results : List ResultLine) : Text :=
  results.flatMap fun result => result.render ++ ['\n']

/-! ## One line -/

/-- A line is read as a match exactly if it is the file, a tab and the line number, which a tab and
the text may follow. -/
theorem parse?_eq_some_iff :
    parse? raw = some result ↔
      result.file ≠ [] ∧ '\t' ∉ result.file ∧
        ∃ number, '\t' ∉ number ∧
          Text.natural? lineBound (Text.trim number) = some result.line ∧
          (raw = result.file ++ '\t' :: (number ++ '\t' :: result.text) ∨
            raw = result.file ++ '\t' :: number ∧ result.text = []) := by
  constructor
  · intro parsed
    simp only [parse?, Option.bind_eq_bind, Option.bind_eq_some_iff] at parsed
    rcases parsed with ⟨⟨file, rest⟩, cut, parsed⟩
    rcases Text.splitAt?_eq_some_iff.mp cut with ⟨fileFree, rfl⟩
    simp only [List.isEmpty_iff, Option.ite_none_left_eq_some, Option.bind_eq_some_iff,
      Option.pure_def, Option.some.injEq] at parsed
    rcases parsed with ⟨nonempty, line, read, rfl⟩
    refine ⟨nonempty, fileFree, ?_⟩
    cases more : Text.splitAt? '\t' rest with
    | none =>
        rw [more] at read
        exact ⟨rest, Text.splitAt?_eq_none_iff.mp more, read, Or.inr ⟨rfl, rfl⟩⟩
    | some parts =>
        rcases parts with ⟨number, text⟩
        rw [more] at read
        rcases Text.splitAt?_eq_some_iff.mp more with ⟨numberFree, rfl⟩
        exact ⟨number, numberFree, read, Or.inl rfl⟩
  · rcases result with ⟨file, line, text⟩
    rintro ⟨nonempty, fileFree, number, numberFree, read, rfl | ⟨rfl, noText⟩⟩
    · have cut : Text.splitAt? '\t' (file ++ '\t' :: (number ++ '\t' :: text)) =
          some (file, number ++ '\t' :: text) :=
        Text.splitAt?_eq_some_iff.mpr ⟨fileFree, rfl⟩
      have more : Text.splitAt? '\t' (number ++ '\t' :: text) = some (number, text) :=
        Text.splitAt?_eq_some_iff.mpr ⟨numberFree, rfl⟩
      simp [parse?, cut, more, nonempty, read]
    · have cut : Text.splitAt? '\t' (file ++ '\t' :: number) = some (file, number) :=
        Text.splitAt?_eq_some_iff.mpr ⟨fileFree, rfl⟩
      have more : Text.splitAt? '\t' number = none := Text.splitAt?_eq_none_iff.mpr numberFree
      obtain rfl : text = [] := noText
      simp [parse?, cut, more, nonempty, read]

/-- A match is read from its own text whatever line breaks are in it. -/
theorem parse?_render_of_small (nonempty : result.file ≠ []) (fileFree : '\t' ∉ result.file)
    (small : result.line < lineBound) : parse? result.render = some result := by
  apply parse?_eq_some_iff.mpr
  have numberFree : '\t' ∉ Text.digits result.line := Text.not_mem_digits (by decide)
  refine ⟨nonempty, fileFree, Text.digits result.line, numberFree, ?_, Or.inl ?_⟩
  · rw [Text.trim_digits, Text.natural?_digits small]
  · simp [render]

/-- A written match is read as itself. -/
theorem parse?_render (printable : result.Printable) : parse? result.render = some result :=
  parse?_render_of_small printable.file_ne_nil printable.file_no_tab printable.line_lt

/-- What is read of a line has the form of a match that comes back. -/
theorem printable_of_parse? (single : '\n' ∉ raw) (solid : raw.getLast? ≠ some '\r')
    (parsed : parse? raw = some result) : result.Printable := by
  rcases parse?_eq_some_iff.mp parsed with ⟨nonempty, fileFree, number, _, read, whole⟩
  have small := Text.lt_of_natural? read
  have fileSingle : '\n' ∉ result.file := by
    rcases whole with rfl | ⟨rfl, _⟩ <;> simp_all
  have textSingle : '\n' ∉ result.text := by
    rcases whole with rfl | ⟨_, noText⟩
    · simp_all
    · simp [noText]
  have textEnd : result.text.getLast? ≠ some '\r' := by
    intro last
    rcases whole with rfl | ⟨_, noText⟩
    · apply solid
      simp [List.getLast?_append, List.getLast?_cons, last]
    · simp [noText] at last
  exact ⟨nonempty, fileFree, fileSingle, small, textSingle, textEnd⟩

theorem Printable.single (printable : result.Printable) : '\n' ∉ result.render := by
  have number : '\n' ∉ Text.digits result.line := Text.not_mem_digits (by decide)
  simp [render, printable.file_no_break, printable.text_no_break, number]

/-- No carriage return is cut off the end of a match that comes back. -/
theorem Printable.solid (printable : result.Printable) :
    Text.dropWhileEnd (· = '\r') result.render = result.render := by
  have ends : result.render.getLast? = some (result.text.getLast?.getD '\t') := by
    simp [render, List.getLast?_append, List.getLast?_cons]
  apply Text.dropWhileEnd_eq
  rw [ends, Option.any_some]
  cases last : result.text.getLast? with
  | none => rfl
  | some c =>
      have other : c ≠ '\r' := fun same => printable.text_end (same ▸ last)
      simpa using other

end ResultLine

namespace Session

variable {programs : Programs} {query : Query} {source : Query.Source} {session : Session}
  {site : Site} {line : CommandLine} {finished : Finished} {files : FileTree}
  {results : List ResultLine}

/-! ## What a program wrote -/

theorem outputLines_printed (printable : ∀ result ∈ results, result.Printable) :
    outputLines (Utf8.encode (ResultLine.printed results)) = results.map ResultLine.render := by
  induction results with
  | nil => rfl
  | cons result others ih =>
      have first := printable result (List.mem_cons_self ..)
      have rest := ih fun other mem => printable other (List.mem_cons_of_mem _ mem)
      have whole : ResultLine.printed (result :: others) =
          result.render ++ '\n' :: ResultLine.printed others := by
        simp [ResultLine.printed]
      rw [outputLines] at rest ⊢
      rw [whole, Bytes.lines_encode_append_break first.single, List.map_cons, rest,
        Utf8.decodeLossy_encode, first.solid, List.map_cons]

/-- All that is read of a text in UTF-8 comes back when it is written again. -/
theorem printable_of_mem_outputLines {text : Text} {result : ResultLine}
    (mem : result ∈ (outputLines (Utf8.encode text)).filterMap ResultLine.parse?) :
    result.Printable := by
  simp only [outputLines, List.mem_filterMap, List.mem_map] at mem
  rcases mem with ⟨raw, ⟨bytes, inOutput, rfl⟩, parsed⟩
  rcases Bytes.exists_of_mem_lines_encode inOutput with ⟨piece, single, rfl⟩
  rw [Utf8.decodeLossy_encode] at parsed
  refine ResultLine.printable_of_parse? ?_ ?_ parsed
  · exact fun broken => single ((Text.prefix_of_dropWhileEnd _ piece).subset broken)
  · intro last
    simpa [last] using Text.any_getLast?_dropWhileEnd (· = '\r') piece

/-- A program that ended well gives the lines it wrote, whatever is told about its errors. -/
theorem execute_of_success
    (ended : programs site.machine line [] = .ok (finished, files))
    (successful : finished.status.isSuccess = true) :
    (execute programs line session site).1 = .ok (outputLines finished.output) := by
  rw [execute_of_ok session (Site.call_of_ok ended)]
  simp [report, successful]

theorem run_single
    (ended : programs site.machine (query.commandLine source.target source.library) [] =
      .ok (finished, files))
    (successful : finished.status.isSuccess = true) :
    (session.run programs query [source] site).1 =
      .ok ((outputLines finished.output).filterMap ResultLine.parse?) := by
  have lines : (execute programs (query.commandLine source.target source.library)
      (session.recordHighlight query) site).1 = .ok (outputLines finished.output) :=
    execute_of_success ended successful
  rcases executed : execute programs (query.commandLine source.target source.library)
      (session.recordHighlight query) site with ⟨outcome, others, left⟩
  rw [executed] at lines
  obtain rfl : outcome = .ok (outputLines finished.output) := lines
  simp [run, runAll, executed]

/-- The results of a query to one database are the matches that the search tool wrote, in order,
exactly if each of them has the form of a match that comes back. -/
theorem run_reads_back
    (ended : programs site.machine (query.commandLine source.target source.library) [] =
      .ok (finished, files))
    (successful : finished.status.isSuccess = true)
    (wrote : finished.output = Utf8.encode (ResultLine.printed results)) :
    (session.run programs query [source] site).1 = .ok results ↔
      ∀ result ∈ results, result.Printable := by
  rw [run_single ended successful, wrote, Except.ok.injEq]
  constructor
  · intro same result mem
    rw [← same] at mem
    exact printable_of_mem_outputLines mem
  · intro printable
    rw [outputLines_printed printable, List.filterMap_map]
    calc results.filterMap (ResultLine.parse? ∘ ResultLine.render)
        = results.filterMap some :=
          List.filterMap_congr fun result mem => ResultLine.parse?_render (printable result mem)
      _ = results := List.filterMap_some

/-- Texts with tabs, an empty text and the greatest line number come back. -/
theorem run_reads_back_odd_matches :
    let results : List ResultLine := [⟨"a\rb.c".toList, 18446744073709551615, "\tint x;\r ".toList⟩,
      ⟨"é".toList, 0, []⟩]
    let programs : Programs := fun machine _ _ =>
      .ok (⟨Utf8.encode (ResultLine.printed results), [], .code 0⟩, machine.files)
    let query : Query := ⟨"global".toList, none, "default".toList, .definition "x".toList,
      ⟨none, none, false, false, false⟩⟩
    (empty.run programs query [⟨⟨['/', 'p'], ['/', 'c']⟩, false⟩]
      (.ofMachine ⟨⟨[]⟩, [], []⟩ [])).1 = .ok results := by
  intro results programs query
  have printable : ∀ result ∈ results, result.Printable := by
    intro result mem
    simp only [results, List.mem_cons, List.not_mem_nil, or_false] at mem
    rcases mem with rfl | rfl <;>
      exact ⟨by decide, by decide, by decide, by decide, by decide, by decide⟩
  exact (run_reads_back rfl rfl rfl).mpr printable

end Session

end ProjectTags
