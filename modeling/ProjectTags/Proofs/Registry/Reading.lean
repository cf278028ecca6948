import Mathlib.Data.List.Forall2
import Mathlib.Data.List.Infix
import ProjectTags.Proofs.Registry.RoundTrip

/-!
# What a registry says, line by line

Each line of a registry is read on its own: it is no text, or blank, or an entry, or none, whatever
stands before and behind it. So a search that stops early finds the first of all entries, and two
registries that are put together say what each of them says.

Only the number that is told with a line which is no entry depends on other lines. It goes up with
each line that is a text, so it is the position of the line as long as all lines before are texts.
-/

namespace ProjectTags.Registry

variable {machine : Machine} {database file registry : Text} {sidecar : Option Bytes}
  {line : Bytes} {entry : Target} {content : Bytes}

/-! ## All entries, and the first that fits -/

/-- What the registry of a database says if its file has some content, or is not there. -/
def entriesIn (database : Text) (sidecar : Option Bytes) : List Target :=
  (split (parse (path database) (sidecar.getD []))).1

/-- A search that stops early finds the first of all entries. -/
theorem fst_search (condition : Target → Bool) (records : List (Except Failure Target)) :
    (search condition records).1 = (split records).1.find? condition := by
  induction records with
  | nil => rfl
  | cons record others ih =>
      cases record with
      | error failure => simpa [search, split] using ih
      | ok entry =>
          by_cases fits : condition entry = true
          · simp [search, split, fits]
          · simpa [search, split, fits] using ih

theorem read_of_readable
    (readable : machine.files.read machine.current (path database) =
      sidecar.elim (.error .notFound) .ok) :
    read machine.files machine.current database =
      .ok (parse (path database) (sidecar.getD [])) := by
  cases sidecar <;> simp only [read, readable] <;> rfl

theorem fst_validEntries
    (readable : machine.files.read machine.current (path database) =
      sidecar.elim (.error .notFound) .ok) :
    (validEntries machine database).1 = .ok (entriesIn database sidecar) := by
  simp only [validEntries, read_of_readable readable, entriesIn]

theorem fst_firstMatch
    (readable : machine.files.read machine.current (path database) =
      sidecar.elim (.error .notFound) .ok) :
    (firstMatch machine database file).1 =
      .ok ((entriesIn database sidecar).find? fun entry => Path.hasTextPrefix file entry.root) := by
  simp only [firstMatch, read_of_readable readable, fst_search, entriesIn]

/-! ## One line -/

/-- Whether a line is a text at all. -/
def isText (line : Bytes) : Bool :=
  (Utf8.decode? line).isSome

/-- Whether nothing is left of a line without the white space at its end. -/
def isBlankLine (line : Bytes) : Bool :=
  (Utf8.decode? line).any fun text => (Text.trimRight text).isEmpty

/-- A line is that of an entry: its root and its database with the first tab between them. -/
structure IsEntryLine (entry : Target) (line : Text) : Prop where
  root_ne_nil : entry.root ≠ []
  database_ne_nil : entry.database ≠ []
  root_no_tab : '\t' ∉ entry.root
  whole : line = entry.root ++ '\t' :: entry.database

/-- What a line may come to. The number that is told with a line which is no entry is left open. -/
inductive ReadsAs (registry : Text) (line : Bytes) : Except Failure Target → Prop where
  | broken (undecodable : Utf8.decode? line = none) :
      ReadsAs registry line (.error (.fileSystem registry .invalidUtf8))
  | entry {text : Text} {entry : Target} (decoded : Utf8.decode? line = some text)
      (reads : IsEntryLine entry (Text.trimRight text)) : ReadsAs registry line (.ok entry)
  | malformed {text : Text} (number : Nat) (decoded : Utf8.decode? line = some text)
      (unread : ∀ entry, ¬IsEntryLine entry (Text.trimRight text)) :
      ReadsAs registry line (.error (.malformedEntry number (Text.trimRight text)))

/-- Two records agree but for the number that is told with a line. -/
inductive SameButNumber : Except Failure Target → Except Failure Target → Prop where
  | same (record : Except Failure Target) : SameButNumber record record
  | renumbered (first second : Nat) (text : Text) :
      SameButNumber (.error (.malformedEntry first text)) (.error (.malformedEntry second text))

theorem isEntryLine_iff {text : Text} {number : Nat} :
    IsEntryLine entry text ↔ parseEntry text number = .ok entry := by
  rw [parseEntry_eq_ok_iff]
  exact ⟨fun reads => ⟨reads.1, reads.2, reads.3, reads.4⟩,
    fun ⟨root, database, tab, whole⟩ => ⟨root, database, tab, whole⟩⟩

theorem IsEntryLine.unique {text : Text} {other : Target} (reads : IsEntryLine entry text)
    (readsToo : IsEntryLine other text) : entry = other := by
  have one : parseEntry text 0 = .ok entry := isEntryLine_iff.mp reads
  have another : parseEntry text 0 = .ok other := isEntryLine_iff.mp readsToo
  exact Except.ok.inj (one.symm.trans another)

theorem eq_of_parseEntry_eq_error {text : Text} {number : Nat} {failure : Failure}
    (failed : parseEntry text number = .error failure) : failure = .malformedEntry number text := by
  unfold parseEntry at failed
  split at failed
  · split at failed
    · exact (Except.error.inj failed).symm
    · cases failed
  · exact (Except.error.inj failed).symm

theorem readsAs_parseEntry {text : Text} (decoded : Utf8.decode? line = some text) (number : Nat) :
    ReadsAs registry line (parseEntry (Text.trimRight text) number) := by
  cases parsed : parseEntry (Text.trimRight text) number with
  | ok entry => exact .entry decoded (isEntryLine_iff.mpr parsed)
  | error failure =>
      rw [eq_of_parseEntry_eq_error parsed]
      refine .malformed number decoded fun entry reads => ?_
      rw [isEntryLine_iff.mp reads] at parsed
      cases parsed

/-- A line says one thing alone. -/
theorem ReadsAs.sameButNumber {first second : Except Failure Target}
    (one : ReadsAs registry line first) (other : ReadsAs registry line second) :
    SameButNumber first second := by
  cases one with
  | broken undecodable =>
      cases other with
      | broken => exact .same _
      | entry decoded => simp [undecodable] at decoded
      | malformed _ decoded => simp [undecodable] at decoded
  | entry decoded reads =>
      cases other with
      | broken undecodable => simp [undecodable] at decoded
      | entry again readsToo =>
          cases decoded.symm.trans again
          rw [reads.unique readsToo]
          exact .same _
      | malformed _ again unread =>
          cases decoded.symm.trans again
          exact absurd reads (unread _)
  | malformed number decoded unread =>
      cases other with
      | broken undecodable => simp [undecodable] at decoded
      | entry again reads =>
          cases decoded.symm.trans again
          exact absurd reads (unread _)
      | malformed _ again =>
          cases decoded.symm.trans again
          exact .renumbered ..

/-! ## All lines -/

/-- The lines that are not blank, each with the lines before it. -/
def places (lines : List Bytes) : List (List Bytes × Bytes) :=
  (lines.inits.zip lines).filter fun place => !isBlankLine place.2

theorem places_cons (line : Bytes) (others : List Bytes) :
    places (line :: others) =
      (if isBlankLine line then [] else [([], line)]) ++
        (places others).map fun place => (line :: place.1, place.2) := by
  have shifted : (others.inits.map fun before => line :: before).zip others =
      (others.inits.zip others).map fun place => (line :: place.1, place.2) := by
    rw [List.zip_map_left]
    rfl
  rw [places, List.inits_cons, List.zip_cons_cons, shifted, List.filter_cons, List.filter_map]
  cases blank : isBlankLine line <;> simp [places, Function.comp_def]

theorem map_snd_places (lines : List Bytes) :
    (places lines).map Prod.snd = lines.filter fun line => !isBlankLine line := by
  induction lines with
  | nil => rfl
  | cons line others ih =>
      rw [places_cons, List.map_append, List.map_map, List.filter_cons]
      have kept : (places others).map (Prod.snd ∘ fun place => (line :: place.1, place.2)) =
          (places others).map Prod.snd := rfl
      rw [kept, ih]
      cases isBlankLine line <;> rfl

/-- What is read in one place: what its line says, told with the number of the lines before it that
are texts. -/
structure ReadAt (registry : Text) (number : Nat) (place : List Bytes × Bytes)
    (record : Except Failure Target) : Prop where
  readsAs : ReadsAs registry place.2 record
  number_eq : ∀ told text, record = .error (.malformedEntry told text) →
    told = number + place.1.countP isText

/-- Each line that is not blank is read in its place, whatever the lines around it are. -/
theorem forall₂_parseLines (registry : Text) (lines : List Bytes) (number : Nat) :
    List.Forall₂ (ReadAt registry number) (places lines) (parseLines registry number lines) := by
  induction lines generalizing number with
  | nil => exact .nil
  | cons line others ih =>
      -- The numbers go on from here: a line that is a text stands before one line more, and any
      -- other leaves the count as it is.
      have later : List.Forall₂ (ReadAt registry number)
          ((places others).map fun place => (line :: place.1, place.2))
          (parseLines registry (number + if isText line then 1 else 0) others) := by
        rw [List.forall₂_map_left_iff]
        refine (ih _).imp fun place record there => ⟨there.readsAs, fun told text same => ?_⟩
        rw [there.number_eq told text same, List.countP_cons]
        omega
      rw [places_cons]
      cases decoded : Utf8.decode? line with
      | none =>
          have kind : isBlankLine line = false ∧ isText line = false := by
            simp [isBlankLine, isText, decoded]
          simp only [kind, Bool.false_eq_true, if_false, Nat.add_zero] at later ⊢
          simp only [parseLines, decoded, List.singleton_append]
          exact .cons ⟨.broken decoded, by simp⟩ later
      | some text =>
          have kind : isBlankLine line = (Text.trimRight text).isEmpty ∧ isText line = true := by
            simp [isBlankLine, isText, decoded]
          simp only [kind, if_true] at later ⊢
          simp only [parseLines, decoded]
          split
          · simpa using later
          · refine .cons ⟨readsAs_parseEntry decoded number, fun told other same => ?_⟩ later
            have failure := eq_of_parseEntry_eq_error same
            simp only [Failure.malformedEntry.injEq] at failure
            simp [failure.1]

theorem readsAs_parseLines (registry : Text) (lines : List Bytes) (number : Nat) :
    List.Forall₂ (ReadsAs registry) (lines.filter fun line => !isBlankLine line)
      (parseLines registry number lines) := by
  rw [← map_snd_places, List.forall₂_map_left_iff]
  exact (forall₂_parseLines registry lines number).imp fun _ _ there => there.readsAs

/-- The entry of a line, if it is that of one. -/
def entryOf? (line : Bytes) : Option Target :=
  (Utf8.decode? line).bind fun text => (parseEntry (Text.trimRight text) 0).toOption

theorem ReadsAs.toOption_eq {record : Except Failure Target}
    (reads : ReadsAs registry line record) : record.toOption = entryOf? line := by
  cases reads with
  | broken undecodable => simp [entryOf?, undecodable, Except.toOption]
  | entry decoded reads =>
      have parsed : parseEntry (Text.trimRight _) 0 = .ok _ := isEntryLine_iff.mp reads
      simp [entryOf?, decoded, parsed, Except.toOption]
  | @malformed text number decoded unread =>
      cases parsed : parseEntry (Text.trimRight text) 0 with
      | error failure => simp [entryOf?, decoded, parsed, Except.toOption]
      | ok entry => exact absurd (isEntryLine_iff.mpr parsed) (unread entry)

theorem entryOf?_of_blank (blank : isBlankLine line = true) : entryOf? line = none := by
  rw [isBlankLine, Option.any_eq_true] at blank
  rcases blank with ⟨text, decoded, empty⟩
  rw [entryOf?, decoded, Option.bind_some, List.isEmpty_iff.mp empty]
  rfl

theorem fst_split (records : List (Except Failure Target)) :
    (split records).1 = records.filterMap Except.toOption :=
  List.filterMap_congr fun record _ => by cases record <;> rfl

theorem filterMap_of_readsAs {lines : List Bytes} {records : List (Except Failure Target)}
    (reads : List.Forall₂ (ReadsAs registry) lines records) :
    records.filterMap Except.toOption = lines.filterMap entryOf? := by
  induction reads with
  | nil => rfl
  | cons one _ ih => rw [List.filterMap_cons, List.filterMap_cons, one.toOption_eq, ih]

/-- The entries of a registry are those of its lines. -/
theorem fst_split_parseLines (registry : Text) (lines : List Bytes) (number : Nat) :
    (split (parseLines registry number lines)).1 = lines.filterMap entryOf? := by
  have kept : (fun line => if !isBlankLine line then entryOf? line else none) = entryOf? := by
    funext line
    cases blank : isBlankLine line with
    | true => exact (entryOf?_of_blank blank).symm
    | false => rfl
  rw [fst_split, filterMap_of_readsAs (readsAs_parseLines registry lines number),
    List.filterMap_filter, kept]

/-- Two contents with a line break between them say what each of them says. -/
theorem entriesIn_break_append (database place elsewhere : Text) (first second : Bytes) :
    entriesIn database (some (first ++ Bytes.lineBreak :: second)) =
      entriesIn place (some first) ++ entriesIn elsewhere (some second) := by
  have blank : isBlankLine [] = true := by decide +kernel
  -- The first content may have lacked its last line break, or it gets an empty line.
  have ended : (Bytes.lines (first ++ [Bytes.lineBreak])).filterMap entryOf? =
      (Bytes.lines first).filterMap entryOf? := by
    rcases Bytes.lines_append_lineBreak first with same | added
    · rw [same]
    · rw [added, List.filterMap_append]
      simp [entryOf?_of_blank blank]
  simp only [entriesIn, parse, fst_split_parseLines, Option.getD_some]
  rw [Bytes.lines_break_append, List.filterMap_append, ended]

/-! ## Reading a registry -/

/-- The registry of a database is a file with some content. -/
def HasContent (machine : Machine) (database : Text) (content : Bytes) : Prop :=
  machine.files.read machine.current (path database) = .ok content

instance (machine : Machine) (database : Text) (content : Bytes) :
    Decidable (HasContent machine database content) :=
  inferInstanceAs (Decidable (_ = _))

/-- A machine on which the database `/d` has a registry. -/
def withRegistry (content : Bytes) : Machine :=
  ⟨⟨[([['d']], .directory), ([['d'], fileName], .file content false)]⟩, [], []⟩

/-- A registry is read line by line. -/
structure ReadsLineByLine (machine : Machine) (database : Text) (content : Bytes) : Prop where
  /-- Every line that is not blank is one record, in order. -/
  records : ∃ records, read machine.files machine.current database = .ok records ∧
    List.Forall₂ (ReadsAs (path database))
      ((Bytes.lines content).filter fun line => !isBlankLine line) records ∧
    (validEntries machine database).1 = .ok (split records).1
  determined : ∀ line first second, ReadsAs (path database) line first →
    ReadsAs (path database) line second → SameButNumber first second
  joined : ∀ (first second : Bytes) (one other : Machine) (place elsewhere : Text),
    content = first ++ Bytes.lineBreak :: second →
    HasContent one place first → HasContent other elsewhere second →
      ∃ entries others, (validEntries one place).1 = .ok entries ∧
        (validEntries other elsewhere).1 = .ok others ∧
        (validEntries machine database).1 = .ok (entries ++ others)
  first_match : ∀ file, ∃ entries, (validEntries machine database).1 = .ok entries ∧
    (firstMatch machine database file).1 =
      .ok (entries.find? fun entry => Path.hasTextPrefix file entry.root)

theorem HasContent.readable (there : HasContent machine database content) :
    machine.files.read machine.current (path database) =
      (some content).elim (.error .notFound) .ok :=
  there

/-- Whatever bytes a registry has, each line is read for itself: nothing but the number that is told
with a line depends on the others. -/
theorem reads_line_by_line (there : HasContent machine database content) :
    ReadsLineByLine machine database content where
  records := by
    exact ⟨_, read_of_readable there.readable, readsAs_parseLines _ _ 1,
      fst_validEntries there.readable⟩
  determined := fun _ _ _ one other => one.sameButNumber other
  joined := by
    rintro first second one other place elsewhere rfl oneThere otherThere
    refine ⟨_, _, fst_validEntries oneThere.readable, fst_validEntries otherThere.readable, ?_⟩
    rw [fst_validEntries there.readable, entriesIn_break_append database place elsewhere]
  first_match := fun _ => ⟨_, fst_validEntries there.readable, fst_firstMatch there.readable⟩

/-- A line that is no text, one that is no entry, a blank one and an entry without a line break at
its end. -/
theorem reads_four_lines :
    let content : Bytes := [0xFF, 10, 120, 10, 32, 13, 10, 97, 9, 98]
    let machine := withRegistry content
    let entry : Target := ⟨['a'], ['b']⟩
    HasContent machine ['/', 'd'] content ∧ ReadsLineByLine machine ['/', 'd'] content ∧
      (validEntries machine ['/', 'd']).1 = .ok [entry] ∧
      (firstMatch machine ['/', 'd'] ['a', '/', 'x']).1 = .ok (some entry) := by
  intro content machine entry
  have there : HasContent machine ['/', 'd'] content := by decide +kernel
  exact ⟨there, reads_line_by_line there, by decide +kernel, by decide +kernel⟩

/-- Of two equal lines that are no entry the first is told as line 1 and the second as line 2, so no
function of the line alone gives both. -/
theorem numbers_equal_lines :
    let content : Bytes := [120, 10, 120, 10]
    let machine := withRegistry content
    let told := read machine.files machine.current ['/', 'd']
    Bytes.lines content = [[120], [120]] ∧
      told = .ok [.error (.malformedEntry 1 ['x']), .error (.malformedEntry 2 ['x'])] ∧
      ∀ recordOf : Bytes → Except Failure Target,
        told ≠ .ok ((Bytes.lines content).map recordOf) := by
  intro content machine told
  have lines : Bytes.lines content = [[120], [120]] := by decide
  have told_eq : told =
      .ok [.error (.malformedEntry 1 ['x']), .error (.malformedEntry 2 ['x'])] := by
    decide +kernel
  refine ⟨lines, told_eq, fun recordOf same => ?_⟩
  rw [told_eq, lines] at same
  simp only [List.map_cons, List.map_nil, Except.ok.injEq, List.cons.injEq] at same
  have different := same.1.trans same.2.1.symm
  simp at different

/-! ## The number of a line -/

/-- What is told with a line that is no entry. -/
structure Told (place : List Bytes × Bytes) (number : Nat) (text : Text) : Prop where
  text_eq : ∃ line, Utf8.decode? place.2 = some line ∧ text = Text.trimRight line
  number_eq : number = 1 + place.1.countP isText
  /-- The number is the position of the line exactly if all lines before it are texts. -/
  points_iff : number = place.1.length + 1 ↔ ∀ line ∈ place.1, isText line = true

theorem ReadAt.told {place : List Bytes × Bytes} {number : Nat} {text : Text}
    (there : ReadAt registry 1 place (.error (.malformedEntry number text))) :
    Told place number text := by
  have counted : number = 1 + place.1.countP isText := there.number_eq number text rfl
  refine ⟨?_, counted, ?_⟩
  · cases there.readsAs with
    | malformed _ decoded _ => exact ⟨_, decoded, rfl⟩
  · rw [← List.countP_eq_length, counted]
    omega

/-- A line that is no entry is told with the number of lines up to it, those left out that are no
text. So the number points at the line exactly if no line before it is left out. -/
theorem tells_lines_up_to (there : HasContent machine database content) :
    ∃ records, read machine.files machine.current database = .ok records ∧
      List.Forall₂ (fun place record => ∀ number text,
          record = .error (.malformedEntry number text) → Told place number text)
        (places (Bytes.lines content)) records := by
  refine ⟨_, read_of_readable there.readable, ?_⟩
  refine (forall₂_parseLines _ _ 1).imp fun place record reading number text same => ?_
  subst same
  exact reading.told

/-- Behind an entry and a blank line the number is that of the line. -/
theorem tells_third_line :
    let content : Bytes := [97, 9, 98, 10, 10, 120, 10]
    let machine := withRegistry content
    HasContent machine ['/', 'd'] content ∧
      read machine.files machine.current ['/', 'd'] =
        .ok [.ok ⟨['a'], ['b']⟩, .error (.malformedEntry 3 ['x'])] ∧
      Told ([[97, 9, 98], []], [120]) 3 ['x'] := by
  intro content machine
  have there : HasContent machine ['/', 'd'] content := by decide +kernel
  have told : read machine.files machine.current ['/', 'd'] =
      .ok [.ok ⟨['a'], ['b']⟩, .error (.malformedEntry 3 ['x'])] := by
    decide +kernel
  rcases tells_lines_up_to there with ⟨records, same, tells⟩
  rw [told, Except.ok.injEq] at same
  subst same
  have lines : places (Bytes.lines content) = [([], [97, 9, 98]), ([[97, 9, 98], []], [120])] := by
    decide +kernel
  rw [lines] at tells
  simp only [List.forall₂_cons] at tells
  exact ⟨there, told, tells.2.1 3 ['x'] rfl⟩

/-- Behind a line that is no text the second line is told as line 1. -/
theorem tells_line_before :
    let content : Bytes := [0xFF, 10, 120, 10]
    let machine := withRegistry content
    places (Bytes.lines content) = [([], [0xFF]), ([[0xFF]], [120])] ∧
      read machine.files machine.current ['/', 'd'] =
        .ok [.error (.fileSystem (path ['/', 'd']) .invalidUtf8),
          .error (.malformedEntry 1 ['x'])] := by
  intro content machine
  exact ⟨by decide +kernel, by decide +kernel⟩

end ProjectTags.Registry
