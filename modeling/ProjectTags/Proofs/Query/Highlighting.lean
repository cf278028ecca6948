import Mathlib.Data.List.DropRight
import ProjectTags.Proofs.Query.Databases

/-!
# What is highlighted after some queries

Only the queries decide what a session highlights. Which databases they were put to, what the
search tool did there and whether the query failed play no part. A query with a pattern that is not
appended puts its pattern in the place of all others, so the patterns of the queries since the last
such query are left.
-/

namespace ProjectTags

namespace Query

/-- What to highlight for a query, if it has a pattern. -/
def highlighted? (query : Query) : Option Text :=
  query.mode.pattern?.map
    (Pattern.highlight
      ⟨query.options.literal, query.options.ignoreCase, query.mode.isTextSearch⟩)

/-- A query with a pattern that takes the place of those of earlier queries. -/
def replaces (query : Query) : Bool :=
  query.mode.pattern?.isSome && !query.options.append

/-- The queries from the last that replaces the others; all of them if there is none. -/
def shown (queries : List Query) : List Query :=
  (queries.rdropWhile (!·.replaces)).getLast?.toList ++ queries.rtakeWhile (!·.replaces)

variable {queries : List Query} {query : Query}

theorem shown_concat_of_replaces (replacing : query.replaces = true) :
    shown (queries ++ [query]) = [query] := by
  simp [shown, replacing]

theorem shown_concat_of_adds (adding : query.replaces = false) :
    shown (queries ++ [query]) = shown queries ++ [query] := by
  simp [shown, adding]

end Query

namespace Session

/-- A query put to some databases, with the programs and the place that it finds. -/
structure Call where
  query : Query
  sources : List Query.Source
  programs : Programs
  site : Site

/-- The session after one more query. -/
def after (session : Session) (call : Call) : Session :=
  (session.run call.programs call.query call.sources call.site).2.1

theorem after_eq (session : Session) (call : Call) :
    session.after call = session.recordHighlight call.query :=
  (settled_runAll call.programs call.query call.sources (session.recordHighlight call.query)
    call.site).session

theorem patterns_recordHighlight (session : Session) (query : Query) :
    (session.recordHighlight query).highlights.patterns =
      (if query.replaces then [] else session.highlights.patterns) ++
        query.highlighted?.toList := by
  unfold recordHighlight Query.replaces Query.highlighted?
  cases query.mode.pattern? with
  | none => simp
  | some pattern =>
      cases query.options.append <;> simp [Pattern.Highlights.record]

/-- A session highlights the patterns of the queries from the last that was not appended, in
order. Asking what is defined in some files changes nothing. -/
theorem highlights_since_replacement :
    (∀ calls : List Call,
      (calls.foldl after empty).highlights.patterns =
        (Query.shown (calls.map (·.query))).filterMap Query.highlighted?) ∧
    ∀ (session : Session) (call : Call) (files : List Text),
      call.query.mode = .fileTags files → session.after call = session := by
  constructor
  · intro calls
    induction calls using List.reverseRecOn with
    | nil => rfl
    | append_singleton calls call ih =>
        have own : [call.query].filterMap Query.highlighted? = call.query.highlighted?.toList := by
          cases found : call.query.highlighted? <;> simp [found]
        rw [List.foldl_concat, after_eq, patterns_recordHighlight, List.map_append,
          List.map_singleton]
        cases replacing : call.query.replaces with
        | true => simp [Query.shown_concat_of_replaces replacing, own]
        | false => simp [Query.shown_concat_of_adds replacing, own, ih]
  · intro session call files listing
    simp [after_eq, recordHighlight, listing, Query.Mode.pattern?]

end Session

end ProjectTags
