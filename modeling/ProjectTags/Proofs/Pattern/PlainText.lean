import ProjectTags.Proofs.Pattern.Highlight

/-!
# Plain text for Vim

Behind the mark for plain text only the backslash means anything: together with the character behind
it, it stands for that character. So such a text splits in one way into characters that stand for
themselves and characters behind backslashes, and reading it takes these backslashes away.

Plain text is carried over by doubling its backslashes. A text that stood in double quotes may have
backslashes in front of quotes in it, and these are left as they are. Read back, they are gone.
-/

namespace ProjectTags.Pattern

/-- A character of a plain text, as it stands there. -/
inductive LiteralSign where
  | plain (c : Char) (bare : c ≠ '\\')
  | escape (c : Char)

namespace LiteralSign

def written : LiteralSign → Text
  | plain c _ => [c]
  | escape c => ['\\', c]

def meant : LiteralSign → Char
  | plain c _ => c
  | escape c => c

/-- A character with a backslash in front if it is one itself. -/
def ofChar (c : Char) : LiteralSign :=
  if slash : c = '\\' then escape c else plain c slash

/-- The characters of a text that stood in double quotes. A quote behind a backslash is one of them,
with its backslash. -/
def ofQuoted : Text → List LiteralSign
  | '\\' :: '"' :: rest => escape '"' :: ofQuoted rest
  | c :: rest => ofChar c :: ofQuoted rest
  | [] => []

end LiteralSign

/-- A text that is read in one way only. The characters behind backslashes are of a given kind, and
the backslashes in front of them are no part of what is meant. -/
def ReadsOnlyAs (escaped text meaning : Text) : Prop :=
  ∃ signs : List LiteralSign,
    signs.flatMap LiteralSign.written = text ∧
      (∀ c, LiteralSign.escape c ∈ signs → c ∈ escaped) ∧
      signs.map LiteralSign.meant = meaning ∧
      ∀ others : List LiteralSign, others.flatMap LiteralSign.written = text → others = signs

/-- The text without the backslashes that stand directly in front of double quotes. -/
def withoutQuoteEscapes : Text → Text
  | [] => []
  | c :: rest =>
      if c = '\\' ∧ rest.head? = some '"' then withoutQuoteEscapes rest
      else c :: withoutQuoteEscapes rest

variable {text rest other escaped : Text} {c d : Char}

namespace LiteralSign

variable {sign second : LiteralSign} {signs others : List LiteralSign}

/-! ## One way to read a text -/

/-- The first character tells whether there is another one that belongs to it. -/
theorem written_append_inj (same : sign.written ++ rest = second.written ++ other) :
    sign = second ∧ rest = other := by
  cases sign with
  | plain c bare =>
      cases second with
      | plain d _ => simpa [written] using same
      | escape d => exact absurd (List.cons.inj same).1 bare
  | escape c =>
      cases second with
      | plain d bare => exact absurd (List.cons.inj same).1.symm bare
      | escape d => simpa [written] using same

theorem written_ne_nil (sign : LiteralSign) : sign.written ≠ [] := by
  cases sign <;> exact List.cons_ne_nil _ _

theorem flatMap_written_injective (same : signs.flatMap written = others.flatMap written) :
    signs = others := by
  induction signs generalizing others with
  | nil =>
      cases others with
      | nil => rfl
      | cons second more => simp [second.written_ne_nil] at same
  | cons sign behind ih =>
      cases others with
      | nil => simp [sign.written_ne_nil] at same
      | cons second more =>
          rw [List.flatMap_cons, List.flatMap_cons] at same
          rcases written_append_inj same with ⟨rfl, later⟩
          rw [ih later]

theorem readsOnlyAs_flatMap (known : ∀ c, escape c ∈ signs → c ∈ escaped) :
    ReadsOnlyAs escaped (signs.flatMap written) (signs.map meant) :=
  ⟨signs, rfl, known, rfl, fun _ same => flatMap_written_injective same⟩

/-! ## What is written -/

theorem written_ofChar (c : Char) :
    (ofChar c).written = if c = '\\' then ['\\', '\\'] else [c] := by
  unfold ofChar
  split
  · next slash => rw [slash]; rfl
  · rfl

theorem meant_ofChar (c : Char) : (ofChar c).meant = c := by
  unfold ofChar
  split <;> rfl

theorem eq_of_escape_eq_ofChar (same : escape d = ofChar c) : d = '\\' := by
  unfold ofChar at same
  split at same
  · next slash => rw [escape.inj same, slash]
  · cases same

theorem escapeLiteral_eq (text : Text) :
    escapeLiteral text = (text.map ofChar).flatMap written := by
  rw [List.flatMap_map]
  exact List.flatMap_congr fun c _ => (written_ofChar c).symm

theorem readsOnlyAs_escapeLiteral (text : Text) :
    ReadsOnlyAs ['\\'] (escapeLiteral text) text := by
  have known : ∀ c, escape c ∈ text.map ofChar → c ∈ ['\\'] := by
    intro c mem
    rcases List.mem_map.mp mem with ⟨d, _, same⟩
    exact List.mem_singleton.mpr (eq_of_escape_eq_ofChar same.symm)
  have meaning : (text.map ofChar).map meant = text := by
    rw [List.map_map]
    exact (List.map_congr_left fun c _ => meant_ofChar c).trans (List.map_id text)
  have reads := readsOnlyAs_flatMap known
  rwa [← escapeLiteral_eq, meaning] at reads

theorem escapeKeepingQuotes_eq (text : Text) :
    escapeKeepingQuotes text = (ofQuoted text).flatMap written := by
  fun_induction ofQuoted text with
  | case1 rest ih =>
      have quote : escapeKeepingQuotes ('"' :: rest) = '"' :: escapeKeepingQuotes rest := by
        simp [escapeKeepingQuotes]
      rw [escapeKeepingQuotes, quote, ih, List.flatMap_cons]
      rfl
  | case2 c rest noEscape ih =>
      rw [List.flatMap_cons, written_ofChar, ← ih]
      by_cases slash : c = '\\'
      · subst slash
        have next : ∀ more, rest ≠ '"' :: more := fun more same => noEscape more rfl same
        rw [if_pos rfl, escapeKeepingQuotes.eq_2 _ next]
        rfl
      · rw [if_neg slash]
        simp [escapeKeepingQuotes]
  | case3 => rfl

theorem meant_ofQuoted (text : Text) : (ofQuoted text).map meant = withoutQuoteEscapes text := by
  fun_induction ofQuoted text with
  | case1 rest ih => simp [withoutQuoteEscapes, meant, ih]
  | case2 c rest noEscape ih =>
      have kept : ¬(c = '\\' ∧ rest.head? = some '"') := by
        rintro ⟨rfl, next⟩
        rcases List.head?_eq_some_iff.mp next with ⟨more, rfl⟩
        exact noEscape more rfl rfl
      rw [List.map_cons, meant_ofChar, withoutQuoteEscapes, if_neg kept, ih]
  | case3 => rfl

theorem escaped_ofQuoted (mem : escape d ∈ ofQuoted text) : d ∈ ['\\', '"'] := by
  fun_induction ofQuoted text with
  | case1 rest ih =>
      rcases List.mem_cons.mp mem with same | later
      · rw [escape.inj same]
        decide
      · exact ih later
  | case2 c rest _ ih =>
      rcases List.mem_cons.mp mem with same | later
      · rw [eq_of_escape_eq_ofChar same]
        decide
      · exact ih later
  | case3 => cases mem

theorem readsOnlyAs_escapeKeepingQuotes (text : Text) :
    ReadsOnlyAs ['\\', '"'] (escapeKeepingQuotes text) (withoutQuoteEscapes text) := by
  have reads : ReadsOnlyAs ['\\', '"'] ((ofQuoted text).flatMap written)
      ((ofQuoted text).map meant) :=
    readsOnlyAs_flatMap fun _ mem => escaped_ofQuoted mem
  rwa [← escapeKeepingQuotes_eq, meant_ofQuoted] at reads

end LiteralSign

/-- What is highlighted for a plain text is read back as that text, without one pair of quotes
around it and without the backslashes that only kept double quotes inside of double quotes. A text
that is carried over as it stands is read back as it stands. -/
theorem highlight_literal_reads_back (ignoreCase textSearch : Bool) (pattern : Text) :
    (∃ quote body text, Wrapped pattern quote body ∧
      highlight ⟨true, ignoreCase, textSearch⟩ pattern =
        veryNomagic ++ caseSwitch ignoreCase ++ text ∧
      if quote = some '"' then ReadsOnlyAs ['\\', '"'] text (withoutQuoteEscapes body)
      else ReadsOnlyAs ['\\'] text body) ∧
    ∃ text, toVim .literal pattern = veryNomagic ++ text ∧ ReadsOnlyAs ['\\'] text pattern := by
  constructor
  · rcases exists_wrapped pattern with ⟨quote, body, wrapped⟩
    have whole := wrapped.highlight_eq ⟨true, ignoreCase, textSearch⟩
    by_cases double : quote = some '"'
    · refine ⟨quote, body, escapeKeepingQuotes body, wrapped, ?_, ?_⟩
      · simpa [double] using whole
      · rw [if_pos double]
        exact LiteralSign.readsOnlyAs_escapeKeepingQuotes body
    · refine ⟨quote, body, escapeLiteral body, wrapped, ?_, ?_⟩
      · simpa [double] using whole
      · rw [if_neg double]
        exact LiteralSign.readsOnlyAs_escapeLiteral body
  · exact ⟨escapeLiteral pattern, rfl, LiteralSign.readsOnlyAs_escapeLiteral pattern⟩

/-- Of two backslashes in front of a quote only the second one belongs to the quote. -/
example : highlight ⟨true, true, false⟩ "\"a\\\\\"\\n\"".toList =
    "\\V\\ca\\\\\\\"\\\\n".toList := by decide

end ProjectTags.Pattern
