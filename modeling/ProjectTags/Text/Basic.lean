/-!
# Text

Paths, patterns, arguments and command output are sequences of characters, and almost every rule
of the library is a rule on such a sequence. `Text` is that sequence as a list, so that a rule is
a recursion on its input; a `String` appears only where text is written as a literal or handed to
the outside.

The file holds the cutting operations used throughout: `splitAt?` at the first occurrence of one
character, `pieces` at every occurrence, `joinWith` as its inverse, and `replaceChar` for the
rules that touch single characters.
-/

namespace ProjectTags

/-- A sequence of characters. -/
abbrev Text := List Char

namespace Text

/-- The pieces of a text between the occurrences of one character; there is always at least one. -/
def pieces (separator : Char) : Text → List Text
  | [] => [[]]
  | c :: rest =>
      if c = separator then [] :: pieces separator rest
      else
        match pieces separator rest with
        | [] => [[c]]
        | piece :: others => (c :: piece) :: others

/-- The texts one after another with a separating text between neighbours. -/
def joinWith (separator : Text) : List Text → Text
  | [] => []
  | [piece] => piece
  | piece :: others => piece ++ separator ++ joinWith separator others

/-- The text before and after the first occurrence of a character, if it occurs. -/
def splitAt? (separator : Char) (text : Text) : Option (Text × Text) :=
  match text.dropWhile (· != separator) with
  | [] => none
  | _ :: rest => some (text.takeWhile (· != separator), rest)

/-- Writes a text in the place of every occurrence of one character. -/
def replaceChar (old : Char) (new : Text) (text : Text) : Text :=
  text.flatMap fun c => if c = old then new else [c]

/-- The text without a given beginning, if it begins so. -/
def dropPrefix? : Text → Text → Option Text
  | [], text => some text
  | _ :: _, [] => none
  | c :: start, d :: text => if c = d then dropPrefix? start text else none

/-- Whether one text occurs in another. -/
def contains (needle : Text) : Text → Bool
  | [] => needle.isEmpty
  | c :: rest => needle.isPrefixOf (c :: rest) || contains needle rest

/-- The text without the trailing characters of a class. -/
def dropWhileEnd (p : Char → Bool) (text : Text) : Text :=
  (text.reverse.dropWhile p).reverse

/-- Whether a text ends in a given one. -/
def endsWith (suffix text : Text) : Bool :=
  suffix.isSuffixOf text

/-- Lower case of the Latin letters; other characters are kept. -/
def toLowerAscii (text : Text) : Text :=
  text.map Char.toLower

/-- Whether all characters of a text have a property is decided on the text, not on all
characters. -/
instance decidableForallMem (text : Text) (holds : Char → Prop) [DecidablePred holds] :
    Decidable (∀ c ∈ text, holds c) :=
  List.decidableBAll holds text

theorem pieces_ne_nil (separator : Char) (text : Text) : pieces separator text ≠ [] := by
  cases text with
  | nil => simp [pieces]
  | cons c rest =>
      simp only [pieces]
      split
      · simp
      · split <;> simp

/-- Cutting at every separator and joining with it gives the text back. -/
theorem joinWith_pieces (separator : Char) (text : Text) :
    joinWith [separator] (pieces separator text) = text := by
  induction text with
  | nil => rfl
  | cons c rest ih =>
      have nonempty := pieces_ne_nil separator rest
      simp only [pieces]
      split
      · next same =>
          subst same
          cases cut : pieces c rest with
          | nil => exact absurd cut nonempty
          | cons piece others =>
              rw [cut] at ih
              simp [joinWith, ih]
      · cases cut : pieces separator rest with
        | nil => exact absurd cut nonempty
        | cons piece others =>
            rw [cut] at ih
            cases others with
            | nil => simpa [joinWith] using ih
            | cons next more => simpa [joinWith] using ih

theorem dropPrefix?_append (start text : Text) : dropPrefix? start (start ++ text) = some text := by
  induction start with
  | nil => rfl
  | cons c start ih => simp [dropPrefix?, ih]

theorem eq_append_of_dropPrefix? {start text rest : Text}
    (dropped : dropPrefix? start text = some rest) : text = start ++ rest := by
  induction start generalizing text with
  | nil => simpa [dropPrefix?] using dropped
  | cons c start ih =>
      cases text with
      | nil => simp [dropPrefix?] at dropped
      | cons d text =>
          simp only [dropPrefix?] at dropped
          split at dropped
          · next same => rw [ih dropped, same, List.cons_append]
          · simp at dropped

end Text

end ProjectTags
