import Mathlib.Logic.Function.Basic
import ProjectTags.Command.Indexer

/-!
# Reading arguments back

A command line has parts that may be missing, one behind the other: a switch that is given or not, a
switch with a value behind it. A part that is there begins with a word of its own, so it can be read
back as long as what stands behind it does not begin with such a word. Parts put together can be
read back if no later one begins like an earlier one, and then only the first word behind all of
them counts. What stands behind a switch as its value may be any text.
-/

namespace ProjectTags.Arguments

/-- Whether the first of some arguments, if there is one, is not of a kind. -/
def Avoids (kind : Text → Prop) (arguments : List Text) : Prop :=
  ∀ first ∈ arguments.head?, ¬kind first

/-- In front of arguments that do not begin with one of a kind, it can be told which value was
written and where that ends. -/
def IsReadable {α : Type} (write : α → List Text) (kind : Text → Prop) : Prop :=
  ∀ ⦃value other : α⦄ ⦃rest others : List Text⦄, Avoids kind rest → Avoids kind others →
    write value ++ rest = write other ++ others → value = other ∧ rest = others

/-- The arguments for a switch that is given or not. -/
def switch (word : Text) (given : Bool) : List Text :=
  if given then [word] else []

/-- The arguments for a switch with a value, if there is one. -/
def valued (word : Text) : Option Text → List Text
  | none => []
  | some value => [word, value]

theorem configurationArguments_eq :
    IndexerOptions.configurationArguments = valued "--gtagsconf".toList := by
  funext configuration
  cases configuration <;> rfl

variable {α β γ : Type} {kind others : Text → Prop} {word : Text} {arguments behind : List Text}
  {write : α → List Text} {writeNext : β → List Text}

@[simp]
theorem avoids_nil : Avoids kind [] := by
  simp [Avoids]

@[simp]
theorem avoids_cons : Avoids kind (word :: arguments) ↔ ¬kind word := by
  simp [Avoids]

theorem Avoids.append (first : Avoids kind arguments) (second : Avoids kind behind) :
    Avoids kind (arguments ++ behind) := by
  cases arguments with
  | nil => exact second
  | cons word arguments => simpa using first

theorem avoids_switch (other : ¬kind word) (given : Bool) : Avoids kind (switch word given) := by
  cases given
  · exact avoids_nil
  · exact avoids_cons.mpr other

theorem avoids_valued (other : ¬kind word) (value : Option Text) :
    Avoids kind (valued word value) := by
  cases value
  · exact avoids_nil
  · exact avoids_cons.mpr other

/-- A part that is at most one word can be read back in front of words that it never is. -/
theorem isReadable_toList {word? : α → Option Text} (injective : Function.Injective word?)
    (own : ∀ value, ∀ word ∈ word? value, kind word) :
    IsReadable (fun value => (word? value).toList) kind := by
  intro value other rest others restAvoids othersAvoid same
  cases given : word? value with
  | none =>
      cases givenOther : word? other with
      | none =>
          simp only [given, givenOther] at same
          exact ⟨injective (given.trans givenOther.symm), same⟩
      | some word =>
          -- The other side would have this word as the first one behind the part.
          simp only [given, givenOther] at same
          subst same
          exact absurd (own other word givenOther) (avoids_cons.mp restAvoids)
  | some word =>
      cases givenOther : word? other with
      | none =>
          simp only [given, givenOther] at same
          subst same
          exact absurd (own value word given) (avoids_cons.mp othersAvoid)
      | some word' =>
          simp only [given, givenOther] at same
          rcases List.cons.inj same with ⟨rfl, ends⟩
          exact ⟨injective (given.trans givenOther.symm), ends⟩

theorem isReadable_switch (word : Text) : IsReadable (switch word) (· = word) := by
  have single : switch word = fun given => (if given then some word else none).toList := by
    funext given
    cases given <;> rfl
  rw [single]
  apply isReadable_toList
  · rintro (_ | _) (_ | _) <;> simp
  · rintro (_ | _) <;> simp

theorem isReadable_valued (word : Text) : IsReadable (valued word) (· = word) := by
  intro value other rest others restAvoids othersAvoid same
  cases value <;> cases other
  · exact ⟨rfl, same⟩
  · subst same
    simp [valued] at restAvoids
  · subst same
    simp [valued] at othersAvoid
  · simpa [valued] using same

theorem IsReadable.comp {part : γ → α} (readable : IsReadable write kind)
    (injective : Function.Injective part) : IsReadable (write ∘ part) kind := by
  intro value other rest others restAvoids othersAvoid same
  rcases readable restAvoids othersAvoid same with ⟨parts, rfl⟩
  exact ⟨injective parts, rfl⟩

/-- A part behind another one can be read back with it if it does not begin like that one. -/
theorem IsReadable.append (first : IsReadable write kind) (second : IsReadable writeNext others)
    (apart : ∀ value, Avoids kind (writeNext value)) :
    IsReadable (fun both : α × β => write both.1 ++ writeNext both.2)
      (fun word => kind word ∨ others word) := by
  rintro ⟨value, next⟩ ⟨value', next'⟩ rest behind restAvoids behindAvoids same
  simp only [List.append_assoc] at same
  have restFirst : Avoids kind rest := fun word mem bad => restAvoids word mem (Or.inl bad)
  have behindFirst : Avoids kind behind := fun word mem bad => behindAvoids word mem (Or.inl bad)
  rcases first ((apart next).append restFirst) ((apart next').append behindFirst) same with
    ⟨rfl, later⟩
  have restSecond : Avoids others rest := fun word mem bad => restAvoids word mem (Or.inr bad)
  have behindSecond : Avoids others behind := fun word mem bad =>
    behindAvoids word mem (Or.inr bad)
  rcases second restSecond behindSecond later with ⟨rfl, rfl⟩
  exact ⟨rfl, rfl⟩

end ProjectTags.Arguments
