import ProjectTags.Text.Decimal
import ProjectTags.Proofs.Pattern.Rules

/-!
# Quantifiers

A pattern is followed through the passes for quantifiers letter by letter. The first three passes
write the signs with a question mark anew, each where it stands. The last pass looks for braces with
a question mark behind, and takes as their opening the first brace that is still open to it: that of
other bounds, or one that an earlier pass has written. What that brace gets is then missing at the
bounds that have the question mark.
-/

namespace ProjectTags

namespace Text

theorem isWordChar_of_isDigit {c : Char} (digit : isDigit c = true) : isWordChar c = true := by
  simp only [isDigit, Bool.and_eq_true, decide_eq_true_eq] at digit
  rcases digit with ⟨least, most⟩
  apply List.any_eq_true.mpr
  refine ⟨(0x30, 0x39), List.mem_cons_self .., ?_⟩
  simp only [Bool.and_eq_true, decide_eq_true_eq]
  exact ⟨least, most⟩

end Text

namespace Pattern

open Substitution

/-! ## Quantified letters -/

/-- The characters of quantifiers, in a search pattern or in Vim. -/
def quantifierSigns : Text :=
  ['*', '+', '?', '{', '}', ',', '-']

/-- A number, as it is written. -/
structure Numeral where
  text : Text
  nonempty : text ≠ []
  digits : ∀ c ∈ text, Text.isDigit c = true

inductive Bounds where
  | exactly (count : Numeral)
  | atLeast (least : Numeral)
  | between (least most : Numeral)

def Bounds.text : Bounds → Text
  | exactly count => count.text
  | atLeast least => least.text ++ [',']
  | between least most => least.text ++ ',' :: most.text

/-- The quantifiers that are one character. -/
inductive Sign where
  | star
  | plus
  | option
  deriving DecidableEq

namespace Sign

def char : Sign → Char
  | star => '*'
  | plus => '+'
  | option => '?'

/-- The bounds that mean the same in Vim. -/
def bounds : Sign → Text
  | star => []
  | plus => ['1', ',']
  | option => ['0', ',', '1']

/-- The rule that writes the reluctant quantifier anew. -/
def rule (sign : Sign) : Substitution :=
  .literal sign.char ['?'] ('{' :: '-' :: (sign.bounds ++ ['}']))

end Sign

inductive Quantifier where
  | single (sign : Sign)
  | range (bounds : Bounds)

/-- How often a letter stands in a row. -/
inductive Count where
  | once
  | greedy (quantifier : Quantifier)
  | reluctant (quantifier : Quantifier)

def Quantifier.written : Quantifier → Text
  | single sign => [sign.char]
  | range bounds => '{' :: (bounds.text ++ ['}'])

/-- The quantifier in Vim if it takes as little as possible. -/
def Quantifier.carried : Quantifier → Text
  | single sign => '{' :: '-' :: (sign.bounds ++ ['}'])
  | range bounds => '{' :: '-' :: (bounds.text ++ ['}'])

/-- What stands behind the letter in a search pattern. -/
def Count.written : Count → Text
  | once => []
  | greedy quantifier => quantifier.written
  | reluctant quantifier => quantifier.written ++ ['?']

/-- What should stand behind the letter in a pattern of Vim. -/
def Count.carried : Count → Text
  | once => []
  | greedy quantifier => quantifier.written
  | reluctant quantifier => quantifier.carried

/-- A letter or digit with its quantifier. -/
structure Item where
  letter : Char
  word : Text.isWordChar letter = true
  count : Count

namespace Item

def written (item : Item) : Text :=
  item.letter :: item.count.written

def carried (item : Item) : Text :=
  item.letter :: item.count.carried

/-- Whether the item has bounds that take as little as possible. -/
def hasReluctantBounds (item : Item) : Bool :=
  match item.count with
  | .reluctant (.range _) => true
  | _ => false

/-- Whether the item has braces of another kind when the last pass begins. -/
def hasOtherBraces (item : Item) : Bool :=
  match item.count with
  | .greedy (.range _) | .reluctant (.single _) => true
  | _ => false

end Item

/-! ## The passes for signs -/

namespace Count

/-- What stands behind the letter after the passes for some of the signs. -/
def partly (done : List Sign) : Count → Text
  | reluctant (.single sign) =>
      if sign ∈ done then (Quantifier.single sign).carried else [sign.char, '?']
  | count => count.written

end Count

def Item.partly (done : List Sign) (item : Item) : Text :=
  item.letter :: item.count.partly done

variable {sign other : Sign} {count : Count} {item : Item} {items : List Item}
  {done : List Sign} {rest : Text}

theorem reluctantStar_eq : reluctantStar = Sign.star.rule := rfl

theorem reluctantPlus_eq : reluctantPlus = Sign.plus.rule := rfl

theorem reluctantOption_eq : reluctantOption = Sign.option.rule := rfl

theorem Numeral.chars (numeral : Numeral) (signs : Text) : Text.Over signs numeral.text :=
  fun c mem => Or.inl (Text.isWordChar_of_isDigit (numeral.digits c mem))

theorem Bounds.chars (bounds : Bounds) : Text.Over [',', '-'] bounds.text := by
  have comma : Text.Over [',', '-'] [','] := Text.over_of_subset (by simp)
  cases bounds with
  | exactly count => exact count.chars _
  | atLeast least => exact (least.chars _).append comma
  | between least most => exact (least.chars _).append (comma.append (most.chars _))

theorem Sign.over_bounds (sign : Sign) : Text.Over [',', '-'] ('-' :: sign.bounds) := by
  have minus : Text.Over [',', '-'] ['-'] := Text.over_of_subset (by simp)
  have comma : Text.Over [',', '-'] [','] := Text.over_of_subset (by simp)
  have zero : Text.Over [',', '-'] ['0'] := Text.over_wordChar (by decide +kernel)
  have one : Text.Over [',', '-'] ['1'] := Text.over_wordChar (by decide +kernel)
  cases sign with
  | star => exact minus
  | plus => exact minus.append (one.append comma)
  | option => exact minus.append (zero.append (comma.append one))

theorem Bounds.over_braced (bounds : Bounds) :
    Text.Over ['{', ',', '-', '}'] ('{' :: (bounds.text ++ ['}'])) := by
  have opened : Text.Over ['{', ',', '-', '}'] ['{'] := Text.over_of_subset (by simp)
  have closed : Text.Over ['{', ',', '-', '}'] ['}'] := Text.over_of_subset (by simp)
  exact opened.append ((bounds.chars.mono _ (by simp)).append closed)

theorem Sign.over_braced (sign : Sign) :
    Text.Over ['{', ',', '-', '}'] (Quantifier.single sign).carried := by
  have opened : Text.Over ['{', ',', '-', '}'] ['{'] := Text.over_of_subset (by simp)
  have closed : Text.Over ['{', ',', '-', '}'] ['}'] := Text.over_of_subset (by simp)
  exact opened.append ((sign.over_bounds.mono _ (by simp)).append closed)

theorem Count.over_partly (count : Count) (done : List Sign) :
    Text.Over quantifierSigns (count.partly done) := by
  have mark : Text.Over quantifierSigns ['?'] := Text.over_of_subset (by decide)
  have signs : ∀ sign : Sign, Text.Over quantifierSigns [sign.char] := by
    intro sign
    cases sign <;> exact Text.over_of_subset (by decide)
  cases count with
  | once => exact Text.over_of_subset (List.nil_subset _)
  | greedy quantifier =>
      cases quantifier with
      | single sign => exact signs sign
      | range bounds => exact bounds.over_braced.mono _ (by decide)
  | reluctant quantifier =>
      cases quantifier with
      | single sign =>
          rw [partly]
          split
          · exact sign.over_braced.mono _ (by decide)
          · exact (signs sign).append mark
      | range bounds => exact (bounds.over_braced.mono _ (by decide)).append mark

theorem Sign.char_injective {sign other : Sign} (same : sign.char = other.char) : sign = other := by
  cases sign <;> cases other <;> first | rfl | exact absurd same (by decide)

theorem Sign.needs_rule (sign : Sign) : sign.rule.Needs [sign.char, '?'] :=
  needs_literal _ _ _

namespace Sign

theorem everywhere_cons (sign : Sign) {c : Char} (next : rest.head? ≠ some '?') :
    sign.rule.everywhere (c :: rest) = c :: sign.rule.everywhere rest := by
  apply everywhere_cons_of_none
  apply sign.needs_rule.front_eq_none
  intro start
  rcases (List.cons_prefix_cons.mp start).2 with ⟨tail, rfl⟩
  exact next rfl

/-- The pass for one sign. -/
theorem everywhere_partly (sign : Sign) (count : Count) (next : rest.head? ≠ some '?') :
    sign.rule.everywhere (count.partly done ++ rest) =
      count.partly (sign :: done) ++ sign.rule.everywhere rest := by
  cases count with
  | once => rfl
  | greedy quantifier =>
      cases quantifier with
      | single other => exact sign.everywhere_cons next
      | range bounds =>
          exact sign.needs_rule.everywhere_append_of_second
            (bounds.over_braced.not_mem (by decide) (by decide)) next
  | reluctant quantifier =>
      cases quantifier with
      | single other =>
          by_cases already : other ∈ done
          · have absent : '?' ∉ (Quantifier.single other).carried := by
              cases other <;> simp [Quantifier.carried, bounds]
            simpa [Count.partly, already] using
              sign.needs_rule.everywhere_append_of_second absent next
          · by_cases same : other = sign
            · subst same
              have passed : other.rule.everywhere (other.char :: '?' :: rest) =
                  '{' :: '-' :: (other.bounds ++ ['}']) ++ other.rule.everywhere rest :=
                everywhere_literal other.char ['?'] ('{' :: '-' :: (other.bounds ++ ['}'])) rest
              simpa [Count.partly, already, Quantifier.carried] using passed
            · have misses : sign.rule.front (other.char :: '?' :: rest) = none := by
                apply sign.needs_rule.front_eq_none
                intro start
                exact same (char_injective (List.cons_prefix_cons.mp start).1.symm)
              have mark := sign.everywhere_cons (c := '?') next
              simpa [Count.partly, already, same, mark] using everywhere_cons_of_none misses
      | range bounds =>
          have inner : sign.rule.everywhere ('{' :: (bounds.text ++ ['}']) ++ '?' :: rest) =
              '{' :: (bounds.text ++ ['}']) ++ sign.rule.everywhere ('?' :: rest) := by
            apply sign.needs_rule.everywhere_append
            cases sign <;> exact bounds.over_braced.not_mem (by decide) (by decide)
          rw [sign.everywhere_cons next] at inner
          simpa [Count.partly, Count.written, Quantifier.written] using inner

end Sign

namespace Item

theorem over_partly (item : Item) (done : List Sign) :
    Text.Over quantifierSigns (item.partly done) :=
  (Text.over_wordChar item.word).append (item.count.over_partly done)

/-- Each item begins with its letter. -/
theorem head?_flatMap (begins : Item → Text) (items : List Item) :
    (items.flatMap fun item => item.letter :: begins item).head? ≠ some '?' := by
  cases items with
  | nil => simp
  | cons item others =>
      intro same
      apply Text.not_mem_wordChar item.word '?' (by decide)
      simpa using same.symm

theorem everywhere_partly (sign : Sign) (done : List Sign) (items : List Item) :
    sign.rule.everywhere (items.flatMap (partly done)) = items.flatMap (partly (sign :: done)) := by
  induction items with
  | nil => rfl
  | cons item others ih =>
      have next : (others.flatMap (partly done)).head? ≠ some '?' := head?_flatMap _ others
      have letter : sign.char ∉ [item.letter] := by
        apply Text.not_mem_wordChar item.word
        cases sign <;> decide
      have first : sign.rule.everywhere
          ([item.letter] ++ (item.count.partly done ++ others.flatMap (partly done))) =
            [item.letter] ++ sign.rule.everywhere
              (item.count.partly done ++ others.flatMap (partly done)) :=
        sign.needs_rule.everywhere_append letter
      rw [sign.everywhere_partly item.count next, ih] at first
      exact first

end Item

/-! ## The pass for bounds -/

/-- What stands behind a letter when the last pass begins. -/
inductive Braces where
  /-- There are no braces. -/
  | absent (text : Text) (chars : Text.Over ['*', '+', '?'] text)
  | closed (inside : Text) (chars : Text.Over [',', '-'] inside)
  /-- The braces have a question mark behind. -/
  | marked (inside : Text) (chars : Text.Over [',', '-'] inside)

namespace Braces

def text : Braces → Text
  | absent text _ => text
  | closed inside _ => '{' :: (inside ++ ['}'])
  | marked inside _ => '{' :: (inside ++ ['}', '?'])

/-- What should be made of it. -/
def carried : Braces → Text
  | absent text _ => text
  | closed inside _ => '{' :: (inside ++ ['}'])
  | marked inside _ => '{' :: '-' :: (inside ++ ['}'])

def isMarked : Braces → Bool
  | marked _ _ => true
  | absent _ _ | closed _ _ => false

def isClosed : Braces → Bool
  | closed _ _ => true
  | absent _ _ | marked _ _ => false

end Braces

/-- What the passes for signs make of a quantifier. -/
def Count.braces : Count → Braces
  | once => .absent [] (Text.over_of_subset (by simp))
  | greedy (.single sign) => .absent [sign.char] (by cases sign <;> simp [Text.Over, Sign.char])
  | greedy (.range bounds) => .closed bounds.text bounds.chars
  | reluctant (.single sign) => .closed ('-' :: sign.bounds) sign.over_bounds
  | reluctant (.range bounds) => .marked bounds.text bounds.chars

namespace Item

/-- The item when the last pass begins. -/
def settled (item : Item) : Text :=
  item.letter :: item.count.braces.text

/-- What the last pass makes of the items, inside braces that it copies or elsewhere. -/
def emitted (copying : Bool) : List Item → Text
  | [] => []
  | item :: others =>
      item.letter :: match item.count.braces with
        | .absent text _ => text ++ emitted copying others
        | .closed inside _ =>
            -- These braces are the opening for the next ones with a question mark.
            if !copying && others.any hasReluctantBounds then
              '{' :: '-' :: (inside ++ '}' :: emitted true others)
            else '{' :: (inside ++ '}' :: emitted copying others)
        | .marked inside _ =>
            if copying then '{' :: (inside ++ '}' :: emitted false others)
            else '{' :: '-' :: (inside ++ '}' :: emitted false others)

theorem partly_nil (item : Item) : item.partly [] = item.written := by
  rcases item with ⟨letter, word, count⟩
  cases count with
  | once => rfl
  | greedy quantifier => rfl
  | reluctant quantifier => cases quantifier <;> rfl

theorem partly_all (item : Item) : item.partly [.option, .plus, .star] = item.settled := by
  rcases item with ⟨letter, word, count⟩
  cases count with
  | once => rfl
  | greedy quantifier => cases quantifier <;> rfl
  | reluctant quantifier =>
      cases quantifier with
      | single sign => cases sign <;> rfl
      | range bounds => simp [partly, settled, Count.partly, Count.braces, Count.written,
          Quantifier.written, Braces.text]

theorem carried_eq (item : Item) : item.carried = item.letter :: item.count.braces.carried := by
  rcases item with ⟨letter, word, count⟩
  cases count with
  | once => rfl
  | greedy quantifier => cases quantifier <;> rfl
  | reluctant quantifier => cases quantifier <;> rfl

theorem hasReluctantBounds_eq (item : Item) :
    item.hasReluctantBounds = item.count.braces.isMarked := by
  rcases item with ⟨letter, word, count⟩
  cases count with
  | once => rfl
  | greedy quantifier => cases quantifier <;> rfl
  | reluctant quantifier => cases quantifier <;> rfl

theorem hasOtherBraces_eq (item : Item) : item.hasOtherBraces = item.count.braces.isClosed := by
  rcases item with ⟨letter, word, count⟩
  cases count with
  | once => rfl
  | greedy quantifier => cases quantifier <;> rfl
  | reluctant quantifier => cases quantifier <;> rfl

theorem over_settled (item : Item) :
    Text.Over quantifierSigns item.settled := by
  rw [← partly_all]
  exact item.over_partly _

/-- Without reluctant bounds no question mark stands behind a brace. -/
theorem settled_apart (unmarked : items.any hasReluctantBounds = false) :
    ¬['}', '?'] <:+: items.flatMap settled := by
  have chain : (items.flatMap settled).IsChain fun a b => a = '}' → b ≠ '?' := by
    induction items with
    | nil => exact .nil
    | cons item others ih =>
        rw [List.any_cons, Bool.or_eq_false_iff, hasReluctantBounds_eq] at unmarked
        have letter : ∀ sign ∈ ['}', '?'], item.letter ≠ sign := by
          intro sign listed same
          have signs : ['}', '?'] ⊆ Text.patternSigns := by decide
          exact Text.not_mem_wordChar item.word sign (signs listed) (by simp [same])
        have inItem : '}' ∉ item.settled ∨ '?' ∉ item.settled := by
          unfold settled
          cases braces : item.count.braces with
          | absent text chars =>
              left
              have inText : '}' ∉ text := chars.not_mem (by decide) (by decide)
              simpa [Braces.text, inText] using (letter '}' (by decide)).symm
          | closed inside chars =>
              right
              have inText : '?' ∉ inside := chars.not_mem (by decide) (by decide)
              simpa [Braces.text, inText] using (letter '?' (by decide)).symm
          | marked inside chars => simp [braces, Braces.isMarked] at unmarked
        apply List.isChain_append.mpr
        refine ⟨(List.pairwise_of_forall_mem_list ?_).isChain, ih unmarked.2, ?_⟩
        · rintro a memA b memB rfl rfl
          exact inItem.elim (· memA) (· memB)
        · rintro a _ b next _ rfl
          exact head?_flatMap _ others next
  intro inside
  have pair := List.IsChain.infix chain inside
  simp at pair

end Item

/-- Braces with a question mark behind. -/
def markedBraces : Enclosure := ⟨['{'], ['}', '?'], true⟩

/-- The last pass, inside braces that it copies or elsewhere. -/
def boundsFrom (copying : Bool) : Text → Text :=
  markedBraces.passing ['{', '-'] ['}'] copying

theorem reluctantBounds_eq_boundsFrom : reluctantBounds.everywhere = boundsFrom false := rfl

section Pass

variable {inside : Text} {copying : Bool}

theorem boundsFrom_append {chunk : Text} (noOpening : '{' ∉ chunk) (noClose : '}' ∉ chunk) :
    boundsFrom copying (chunk ++ rest) = chunk ++ boundsFrom copying rest :=
  markedBraces.passing_append rfl noOpening rfl noClose

/-- Behind an opening all up to the closing text is copied. -/
theorem boundsFrom_opening (reached : (upTo? ['}', '?'] rest).isSome) :
    boundsFrom false ('{' :: rest) = '{' :: '-' :: boundsFrom true rest :=
  markedBraces.everywhere_opening (by decide) (by decide) reached
    (Or.inl rfl)

theorem boundsFrom_opening_of_absent (absent : ¬['}', '?'] <:+: '{' :: rest) :
    boundsFrom false ('{' :: rest) = '{' :: boundsFrom false rest :=
  everywhere_cons_of_none (markedBraces.front_of_no_close absent)

/-- An opening that is copied is one character of many. -/
theorem boundsFrom_opening_of_copying :
    boundsFrom true ('{' :: rest) = '{' :: boundsFrom true rest :=
  have noClose : '}' ∉ ['{'] := by decide
  markedBraces.closing_append rfl noClose

theorem boundsFrom_closed (chars : Text.Over [',', '-'] inside) (next : rest.head? ≠ some '?') :
    boundsFrom copying (inside ++ '}' :: rest) = inside ++ '}' :: boundsFrom copying rest := by
  rw [boundsFrom_append (chars.not_mem (by decide) (by decide))
    (chars.not_mem (by decide) (by decide))]
  cases copying with
  | false =>
      have needs := markedBraces.needs_substitution ['{', '-'] ['}']
      have passed : boundsFrom false (['}'] ++ rest) = ['}'] ++ boundsFrom false rest :=
        needs.everywhere_append (by decide)
      exact congrArg (inside ++ ·) passed
  | true =>
      have apart : ¬['}', '?'] <+: '}' :: rest := by
        intro start
        rcases (List.cons_prefix_cons.mp start).2 with ⟨tail, rfl⟩
        exact next rfl
      have passed : boundsFrom true ('}' :: rest) = '}' :: boundsFrom true rest :=
        markedBraces.closing_cons_of_not_close apart
      exact congrArg (inside ++ ·) passed

/-- The closing text loses its question mark. -/
theorem boundsFrom_marked (chars : Text.Over [',', '-'] inside) :
    boundsFrom true (inside ++ '}' :: '?' :: rest) = inside ++ '}' :: boundsFrom false rest := by
  rw [boundsFrom_append (chars.not_mem (by decide) (by decide))
    (chars.not_mem (by decide) (by decide))]
  have passed : boundsFrom true (['}', '?'] ++ rest) = ['}'] ++ boundsFrom false rest :=
    markedBraces.closing_close (by decide) rest
  exact congrArg (inside ++ ·) passed

end Pass

namespace Item

/-- The closing text of bounds further on is on the same line. -/
theorem isSome_upTo?_settled {chunk : Text} (sameLine : '\n' ∉ chunk)
    (marked : items.any hasReluctantBounds = true) :
    (upTo? ['}', '?'] (chunk ++ items.flatMap settled)).isSome := by
  rcases List.any_eq_true.mp marked with ⟨item, mem, itemMarked⟩
  rcases List.append_of_mem mem with ⟨front, back, rfl⟩
  rw [hasReluctantBounds_eq] at itemMarked
  cases braces : item.count.braces with
  | absent text chars => simp [braces, Braces.isMarked] at itemMarked
  | closed inside chars => simp [braces, Braces.isMarked] at itemMarked
  | marked inside chars =>
      let before := chunk ++ (front.flatMap settled ++ item.letter :: '{' :: inside)
      have split : chunk ++ (front ++ item :: back).flatMap settled =
          before ++ (['}', '?'] ++ back.flatMap settled) := by
        simp [before, settled, braces, Braces.text]
      have frontLine : '\n' ∉ front.flatMap settled :=
        (Text.over_flatMap fun item _ => item.over_settled).not_mem (by decide) (by decide)
      have letterLine := Text.not_mem_wordChar item.word '\n' (by decide)
      have insideLine : '\n' ∉ inside := chars.not_mem (by decide) (by decide)
      rw [split]
      apply isSome_upTo? _ (by decide)
      simp_all [before]

/-- At braces without a question mark the pass finds an opening if it copies nothing yet and there
is a closing text further on. -/
theorem boundsFrom_closed_braces {inside : Text} {chars : Text.Over [',', '-'] inside}
    (braces : item.count.braces = .closed inside chars) (others : List Item) (copying : Bool) :
    boundsFrom copying ('{' :: (inside ++ '}' :: others.flatMap settled)) =
      if !copying && others.any hasReluctantBounds then
        '{' :: '-' :: (inside ++ '}' :: boundsFrom true (others.flatMap settled))
      else '{' :: (inside ++ '}' :: boundsFrom copying (others.flatMap settled)) := by
  have next : (others.flatMap settled).head? ≠ some '?' := head?_flatMap _ others
  cases copying with
  | true =>
      rw [boundsFrom_opening_of_copying, boundsFrom_closed chars next]
      rfl
  | false =>
      cases marked : others.any hasReluctantBounds with
      | true =>
          have wider := chars.mono [',', '-', '}'] (by simp)
          have sameLine : '\n' ∉ inside ++ ['}'] :=
            (wider.append (Text.over_of_subset (by simp))).not_mem (by decide) (by decide)
          have found := isSome_upTo?_settled sameLine marked
          rw [List.append_assoc, List.singleton_append] at found
          rw [boundsFrom_opening found, boundsFrom_closed chars next]
          rfl
      | false =>
          have unmarked : (item :: others).any hasReluctantBounds = false := by
            rw [List.any_cons, hasReluctantBounds_eq, braces, marked]
            rfl
          have whole : (item :: others).flatMap settled =
              item.letter :: '{' :: (inside ++ '}' :: others.flatMap settled) := by
            simp [settled, braces, Braces.text]
          have absent : ¬['}', '?'] <:+: '{' :: (inside ++ '}' :: others.flatMap settled) := by
            intro inText
            apply settled_apart unmarked
            rw [whole]
            exact inText.trans (List.suffix_cons _ _).isInfix
          rw [boundsFrom_opening_of_absent absent, boundsFrom_closed chars next]
          rfl

/-- Braces with a question mark end the copying. -/
theorem boundsFrom_marked_braces {inside : Text} (chars : Text.Over [',', '-'] inside)
    (rest : Text) (copying : Bool) :
    boundsFrom copying ('{' :: (inside ++ '}' :: '?' :: rest)) =
      if copying then '{' :: (inside ++ '}' :: boundsFrom false rest)
      else '{' :: '-' :: (inside ++ '}' :: boundsFrom false rest) := by
  cases copying with
  | true =>
      rw [boundsFrom_opening_of_copying, boundsFrom_marked chars]
      rfl
  | false =>
      have sameLine : '\n' ∉ inside := chars.not_mem (by decide) (by decide)
      have found := isSome_upTo? ['}', '?'] (by decide) sameLine rest
      have opened := boundsFrom_opening found
      simp only [List.cons_append, List.nil_append] at opened
      rw [opened, boundsFrom_marked chars]
      rfl

/-- The last pass along the items. -/
theorem boundsFrom_settled (items : List Item) (copying : Bool)
    (reached : copying = true → items.any hasReluctantBounds = true) :
    boundsFrom copying (items.flatMap settled) = emitted copying items := by
  induction items generalizing copying with
  | nil =>
      cases copying with
      | false => rfl
      | true => simp at reached
  | cons item others ih =>
      have letter : ∀ text, boundsFrom copying (item.letter :: text) =
          item.letter :: boundsFrom copying text := fun text =>
        boundsFrom_append (Text.not_mem_wordChar item.word _ (by decide))
          (Text.not_mem_wordChar item.word _ (by decide))
      rw [List.any_cons, hasReluctantBounds_eq] at reached
      rw [List.flatMap_cons, settled, List.cons_append, letter, emitted]
      cases braces : item.count.braces with
      | absent text chars =>
          simp only [braces, Braces.isMarked, Bool.false_or] at reached
          rw [Braces.text, boundsFrom_append (chars.not_mem (by decide) (by decide))
            (chars.not_mem (by decide) (by decide)), ih copying reached]
      | closed inside chars =>
          simp only [braces, Braces.isMarked, Bool.false_or] at reached
          simp only [Braces.text, List.cons_append, List.append_assoc, List.nil_append,
            boundsFrom_closed_braces braces]
          congr 1
          -- A pass that begins to copy here has an end of the copying further on.
          split
          · next opens =>
              rw [Bool.and_eq_true] at opens
              rw [ih true fun _ => opens.2]
          · rw [ih copying reached]
      | marked inside chars =>
          simp only [Braces.text, List.cons_append, List.append_assoc, List.nil_append,
            boundsFrom_marked_braces chars, ih false (by simp)]

/-! ## The whole pattern -/

theorem over_emitted (items : List Item) (copying : Bool) :
    Text.Over quantifierSigns (emitted copying items) := by
  induction items generalizing copying with
  | nil => exact Text.over_of_subset (List.nil_subset _)
  | cons item others ih =>
      have letter : Text.Over quantifierSigns [item.letter] :=
        Text.over_wordChar item.word
      have opened : Text.Over quantifierSigns ['{'] := Text.over_of_subset (by decide)
      have reluctant : Text.Over quantifierSigns ['{', '-'] := Text.over_of_subset (by decide)
      have closed : Text.Over quantifierSigns ['}'] := Text.over_of_subset (by decide)
      rw [emitted]
      apply letter.append
      cases braces : item.count.braces with
      | absent text chars => exact (chars.mono _ (by decide)).append (ih copying)
      | closed inside chars =>
          have inner := chars.mono quantifierSigns (by decide)
          dsimp only
          split
          · exact reluctant.append (inner.append (closed.append (ih true)))
          · exact opened.append (inner.append (closed.append (ih copying)))
      | marked inside chars =>
          have inner := chars.mono quantifierSigns (by decide)
          dsimp only
          split
          · exact opened.append (inner.append (closed.append (ih false)))
          · exact reluctant.append (inner.append (closed.append (ih false)))

/-- The passes for quantifiers along the items. -/
theorem reluctantQuantifiers_written (items : List Item) :
    reluctantQuantifiers (items.flatMap written) = emitted false items := by
  have plain : ∀ done, '\\' ∉ items.flatMap (partly done) := fun done =>
    (Text.over_flatMap fun item _ => item.over_partly done).not_mem (by decide) (by decide)
  have start : items.flatMap written = items.flatMap (partly []) := by
    rw [funext partly_nil]
  have signs : items.flatMap (partly [.option, .plus, .star]) = items.flatMap settled := by
    rw [funext partly_all]
  rw [reluctantQuantifiers, start, unescaped_eq_everywhere _ (plain []), reluctantStar_eq,
    everywhere_partly, unescaped_eq_everywhere _ (plain _), reluctantPlus_eq, everywhere_partly,
    unescaped_eq_everywhere _ (plain _), reluctantOption_eq, everywhere_partly,
    unescaped_eq_everywhere _ (plain _), signs, reluctantBounds_eq_boundsFrom,
    boundsFrom_settled items false (by simp)]

theorem toVim_written (items : List Item) :
    toVim .regular (items.flatMap written) = veryMagic ++ emitted false items := by
  have chars : Text.Over _ (items.flatMap (partly [])) :=
    Text.over_flatMap fun item _ => item.over_partly []
  rw [funext partly_nil] at chars
  have overEmitted := over_emitted items false
  have plain : '\\' ∉ emitted false items := overEmitted.not_mem (by decide) (by decide)
  have noBracket : '[' ∉ emitted false items := overEmitted.not_mem (by decide) (by decide)
  have noGroup : '(' ∉ emitted false items := overEmitted.not_mem (by decide) (by decide)
  rw [toVim_regular, vimOperator_eq_of_over chars (by decide),
    reluctantQuantifiers_written, laterRules_eq (free_escapes plain)
      (Text.not_infix (by simp) noGroup) (Text.not_infix (by simp) noBracket)]

/-! ## Items one by one -/

/-- A minus sign in front of the inside of braces cannot be missed. -/
theorem shifted_ne {inside rest others : Text} (chars : Text.Over [',', '-'] inside) :
    '-' :: (inside ++ '}' :: rest) ≠ inside ++ '}' :: others := by
  have minus : Text.Over [',', '-'] ['-'] := Text.over_of_subset (by simp)
  have before : ∀ text, Text.Over [',', '-'] text → ∀ c ∈ text, decide (c ≠ '}') = true := by
    intro text textOver c mem
    have absent : '}' ∉ text := textOver.not_mem (by decide) (by decide)
    simpa using fun same : c = '}' => absent (same ▸ mem)
  intro same
  have parts := congrArg (List.takeWhile (· ≠ '}')) same
  rw [Text.takeWhile_of_stop (before inside chars) (by simp), ← List.cons_append,
    Text.takeWhile_of_stop (before ('-' :: inside) (minus.append chars)) (by simp)] at parts
  simpa using congrArg List.length parts

theorem emitted_eq_flatMap_iff (items : List Item) :
    emitted false items = items.flatMap carried ↔
      items.Pairwise fun earlier later =>
        earlier.hasOtherBraces = true → later.hasReluctantBounds = false := by
  induction items with
  | nil => simp [emitted]
  | cons item others ih =>
      rw [List.pairwise_cons, List.flatMap_cons, carried_eq, hasOtherBraces_eq, emitted, ← ih]
      cases braces : item.count.braces with
      | absent text chars => simp [Braces.carried, Braces.isClosed]
      | marked inside chars => simp [Braces.carried, Braces.isClosed]
      | closed inside chars =>
          cases marked : others.any hasReluctantBounds with
          | true =>
              rcases List.any_eq_true.mp marked with ⟨later, mem, laterMarked⟩
              constructor
              · intro same
                have shifted := (List.cons.inj (List.cons.inj same).2).2
                exact absurd (by simpa using shifted) (shifted_ne chars)
              · rintro ⟨unmarked, _⟩
                have later := unmarked later mem rfl
                simp [laterMarked] at later
          | false =>
              have unmarked : ∀ later ∈ others, later.hasReluctantBounds = false := by
                simpa using marked
              constructor
              · intro same
                refine ⟨fun later mem _ => unmarked later mem, ?_⟩
                have inner := (List.cons.inj (List.cons.inj same).2).2
                simpa using inner
              · rintro ⟨_, same⟩
                rw [same]
                simp [Braces.carried]

/-- The items are carried over one by one, except that braces which are not those of reluctant
bounds take the minus sign from the reluctant bounds after them. So all is as it should be just if
no reluctant bounds come after other braces: those of greedy bounds or of a reluctant sign. -/
theorem toVim_quantifiers (items : List Item) :
    toVim .regular (items.flatMap written) = veryMagic ++ emitted false items ∧
      (toVim .regular (items.flatMap written) = veryMagic ++ items.flatMap carried ↔
        items.Pairwise fun earlier later =>
          earlier.hasOtherBraces = true → later.hasReluctantBounds = false) := by
  refine ⟨toVim_written items, ?_⟩
  rw [toVim_written, List.append_cancel_left_eq]
  exact emitted_eq_flatMap_iff items

/-- Reluctant bounds after greedy ones: `a{2}b{3}?`. -/
def mixed : List Item :=
  [⟨'a', Text.isWordChar_a,
      .greedy (.range (.exactly ⟨['2'], by decide, List.all_eq_true.mp (by decide)⟩))⟩,
    ⟨'b', Text.isWordChar_b,
      .reluctant (.range (.exactly ⟨['3'], by decide, List.all_eq_true.mp (by decide)⟩))⟩]

/-- The first bounds get the minus sign that belongs to the second. -/
theorem toVim_mixed :
    toVim .regular (mixed.flatMap written) = veryMagic ++ "a\x7b-2\x7db\x7b3\x7d".toList ∧
      mixed.flatMap carried = "a\x7b2\x7db\x7b-3\x7d".toList := by
  constructor
  · rw [toVim_written]
    rfl
  · rfl

end Item

end Pattern

end ProjectTags
