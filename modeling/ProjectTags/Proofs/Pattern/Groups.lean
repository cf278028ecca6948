import ProjectTags.Proofs.Pattern.Rules

/-!
# Groups

Groups nest to any depth, and each group is written anew by its opening alone. Names are taken out
of all openings. The opening of a group that captures nothing is written together with its body,
up to the first closing parenthesis, and a pass does not look into a body. So such an opening is
kept as it is if another one stands in front of it with no closing parenthesis between the two.
-/

namespace ProjectTags.Pattern

open Substitution

/-- The name of a group. -/
structure GroupName where
  text : Text
  nonempty : text ≠ []
  word : ∀ c ∈ text, Text.isWordChar c = true

/-- How a group begins. -/
inductive Opening where
  | capturing
  /-- The group captures nothing. -/
  | bare
  /-- The group has a name, with or without the letter `P` in front. -/
  | named (letter : Bool) (name : GroupName)

namespace Opening

/-- The opening in a search pattern. -/
def written : Opening → Text
  | capturing => ['(']
  | bare => ['(', '?', ':']
  | named letter name => ['(', '?'] ++ (if letter then ['P'] else []) ++ '<' :: (name.text ++ ['>'])

/-- The opening in a pattern of Vim. -/
def inVim : Opening → Text
  | bare => ['%', '(']
  | capturing | named _ _ => ['(']

/-- The opening without its name. -/
def unnamed : Opening → Text
  | bare => ['(', '?', ':']
  | capturing | named _ _ => ['(']

def isBare : Opening → Bool
  | bare => true
  | capturing | named _ _ => false

/-- What becomes of the opening, inside a body that is copied or elsewhere. -/
def emitted (copying : Bool) (opening : Opening) : Text :=
  if copying then opening.unnamed else opening.inVim

end Opening

/-- A pattern of letters, bars between alternatives and groups. -/
inductive Tree where
  | letter (c : Char) (word : Text.isWordChar c = true)
  | bar
  | append (left right : Tree)
  | group (opening : Opening) (body : Tree)

namespace Tree

/-- The text of a pattern whose groups are opened in some way. -/
def printed (opener : Opening → Text) : Tree → Text
  | letter c _ => [c]
  | bar => ['|']
  | append left right => left.printed opener ++ right.printed opener
  | group opening body => opener opening ++ (body.printed opener ++ [')'])

def hasGroup : Tree → Bool
  | letter _ _ | bar => false
  | append left right => left.hasGroup || right.hasGroup
  | group _ _ => true

/-- Whether a group that captures nothing begins before any group has ended. -/
def opensBare : Tree → Bool
  | letter _ _ | bar => false
  | append left right => left.opensBare || (!left.hasGroup && right.opensBare)
  | group opening body => opening.isBare || body.opensBare

/-- Whether no group that captures nothing begins inside another one before any group has ended
there. -/
def isApart : Tree → Bool
  | letter _ _ | bar => true
  | append left right => left.isApart && right.isApart
  | group opening body => body.isApart && !(opening.isBare && body.opensBare)

/-- What is made of a pattern that begins inside a body that is copied, or elsewhere. -/
def emitted (copying : Bool) : Tree → Text
  | letter c _ => [c]
  | bar => ['|']
  | append left right => left.emitted copying ++ right.emitted (copying && !left.hasGroup)
  | group opening body =>
      opening.emitted copying ++ (body.emitted (copying || opening.isBare) ++ [')'])

end Tree

variable {opener : Opening → Text} {opening : Opening} {tree : Tree} {rest signs : Text}
  {copying : Bool}

/-! ## The characters of a pattern -/

theorem GroupName.chars (name : GroupName) (signs : Text) : Text.Over signs name.text :=
  fun c mem => Or.inl (name.word c mem)

theorem Opening.over_written (opening : Opening) :
    Text.Over ['(', '?', ':', '<', '>'] opening.written := by
  cases opening with
  | capturing => exact Text.over_of_subset (by simp [written])
  | bare => exact Text.over_of_subset (by simp [written])
  | named letter name =>
      have letterOver : Text.Over ['(', '?', ':', '<', '>'] (if letter then ['P'] else []) := by
        cases letter with
        | true => exact Text.over_wordChar (by decide +kernel)
        | false => exact Text.over_of_subset (by simp)
      have mark : Text.Over ['(', '?', ':', '<', '>'] ['(', '?'] := Text.over_of_subset (by simp)
      have less : Text.Over ['(', '?', ':', '<', '>'] ['<'] := Text.over_of_subset (by simp)
      have greater : Text.Over ['(', '?', ':', '<', '>'] ['>'] := Text.over_of_subset (by simp)
      exact (mark.append letterOver).append (less.append ((name.chars _).append greater))

theorem Opening.over_unnamed (opening : Opening) :
    Text.Over ['(', '?', ':'] opening.unnamed := by
  cases opening <;> exact Text.over_of_subset (by simp [unnamed])

theorem Opening.over_inVim (opening : Opening) : Text.Over ['%', '('] opening.inVim := by
  cases opening <;> exact Text.over_of_subset (by simp [inVim])

theorem Opening.follows_written (opening : Opening) :
    Text.Follows '?' [':', 'P', '<'] opening.written := by
  cases opening with
  | capturing => exact Text.follows_of_not_mem (by simp [written])
  | bare => exact ⟨by simp [written], by simp [written]⟩
  | named letter name =>
      have noQuestion : '?' ∉ name.text ++ ['>'] :=
        ((name.chars ['>']).append (Text.over_of_subset (by simp))).not_mem (by decide) (by decide)
      have front : Text.Follows '?' [':', 'P', '<']
          (['(', '?'] ++ (if letter then ['P'] else []) ++ ['<']) := by
        cases letter <;> exact ⟨by simp, by simp⟩
      simpa [written] using front.append (Text.follows_of_not_mem noQuestion)

namespace Tree

theorem over_printed (each : ∀ opening, Text.Over signs (opener opening))
    (signsOf : ['|', ')'] ⊆ signs) : Text.Over signs (tree.printed opener) := by
  induction tree with
  | letter c word => exact Text.over_wordChar word
  | bar =>
      have bar : Text.Over ['|', ')'] ['|'] := Text.over_of_subset (by simp)
      exact bar.mono _ signsOf
  | append left right ihLeft ihRight => exact ihLeft.append ihRight
  | group opening body ih =>
      have close : Text.Over ['|', ')'] [')'] := Text.over_of_subset (by simp)
      exact (each opening).append (ih.append (close.mono _ signsOf))

theorem follows_printed (tree : Tree) :
    Text.Follows '?' [':', 'P', '<'] (tree.printed Opening.written) := by
  induction tree with
  | letter c word => exact Text.follows_of_not_mem (Text.not_mem_wordChar word _ (by decide))
  | bar => exact Text.follows_of_not_mem (by decide)
  | append left right ihLeft ihRight => exact ihLeft.append ihRight
  | group opening body ih =>
      have close : Text.Follows '?' [':', 'P', '<'] [')'] := Text.follows_of_not_mem (by decide)
      exact opening.follows_written.append (ih.append close)

/-- A pattern begins with a letter, a bar or a group. -/
theorem head?_printed (tree : Tree) (opens : ∀ opening, (opener opening).head? = some '(')
    {sign : Char} (isSign : sign ∈ ['?', ')']) (rest : Text) :
    (tree.printed opener ++ rest).head? ≠ some sign := by
  induction tree generalizing rest with
  | letter c word =>
      intro same
      simp only [printed, List.cons_append, List.head?_cons, Option.some.injEq] at same
      have signs : ['?', ')'] ⊆ Text.patternSigns := by decide
      exact Text.not_mem_wordChar word sign (signs isSign) (by simp [same])
  | bar =>
      intro same
      simp only [printed, List.cons_append, List.head?_cons, Option.some.injEq] at same
      subst same
      exact absurd isSign (by decide)
  | append left right ihLeft ihRight =>
      rw [printed, List.append_assoc]
      exact ihLeft _
  | group opening body ih =>
      rw [printed, List.append_assoc, List.head?_append, opens opening]
      intro same
      simp only [Option.some_or, Option.some.injEq] at same
      subst same
      exact absurd isSign (by decide)

/-! ## Names -/

theorem groupName?_eq (name : GroupName) (rest : Text) :
    groupName? ('<' :: (name.text ++ '>' :: rest)) = some (name.text.length + 2) := by
  have takes : (name.text ++ '>' :: rest).takeWhile Text.isWordChar = name.text :=
    Text.takeWhile_of_stop name.word (Text.isWordChar_eq_false '>' (by decide)) rest
  have filled : name.text.isEmpty = false := by simpa using name.nonempty
  simp [groupName?, takes, filled]

theorem everywhere_named (letter : Bool) (name : GroupName) (rest : Text) :
    namedGroup.everywhere ((Opening.named letter name).written ++ rest) =
      '(' :: namedGroup.everywhere rest := by
  have taken := groupName?_eq name rest
  cases letter with
  | true =>
      have applies : namedGroup.front ('(' :: '?' :: 'P' :: '<' :: (name.text ++ '>' :: rest)) =
          some (['('], name.text.length + 2 + 2) := by
        simp [namedGroup, taken]
      have passed := everywhere_cons_of_some applies
      simpa [Opening.written] using passed
  | false =>
      have applies : namedGroup.front ('(' :: '?' :: '<' :: (name.text ++ '>' :: rest)) =
          some (['('], name.text.length + 2 + 1) := by
        simp [namedGroup, taken]
      have passed := everywhere_cons_of_some applies
      simpa [Opening.written] using passed

theorem everywhere_bare (rest : Text) :
    namedGroup.everywhere (Opening.bare.written ++ rest) =
      Opening.bare.written ++ namedGroup.everywhere rest := by
  have misses : namedGroup.front ('(' :: '?' :: ':' :: rest) = none := by
    simp [namedGroup, groupName?]
  have passed : namedGroup.everywhere (['?', ':'] ++ rest) =
      ['?', ':'] ++ namedGroup.everywhere rest :=
    needs_namedGroup.everywhere_append (by decide)
  simp only [Opening.written, List.cons_append, List.nil_append] at passed ⊢
  rw [everywhere_cons_of_none misses, passed]

theorem everywhere_capturing (apart : rest.head? ≠ some '?') :
    namedGroup.everywhere ('(' :: rest) = '(' :: namedGroup.everywhere rest := by
  apply everywhere_cons_of_none
  apply needs_namedGroup.front_eq_none
  intro start
  rcases (List.cons_prefix_cons.mp start).2 with ⟨tail, rfl⟩
  exact apart rfl

theorem head?_written (opening : Opening) : opening.written.head? = some '(' := by
  cases opening <;> rfl

theorem head?_unnamed (opening : Opening) : opening.unnamed.head? = some '(' := by
  cases opening <;> rfl

/-- The first pass takes the names out of all openings, at any depth. -/
theorem everywhere_written (tree : Tree) (rest : Text) :
    namedGroup.everywhere (tree.printed Opening.written ++ rest) =
      tree.printed Opening.unnamed ++ namedGroup.everywhere rest := by
  induction tree generalizing rest with
  | letter c word =>
      exact needs_namedGroup.everywhere_append (Text.not_mem_wordChar word _ (by decide))
  | bar => exact needs_namedGroup.everywhere_append (by decide)
  | append left right ihLeft ihRight =>
      rw [printed, List.append_assoc, ihLeft, ihRight, printed, List.append_assoc]
  | group opening body ih =>
      have close : namedGroup.everywhere ([')'] ++ rest) = [')'] ++ namedGroup.everywhere rest :=
        needs_namedGroup.everywhere_append (by decide)
      simp only [printed, List.append_assoc]
      cases opening with
      | capturing =>
          have apart : (body.printed Opening.written ++ ([')'] ++ rest)).head? ≠ some '?' :=
            body.head?_printed head?_written (by simp) _
          have passed := everywhere_capturing apart
          rw [ih, close] at passed
          exact passed
      | bare => rw [everywhere_bare, ih, close]; rfl
      | named letter name => rw [everywhere_named, ih, close]; rfl

/-! ## Openings that capture nothing -/

/-- The last pass, inside a body that is copied or elsewhere. -/
def bareFrom (copying : Bool) : Text → Text :=
  (Pattern.group ['(', '?', ':']).passing ['%', '('] [')'] copying

theorem everywhere_bareGroup : bareGroup.everywhere = bareFrom false := rfl

theorem bareFrom_nil : bareFrom copying [] = [] := by
  cases copying <;> rfl

theorem bareFrom_append {chunk : Text} (noOpening : '(' ∉ chunk) (noClose : ')' ∉ chunk) :
    bareFrom copying (chunk ++ rest) = chunk ++ bareFrom copying rest :=
  Enclosure.passing_append _ rfl noOpening rfl noClose

/-- A closing parenthesis ends the copying. -/
theorem bareFrom_close (copying : Bool) (rest : Text) :
    bareFrom copying (')' :: rest) = ')' :: bareFrom false rest := by
  cases copying with
  | false =>
      have passed : bareGroup.everywhere ([')'] ++ rest) = [')'] ++ bareGroup.everywhere rest :=
        needs_bareGroup.everywhere_append (by decide)
      exact passed
  | true => exact Enclosure.closing_close _ (by decide) rest

theorem bareFrom_opening (opening : Opening) (copying : Bool) (closed : (upTo? [')'] rest).isSome)
    (noQuestion : rest.head? ≠ some '?') (filled : rest.head? ≠ some ')') :
    bareFrom copying (opening.unnamed ++ rest) =
      opening.emitted copying ++ bareFrom (copying || opening.isBare) rest := by
  cases copying with
  | true =>
      apply Enclosure.closing_append _ rfl
      cases opening <;> simp [Opening.unnamed]
  | false =>
      have plain : bareGroup.everywhere ('(' :: rest) = '(' :: bareGroup.everywhere rest := by
        apply everywhere_cons_of_none
        apply needs_bareGroup.front_eq_none
        intro start
        rcases (List.cons_prefix_cons.mp start).2 with ⟨tail, rfl⟩
        exact noQuestion rfl
      cases opening with
      | capturing => exact plain
      | named letter name => exact plain
      | bare =>
          apply Enclosure.everywhere_opening _ (by decide) (by decide) closed
          right
          rintro ⟨tail, rfl⟩
          exact filled rfl

/-- An opening is written anew unless a body is being copied, and the copying ends with the first
group that ends. -/
theorem bareFrom_unnamed (tree : Tree) (copying : Bool) (rest : Text) :
    bareFrom copying (tree.printed Opening.unnamed ++ rest) =
      tree.emitted copying ++ bareFrom (copying && !tree.hasGroup) rest := by
  induction tree generalizing copying rest with
  | letter c word =>
      have passed : bareFrom copying ([c] ++ rest) = [c] ++ bareFrom copying rest :=
        bareFrom_append (Text.not_mem_wordChar word _ (by decide))
          (Text.not_mem_wordChar word _ (by decide))
      simp only [hasGroup, Bool.not_false, Bool.and_true]
      exact passed
  | bar =>
      have passed : bareFrom copying (['|'] ++ rest) = ['|'] ++ bareFrom copying rest :=
        bareFrom_append (by decide) (by decide)
      simp only [hasGroup, Bool.not_false, Bool.and_true]
      exact passed
  | append left right ihLeft ihRight =>
      rw [printed, List.append_assoc, ihLeft, ihRight]
      simp [emitted, hasGroup, Bool.and_assoc]
  | group opening body ih =>
      have chars : Text.Over ['|', ')', '(', '?', ':'] (body.printed Opening.unnamed) :=
        over_printed (fun opening => opening.over_unnamed.mono _ (by simp)) (by simp)
      have sameLine : '\n' ∉ body.printed Opening.unnamed := chars.not_mem (by decide) (by decide)
      have closed := isSome_upTo? [')'] (by decide) sameLine rest
      have apart : ∀ sign ∈ ['?', ')'],
          (body.printed Opening.unnamed ++ (')' :: rest)).head? ≠ some sign :=
        fun sign isSign => body.head?_printed head?_unnamed isSign _
      have opened := bareFrom_opening opening copying closed (apart '?' (by decide))
        (apart ')' (by decide))
      simp only [printed, List.append_assoc, List.cons_append, List.nil_append] at opened ⊢
      rw [opened, ih, bareFrom_close]
      simp [emitted, hasGroup]

/-! ## The whole pattern -/

theorem over_emitted (tree : Tree) (copying : Bool) :
    Text.Over ['|', ')', '(', '?', ':', '%'] (tree.emitted copying) := by
  induction tree generalizing copying with
  | letter c word => exact Text.over_wordChar word
  | bar =>
      have bar : Text.Over ['|', ')', '(', '?', ':', '%'] ['|'] := Text.over_of_subset (by simp)
      exact bar
  | append left right ihLeft ihRight => exact (ihLeft _).append (ihRight _)
  | group opening body ih =>
      have opened : Text.Over ['|', ')', '(', '?', ':', '%'] (opening.emitted copying) := by
        cases copying with
        | false => exact opening.over_inVim.mono _ (by simp)
        | true => exact opening.over_unnamed.mono _ (by simp)
      have closed : Text.Over ['|', ')', '(', '?', ':', '%'] [')'] := Text.over_of_subset (by simp)
      exact opened.append ((ih _).append closed)

theorem toVim_printed (tree : Tree) :
    toVim .regular (tree.printed Opening.written) = veryMagic ++ tree.emitted false := by
  have chars : Text.Over ['|', ')', '(', '?', ':', '<', '>'] (tree.printed Opening.written) :=
    over_printed (fun opening => opening.over_written.mono _ (by simp)) (by simp)
  have follows := tree.follows_printed
  have plain : '\\' ∉ tree.printed Opening.written := chars.not_mem (by decide) (by decide)
  have quantifiers := reluctantQuantifiers_eq_of_over chars (by decide)
    (follows.apart (by decide))
  have switches : caseSwitches (tree.printed Opening.written) = tree.printed Opening.written := by
    apply caseSwitches_eq
    · intro inside
      exact follows.apart (c := 'i') (by decide) (List.IsInfix.trans ⟨['('], [')'], rfl⟩ inside)
    · intro inside
      exact follows.apart (c := '-') (by decide)
        (List.IsInfix.trans ⟨['('], ['i', ')'], rfl⟩ inside)
  have named : namedGroup.everywhere (tree.printed Opening.written) =
      tree.printed Opening.unnamed := by
    simpa using everywhere_written tree []
  have bare : bareGroup.everywhere (tree.printed Opening.unnamed) = tree.emitted false := by
    simpa [everywhere_bareGroup, bareFrom_nil] using bareFrom_unnamed tree false []
  have overEmitted := over_emitted tree false
  rw [toVim_regular, vimOperator_eq_of_over chars (by decide),
    quantifiers, wordBoundary_anchors_eq (free_escapes plain), switches, named, bare,
    characterCodes_eq (free_escapes (overEmitted.not_mem (by decide) (by decide))), expandAll_eq]
  exact Text.not_infix (c := '[') (by simp) (overEmitted.not_mem (by decide) (by decide))

/-! ## Openings that are left -/

/-- Whether all openings are written anew, if the pattern begins inside a body that is copied, or
elsewhere. -/
def isClear (copying : Bool) (tree : Tree) : Bool :=
  tree.isApart && !(copying && tree.opensBare)

theorem isClear_append (left right : Tree) :
    (append left right).isClear copying =
      (left.isClear copying && right.isClear (copying && !left.hasGroup)) := by
  simp only [isClear, isApart, opensBare]
  cases copying <;> cases left.hasGroup <;> cases left.opensBare <;> simp [Bool.and_assoc]

theorem isClear_group (opening : Opening) (body : Tree) :
    (group opening body).isClear copying =
      (!(copying && opening.isBare) && body.isClear (copying || opening.isBare)) := by
  simp only [isClear, isApart, opensBare]
  cases copying <;> cases opening.isBare <;> simp

theorem mem_emitted_opening (opening : Opening) :
    '?' ∈ opening.emitted copying ↔ (copying && opening.isBare) = true := by
  cases copying <;> cases opening <;>
    simp [Opening.emitted, Opening.unnamed, Opening.inVim, Opening.isBare]

theorem emitted_opening (clear : (copying && opening.isBare) = false) :
    opening.emitted copying = opening.inVim := by
  cases copying with
  | false => rfl
  | true => cases opening <;> first | rfl | simp [Opening.isBare] at clear

theorem mem_emitted (tree : Tree) (copying : Bool) :
    '?' ∈ tree.emitted copying ↔ tree.isClear copying = false := by
  induction tree generalizing copying with
  | letter c word =>
      have absent : '?' ∉ [c] := Text.not_mem_wordChar word _ (by decide)
      simpa [emitted, isClear, isApart, opensBare] using absent
  | bar => simp [emitted, isClear, isApart, opensBare]
  | append left right ihLeft ihRight =>
      rw [emitted, List.mem_append, ihLeft, ihRight, isClear_append, Bool.and_eq_false_iff]
  | group opening body ih =>
      rw [emitted, List.mem_append, List.mem_append, ih, mem_emitted_opening, isClear_group,
        Bool.and_eq_false_iff]
      simp

theorem emitted_of_isClear {tree : Tree} (clear : tree.isClear copying = true) :
    tree.emitted copying = tree.printed Opening.inVim := by
  induction tree generalizing copying with
  | letter c word => rfl
  | bar => rfl
  | append left right ihLeft ihRight =>
      rw [isClear_append, Bool.and_eq_true] at clear
      rw [emitted, printed, ihLeft clear.1, ihRight clear.2]
  | group opening body ih =>
      rw [isClear_group, Bool.and_eq_true, Bool.not_eq_true'] at clear
      rw [emitted, printed, ih clear.2, emitted_opening clear.1]

/-- The groups of a pattern are carried over one by one, except the openings that a copied body
takes along. All openings become openings of Vim, so that no question mark is left, just if no
group that captures nothing begins inside another one before any group has ended there. -/
theorem toVim_groups (tree : Tree) :
    toVim .regular (tree.printed Opening.written) = veryMagic ++ tree.emitted false ∧
      (toVim .regular (tree.printed Opening.written) = veryMagic ++ tree.printed Opening.inVim ↔
        tree.isApart = true) ∧
      ('?' ∉ toVim .regular (tree.printed Opening.written) ↔ tree.isApart = true) := by
  have whole := toVim_printed tree
  have noMark : '?' ∉ veryMagic := by decide
  have left : '?' ∉ tree.emitted false ↔ tree.isApart = true := by
    simpa [isClear] using not_congr (mem_emitted tree false)
  refine ⟨whole, ?_, ?_⟩
  · rw [whole, List.append_cancel_left_eq]
    constructor
    · intro same
      apply left.mp
      rw [same]
      have chars : Text.Over ['|', ')', '%', '('] (tree.printed Opening.inVim) :=
        over_printed (fun opening => opening.over_inVim.mono _ (by simp)) (by simp)
      exact chars.not_mem (by decide) (by decide)
    · intro apart
      apply emitted_of_isClear
      simpa [isClear] using apart
  · rw [whole, List.mem_append, or_iff_right noMark]
    exact left

/-- A group that captures nothing inside another one: `(?:a(?:b)c)`. -/
def nested : Tree :=
  group .bare (append (letter 'a' Text.isWordChar_a)
    (append (group .bare (letter 'b' Text.isWordChar_b))
      (letter 'c' Text.isWordChar_c)))

/-- The opening of the inner group is left as it was. -/
theorem toVim_nested :
    toVim .regular (nested.printed Opening.written) = veryMagic ++ "%(a(?:b)c)".toList ∧
      nested.printed Opening.inVim = "%(a%(b)c)".toList := by
  constructor
  · rw [toVim_printed]
    rfl
  · rfl

end Tree

end ProjectTags.Pattern
