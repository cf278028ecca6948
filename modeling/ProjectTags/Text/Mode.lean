import ProjectTags.Text.Decimal

/-!
# Rights of files

The rights to read, to write and to execute a file, for its owner, its group and others, are nine
bits, which are written as an octal number or changed by clauses such as `u+x,go-w`.
-/

namespace ProjectTags.Text

/-- Whether a character is an octal digit. -/
def isOctal (c : Char) : Bool := '0' ≤ c && c ≤ '7'

/-- The number that some octal digits stand for. -/
def octalValue (text : Text) : Nat :=
  text.foldl (fun value c => 8 * value + (c.toNat - 48)) 0

/-- The bits of a class of users. -/
def classBits : Char → Nat
  | 'u' => 0o700
  | 'g' => 0o070
  | 'o' => 0o007
  | 'a' => 0o777
  | _ => 0

/-- The bits of a right, for all classes of users. -/
def rightBits : Char → Nat
  | 'r' => 0o444
  | 'w' => 0o222
  | 'x' => 0o111
  | 'X' => 0o111
  | _ => 0

/-- The bits that are in some bits and in others not. -/
def withoutBits (bits others : Nat) : Nat := bits - (bits &&& others)

/-- Changes rights by the operators of a clause, within a number of operators. -/
def changeRights : Nat → Nat → Nat → Text → Option Nat
  | _, rights, _, [] => some rights
  | 0, _, _, _ => none
  | steps + 1, rights, classes, operator :: rest =>
      let letters := rest.takeWhile fun c => rightBits c != 0
      let bits := (letters.foldl (fun bits c => bits ||| rightBits c) 0) &&& classes
      let after := rest.drop letters.length
      match operator with
      | '+' => changeRights steps (rights ||| bits) classes after
      | '-' => changeRights steps (withoutBits rights bits) classes after
      | '=' => changeRights steps (withoutBits rights classes ||| bits) classes after
      | _ => none

/-- Changes rights by one clause. A clause without classes is about all of them. -/
def applyClause (rights : Nat) (clause : Text) : Option Nat :=
  let letters := clause.takeWhile fun c => classBits c != 0
  let classes := letters.foldl (fun bits c => bits ||| classBits c) 0
  let rest := clause.drop letters.length
  if rest.isEmpty then none
  else changeRights rest.length rights (if classes = 0 then 0o777 else classes) rest

/-- Changes rights by clauses. -/
def applyMode (rights : Nat) (mode : Text) : Option Nat :=
  if !mode.isEmpty && mode.all isOctal then some (octalValue mode)
  else (pieces ',' mode).foldlM applyClause rights

end ProjectTags.Text
