import ProjectTags.Machine.Fault
import ProjectTags.Text.Quoted

/-!
# Failures

The ways in which an operation on tag databases fails, and how each is told to the user.
-/

namespace ProjectTags

/-- What operations come to can be compared, be it a result or a failure. -/
instance decidableEqExcept {ε α : Type} [DecidableEq ε] [DecidableEq α] :
    DecidableEq (Except ε α)
  | .ok a, .ok b => decidable_of_iff (a = b) ⟨congrArg Except.ok, Except.ok.inj⟩
  | .error a, .error b => decidable_of_iff (a = b) ⟨congrArg Except.error, Except.error.inj⟩
  | .ok _, .error _ => isFalse nofun
  | .error _, .ok _ => isFalse nofun

/-- A reason for which an operation fails. -/
inductive Failure where
  /-- A directory or a file could not be read, written or removed. -/
  | fileSystem (path : Text) (cause : Fault)
  /-- A program could not be run or reported an error. -/
  | program (command message : Text)
  /-- A setting cannot be used. -/
  | configuration (message : Text)
  /-- A line of a library registry is no entry. -/
  | malformedEntry (lineNumber : Nat) (line : Text)
  /-- The user did not agree to a removal. -/
  | declined (path : Text)
  /-- A job came after the update worker had stopped. -/
  | stopped
  deriving DecidableEq, Repr

namespace Failure

/-- The text of a failure. -/
def message : Failure → Text
  | fileSystem path cause =>
      "filesystem error at ".toList ++ path ++ ": ".toList ++ cause.message
  | program command text => ['\x60'] ++ command ++ "\x60 failed: ".toList ++ text
  | configuration text => "configuration error: ".toList ++ text
  | malformedEntry lineNumber line =>
      "malformed library registry record at line ".toList ++ Text.digits lineNumber ++
        ": ".toList ++ Text.quoted line
  | declined path => "removal of ".toList ++ path ++ " was not confirmed".toList
  | stopped => "update scheduler has been shut down".toList

end Failure

end ProjectTags
