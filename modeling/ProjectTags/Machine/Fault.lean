import ProjectTags.Text.Decimal

/-!
# Faults

What the operating system answers when it cannot do what it was asked for, with the text and the
number it reports.
-/

namespace ProjectTags

/-- A reason for which the operating system refuses a request. -/
inductive Fault where
  | notFound
  | noExecutable
  | permissionDenied
  | busy
  | alreadyExists
  | notDirectory
  | isDirectory
  | invalidArgument
  | nameTooLong
  | notEmpty
  /-- Scripts name each other as interpreters without end. -/
  | tooManyLinks
  /-- The content of a file is no valid UTF-8. -/
  | invalidUtf8
  /-- A path holds the character of code zero. -/
  | zeroInPath
  /-- An argument or a variable of a program holds the character of code zero. -/
  | zeroInArgument
  deriving DecidableEq, Repr

namespace Fault

/-- The number of a fault of the operating system. -/
def code? : Fault → Option Nat
  | notFound => some 2
  | noExecutable => some 8
  | permissionDenied => some 13
  | busy => some 16
  | alreadyExists => some 17
  | notDirectory => some 20
  | isDirectory => some 21
  | invalidArgument => some 22
  | nameTooLong => some 36
  | notEmpty => some 39
  | tooManyLinks => some 40
  | invalidUtf8 | zeroInPath | zeroInArgument => none

/-- What a fault is called. -/
def description : Fault → Text
  | notFound => "No such file or directory".toList
  | noExecutable => "Exec format error".toList
  | permissionDenied => "Permission denied".toList
  | busy => "Device or resource busy".toList
  | alreadyExists => "File exists".toList
  | notDirectory => "Not a directory".toList
  | isDirectory => "Is a directory".toList
  | invalidArgument => "Invalid argument".toList
  | nameTooLong => "File name too long".toList
  | notEmpty => "Directory not empty".toList
  | tooManyLinks => "Too many levels of symbolic links".toList
  | invalidUtf8 => "stream did not contain valid UTF-8".toList
  | zeroInPath => "file name contained an unexpected NUL byte".toList
  | zeroInArgument => "nul byte found in provided data".toList

/-- The text of a fault, with its number if it has one. -/
def message (fault : Fault) : Text :=
  match fault.code? with
  | some code => fault.description ++ " (os error ".toList ++ Text.digits code ++ [')']
  | none => fault.description

end Fault

end ProjectTags
