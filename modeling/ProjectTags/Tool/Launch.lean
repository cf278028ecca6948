import ProjectTags.Machine.Search
import ProjectTags.Tool.Input

/-!
# Running other programs, and waiting

A program is searched for as a shell searches for it. The tool `xargs` runs a program with the words
of its input as arguments. The tool `sleep` waits.
-/

namespace ProjectTags.Tool

/-- The shell that reads scripts which name no program to read them. -/
def scriptShell : Text := "/bin/sh".toList

/-- What running a program comes to that is named by its path or searched for by its name. -/
def runNamed (runner : Runner) (call : Call) (name : Text) (arguments : List Text) :
    Except Fault Result :=
  call.machine.trySearch (fun path =>
    match runner path { call with name := name, arguments := arguments } with
    | .error .noExecutable =>
        runner scriptShell { call with name := scriptShell, arguments := path :: arguments }
    | outcome => outcome) name

/-- The status of a tool whose program could not be run. -/
def unstarted (fault : Fault) : Nat :=
  if fault = .notFound || fault = .notDirectory then 127 else 126

namespace Launch

/-- Waits for some seconds, which here are over at once. -/
def sleep : Tool := fun call =>
  call.given 1 "" "" [] fun given =>
    match given.operands, given.operands.find? fun text => text.isEmpty || !text.all Text.isDigit with
    | [], _ => call.misused 1 "missing operand".toList
    | _, some operand => call.misused 1 ("invalid time interval ".toList ++ inQuotes operand)
    | _, none => call.ends 0

/-- What is said about a quote without a partner on its line. -/
def unmatched (quote : Char) : Text :=
  "unmatched ".toList ++ (if quote = '"' then "double" else "single").toList ++
    " quote; by default quotes are special to xargs unless you use the -0 option".toList

/-- The words of a text, in which blanks separate words unless quotes or a backslash keep them. The
state is the quote that is open and the word so far, its last character first. -/
def readWords : Text → Option Char → Option Text → Except Text (List Text)
  | [], none, word? => .ok (word?.toList.map List.reverse)
  | [], some quote, _ => .error (unmatched quote)
  | c :: rest, some quote, word? =>
      if c = quote then readWords rest none (some (word?.getD []))
      else if c = '\n' then .error (unmatched quote)
      else readWords rest (some quote) (some (c :: word?.getD []))
  | '\\' :: c :: rest, none, word? => readWords rest none (some (c :: word?.getD []))
  | c :: rest, none, word? =>
      if c = '\'' || c = '"' then readWords rest (some c) (some (word?.getD []))
      else if c = ' ' || c = '\t' || c = '\n' then do
        return word?.toList.map List.reverse ++ (← readWords rest none none)
      else readWords rest none (some (c :: word?.getD []))

/-- Runs a program with the words of the input as arguments. -/
def xargs (runner : Runner) : Tool := fun call =>
  call.leading 1 "r" "" [("no-run-if-empty", 'r')] fun given =>
    match readWords (SingleByte.ofBytes call.input) none none with
    | .error message => call.fails 1 message
    | .ok words =>
        if words.isEmpty && given.has 'r' then call.drained.ends 0
        else
          let program := given.operands.headD "echo".toList
          match runNamed runner call.drained program (given.operands.drop 1 ++ words) with
          | .error fault => call.fails (unstarted fault) (trouble [] program fault)
          | .ok result => if result.statusNumber = 0 then result else result.withStatus 123

end Launch

end ProjectTags.Tool
