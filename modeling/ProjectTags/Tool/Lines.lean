import ProjectTags.Tool.Input

/-!
# Tools on lines

Tools that put lines in order, compare neighbours and count.
-/

namespace ProjectTags.Tool.Lines

/-- A number in a field of a width. -/
def inField (width n : Nat) : Text :=
  let shown := Text.digits n
  List.replicate (width - shown.length) ' ' ++ shown

/-- The whole number at the front of a line. -/
def numberOf (line : Text) : Int :=
  match line.dropWhile fun c => c = ' ' || c = '\t' with
  | '-' :: rest => -Int.ofNat (Text.valueOf (rest.takeWhile Text.isDigit))
  | rest => Int.ofNat (Text.valueOf (rest.takeWhile Text.isDigit))

/-- Whether lines count as equal. -/
def isSame (given : Given) (first second : Text) : Bool :=
  if given.has 'n' then numberOf first = numberOf second else first = second

/-- Whether a line may stand before another one. Lines with the same number are compared as texts,
unless only one of them is written. -/
def mayPrecede (given : Given) (first second : Text) : Bool :=
  let (first, second) := if given.has 'r' then (second, first) else (first, second)
  if given.has 'n' && numberOf first != numberOf second then numberOf first < numberOf second
  else (given.has 'n' && given.has 'u') || !Utf8.precedes second first

/-- Writes lines in order. -/
def sort : Tool := fun call =>
  call.given 2 "nru" "" [("numeric-sort", 'n'), ("reverse", 'r'), ("unique", 'u')] fun given =>
    let gathered := gatherWith (trouble "cannot read: ".toList) call given.operands
    if !gathered.complaints.isEmpty then
      { call.ends 2 with written := gathered.complaints.take 1 }
    else
      let lines := gathered.inputs.flatMap fun input => linesOf input.2
      let sorted := lines.mergeSort (mayPrecede given)
      gathered.finish 0
        ((if given.has 'u' then sorted.eraseDupsBy (isSame given) else sorted).flatMap ended)

/-- The runs of neighbouring lines that are the same, each with how many lines it has. -/
def runs (lines : List Text) : List (Nat × Text) :=
  (lines.foldl (fun found line =>
    match found with
    | (count, first) :: others =>
        if first = line then (count + 1, first) :: others else (1, line) :: (count, first) :: others
    | [] => [(1, line)]) []).reverse

/-- Writes one line of each run of neighbouring lines that are the same. -/
def uniq : Tool := fun call =>
  call.given 1 "cdu" "" [("count", 'c'), ("repeated", 'd'), ("unique", 'u')] fun given =>
    let gathered := gather call (given.operands.take 1)
    let chosen := (runs (linesOf gathered.bytes)).filter fun run =>
      (!given.has 'd' || 1 < run.1) && (!given.has 'u' || run.1 = 1)
    gathered.finish (gathered.status 1) (chosen.flatMap fun (count, line) =>
      (if given.has 'c' then inField 7 count ++ [' '] else []) ++ ended line)

/-- How many words some bytes have. -/
def wordCount (bytes : Bytes) : Nat :=
  (bytes.foldl (fun (count, inside) b =>
    let blank := b = 32 || (9 ≤ b && b ≤ 13)
    if blank then (count, false) else if inside then (count, true) else (count + 1, true))
    ((0 : Nat), false)).1

/-- The counts that switches ask for. -/
def counts (given : Given) (bytes : Bytes) : List Nat :=
  let all := given.switches.isEmpty
  (if all || given.has 'l' then [bytes.count Bytes.lineBreak] else []) ++
    (if all || given.has 'w' then [wordCount bytes] else []) ++
    (if all || given.has 'c' then [bytes.length] else [])

/-- Counts lines, words and bytes. The fields are as wide as the size of all files, or seven wide if
a size is not known beforehand. -/
def wc : Tool := fun call =>
  call.given 1 "lwc" "" [("lines", 'l'), ("words", 'w'), ("bytes", 'c')] fun given =>
    let gathered := gather call given.operands
    let size := Text.digits (gathered.inputs.foldl (fun sum input => sum + input.2.length) 0)
    let piped := gathered.inputs.any (·.1 = ['-']) && !call.seekable
    let single := (counts given []).length = 1 && given.operands.length ≤ 1
    let width := if single then 1 else if piped then max 7 size.length else size.length
    let line (numbers : List Nat) (name : Text) : Text :=
      Text.joinWith [' '] (numbers.map (inField width)) ++
        (if name.isEmpty then [] else ' ' :: name) ++ ['\n']
    let each := gathered.inputs.map fun (name, bytes) => (counts given bytes, name)
    let lines := each.flatMap fun (numbers, name) =>
      line numbers (if given.operands.isEmpty then [] else name)
    let total := if 1 < given.operands.length then
      line (each.foldl (fun sum entry => List.zipWith (· + ·) sum entry.1) (counts given []))
        "total".toList else []
    gathered.finish (gathered.status 1) (lines ++ total)

end ProjectTags.Tool.Lines
