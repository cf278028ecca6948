import ProjectTags.Text.Basic

/-!
# UTF-8

Files hold bytes. `encode` writes a text in UTF-8, `decode?` reads bytes that are valid UTF-8, and
`decodeLossy` reads any bytes, with one replacement character for each longest run of bytes that
starts a character but does not complete it. All three go by the table `leadRow?` of lead bytes
with the number of bytes that follow and the range of the first of them.
-/

namespace ProjectTags

/-- The content of a file, or what a program writes. -/
abbrev Bytes := List UInt8

/-- Whether some bytes come before others or are the same, in the order of a dictionary. -/
def Bytes.precedes : Bytes → Bytes → Bool
  | [], _ => true
  | _ :: _, [] => false
  | first :: others, second :: rest =>
      first.toNat < second.toNat || (first = second && precedes others rest)

namespace Utf8

/-- For a lead byte of a character of several bytes: how many follow, and the least and the
greatest value of the first that follows. -/
def leadRow? (lead : Nat) : Option (Nat × Nat × Nat) :=
  if lead < 0xC2 then none
  else if lead ≤ 0xDF then some (1, 0x80, 0xBF)
  else if lead = 0xE0 then some (2, 0xA0, 0xBF)
  else if lead = 0xED then some (2, 0x80, 0x9F)
  else if lead ≤ 0xEF then some (2, 0x80, 0xBF)
  else if lead = 0xF0 then some (3, 0x90, 0xBF)
  else if lead ≤ 0xF3 then some (3, 0x80, 0xBF)
  else if lead = 0xF4 then some (3, 0x80, 0x8F)
  else none

/-- The payload bits of a lead byte that some number of bytes follows. -/
def leadBits (lead following : Nat) : Nat :=
  if following = 1 then lead % 32 else if following = 2 then lead % 16 else lead % 8

/-- Reads the bytes that follow a lead byte. The code is absent if one is missing or out of its
range; the bytes from there on are left over. -/
def follow : Nat → Nat → Nat → Nat → Bytes → Option Nat × Bytes
  | 0, _, _, code, rest => (some code, rest)
  | _ + 1, _, _, _, [] => (none, [])
  | following + 1, least, greatest, code, b :: rest =>
      if least ≤ b.toNat && b.toNat ≤ greatest then
        follow following 0x80 0xBF (64 * code + b.toNat % 64) rest
      else (none, b :: rest)

theorem length_follow_le (following least greatest code : Nat) (bytes : Bytes) :
    (follow following least greatest code bytes).2.length ≤ bytes.length := by
  induction bytes generalizing following least greatest code with
  | nil => cases following <;> simp [follow]
  | cons b rest ih =>
      cases following with
      | zero => simp [follow]
      | succ following =>
          simp only [follow]
          split
          · exact Nat.le_succ_of_le (ih _ _ _ _)
          · simp

/-- The characters of a sequence of bytes, with a gap for each part that is no character. -/
def scan : Bytes → List (Option Char)
  | [] => []
  | b :: rest =>
      if b.toNat < 0x80 then some (Char.ofNat b.toNat) :: scan rest
      else
        match leadRow? b.toNat with
        | none => none :: scan rest
        | some (following, least, greatest) =>
            let result := follow following least greatest (leadBits b.toNat following) rest
            result.1.map Char.ofNat :: scan result.2
termination_by bytes => bytes.length
decreasing_by
  · simp
  · simp
  · have shorter := length_follow_le following least greatest (leadBits b.toNat following) rest
    simp only [List.length_cons]
    omega

/-- The text that the bytes are the UTF-8 form of. -/
def decode? (bytes : Bytes) : Option Text :=
  (scan bytes).mapM id

/-- The text that the bytes stand for, with replacement characters where they are no UTF-8. -/
def decodeLossy (bytes : Bytes) : Text :=
  (scan bytes).map (·.getD '\uFFFD')

/-- The bytes of one character. -/
def encodeChar (c : Char) : Bytes :=
  let code := c.toNat
  if code < 0x80 then [UInt8.ofNat code]
  else if code < 0x800 then [UInt8.ofNat (0xC0 + code / 64), UInt8.ofNat (0x80 + code % 64)]
  else if code < 0x10000 then
    [UInt8.ofNat (0xE0 + code / 4096), UInt8.ofNat (0x80 + code / 64 % 64),
      UInt8.ofNat (0x80 + code % 64)]
  else
    [UInt8.ofNat (0xF0 + code / 262144), UInt8.ofNat (0x80 + code / 4096 % 64),
      UInt8.ofNat (0x80 + code / 64 % 64), UInt8.ofNat (0x80 + code % 64)]

/-- The UTF-8 form of a text. -/
def encode (text : Text) : Bytes :=
  text.flatMap encodeChar

/-- How many bytes the UTF-8 form of a text has. -/
def length (text : Text) : Nat :=
  (encode text).length

/-- Whether a text comes before another one or is the same, by the bytes of both. -/
def precedes (first second : Text) : Bool :=
  Bytes.precedes (encode first) (encode second)

end Utf8

end ProjectTags

/-!
## Text of single bytes

Where a locale knows no encoding, every byte is a character of its own. Such a text is written
with the characters of the codes below 256, so that rules on texts apply to it and no byte is
lost. `ofText` and `toText` go over from the usual texts and back.
-/

namespace ProjectTags.SingleByte

/-- The text with one character for each byte. -/
def ofBytes (bytes : Bytes) : Text :=
  bytes.map fun b => Char.ofNat b.toNat

/-- The bytes of a text of single bytes. -/
def toBytes (text : Text) : Bytes :=
  text.map fun c => UInt8.ofNat c.toNat

/-- The bytes of a text, each as a character. -/
def ofText (text : Text) : Text :=
  ofBytes (Utf8.encode text)

/-- The text that single bytes stand for, with replacement characters where they are no UTF-8. -/
def toText (text : Text) : Text :=
  Utf8.decodeLossy (toBytes text)

end ProjectTags.SingleByte
